import MediaMasterr.Foundations.ThreeValued
import MediaMasterr.RuleEngine.Operators

/-! # The two rule evaluators

`_evaluate_node`, which short-circuits, collects evidence and reads an
unavailable value as a failed condition, and `_evaluate_node_state`, which
evaluates every child and answers in three-valued logic. Both raise whatever
`_matches_operator` raises on a condition they reach. -/

namespace MediaMasterr.RuleEngine

open MediaMasterr.Foundations

/-- A node of a rule definition as the evaluators read it: the entries of a JSON object
that they look up (`none` for a missing key; for `children`, also for a value that is
not a list), or a JSON value that is not an object. -/
inductive RuleNode where
  | object (type : PyValue) (op : Option PyValue) (children : Option (List RuleNode))
      (field operator : Option PyValue) (value : PyValue)
  | scalar

namespace RuleNode

/-- `isinstance(node, dict)`. -/
def isDict : RuleNode → Bool
  | .object .. => true
  | .scalar => false

def condition (field operator : String) (value : PyValue) : RuleNode :=
  .object (.str "condition") none none (some (.str field)) (some (.str operator)) value

def group (op : String) (children : List RuleNode) : RuleNode :=
  .object (.str "group") (some (.str op)) (some children) none none .none

end RuleNode

/-- `context.get(field)`: `PyValue.none` for a missing field. -/
abbrev Context := String → PyValue

/-- A reason of `_build_reason_condition`, without its labels and display text. -/
structure Reason where
  field : String
  operator : String
  expected : PyValue
  actual : PyValue

/-- The `matched` dictionary and the `reasons` list. -/
structure Evidence where
  matched : List (String × PyValue) := []
  reasons : List Reason := []

namespace Evidence

/-- `matched[field] = value`. -/
def setMatched (field : String) (value : PyValue) (e : Evidence) : Evidence :=
  if e.matched.any (·.1 == field) then
    { e with matched := e.matched.map fun kv => if kv.1 = field then (field, value) else kv }
  else { e with matched := e.matched ++ [(field, value)] }

/-- `matched.update(child_matched); reasons.extend(child_reasons)`. -/
def absorb (e child : Evidence) : Evidence :=
  let merged := child.matched.foldl (fun acc kv => acc.setMatched kv.1 kv.2) e
  { merged with reasons := merged.reasons ++ child.reasons }

end Evidence

namespace PythonRuntime

variable (py : PythonRuntime) (ctx : Context)

/-- `str(node.get(key, ""))`. -/
def strEntry (entry : Option PyValue) : String := py.str (entry.getD (.str ""))

/-- The groups that both evaluators look into: `and` or `or` over a nonempty list of
objects. -/
def validGroup (op : Option PyValue) (nodes : List RuleNode) : Bool :=
  let name := py.lower (py.strEntry op)
  (name == "and" || name == "or") && !nodes.isEmpty && nodes.all RuleNode.isDict

/-- `_evaluate_condition`. -/
def evaluateCondition (field operator : Option PyValue) (value : PyValue) (e : Evidence) :
    Except PyError (Bool × Evidence) := do
  let field := py.strEntry field
  let operator := py.strEntry operator
  let actual := ctx field
  if ← py.matchesOperator field actual operator value then
    let shown := match actual with
      | .datetime t => PyValue.str (py.isoformat t)
      | v => v
    let e := e.setMatched field shown
    return (true, { e with reasons := e.reasons ++ [⟨field, operator, value, actual⟩] })
  return (false, e)

mutual

/-- `_evaluate_node`. -/
def evaluateNode : RuleNode → Evidence → Except PyError (Bool × Evidence)
  | .scalar, _ => .error .attributeError
  | .object type op children field operator value, e =>
    if type.isStr "group" then
      match children with
      | none => .ok (false, e)
      | some nodes =>
        if !py.validGroup op nodes then .ok (false, e)
        else if py.lower (py.strEntry op) = "or" then do
          let branches ← evaluateBranches nodes
          if branches.isEmpty then return (false, e)
          return (true, branches.foldl Evidence.absorb e)
        else evaluateAll nodes e
    else if !type.isStr "condition" then .ok (false, e)
    else py.evaluateCondition ctx field operator value e

/-- The `and` loop of `_evaluate_node`: it stops at the first child that fails. -/
def evaluateAll : List RuleNode → Evidence → Except PyError (Bool × Evidence)
  | [], e => .ok (true, e)
  | node :: nodes, e => do
    let (holds, e) ← evaluateNode node e
    if holds then evaluateAll nodes e else return (false, e)

/-- The `or` loop of `_evaluate_node`: the evidence of every branch that holds. -/
def evaluateBranches : List RuleNode → Except PyError (List Evidence)
  | [] => .ok []
  | node :: nodes => do
    let (holds, branch) ← evaluateNode node {}
    let branches ← evaluateBranches nodes
    return if holds then branch :: branches else branches

end

mutual

/-- `_evaluate_node_state`. -/
def evaluateNodeState : RuleNode → Except PyError (Option Bool)
  | .scalar => .error .attributeError
  | .object type op children field operator value =>
    if type.isStr "group" then
      match children with
      | none => .ok (some false)
      | some nodes =>
        if !py.validGroup op nodes then .ok (some false)
        else do
          let states ← evaluateStates nodes
          return if py.lower (py.strEntry op) = "and" then ThreeValued.conj states
            else ThreeValued.disj states
    else if !type.isStr "condition" then .ok (some false)
    else
      let name := py.strEntry field
      if (ctx name).isUnavailable then .ok none
      else (py.matchesOperator name (ctx name) (py.strEntry operator) value).map some

def evaluateStates : List RuleNode → Except PyError (List (Option Bool))
  | [] => .ok []
  | node :: nodes => do
    let state ← evaluateNodeState node
    let states ← evaluateStates nodes
    return state :: states

end

end PythonRuntime

end MediaMasterr.RuleEngine
