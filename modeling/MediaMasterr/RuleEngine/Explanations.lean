import Mathlib.Data.List.Nodup
import MediaMasterr.RuleEngine.Agreement
import MediaMasterr.RuleEngine.Answers

/-! # Explanations of a match

The evidence that `_evaluate_node` leaves behind when it returns `True`: one
reason for each condition that holds under groups that all hold, from left to
right, and their fields with the values of the context. What an `and` group
wrote before it failed is never part of it. -/

namespace MediaMasterr.RuleEngine

open MediaMasterr.Foundations

/-- A condition of a tree and the groups it stands under, outermost first. -/
structure Leaf where
  groups : List RuleNode
  field : Option PyValue
  operator : Option PyValue
  value : PyValue

/-- The leaf, seen from the parent of its tree. -/
def Leaf.under (group : RuleNode) (leaf : Leaf) : Leaf :=
  { leaf with groups := group :: leaf.groups }

mutual

/-- The conditions of a tree, from left to right. -/
def RuleNode.leaves : RuleNode → List Leaf
  | .scalar => []
  | .object type op children field operator value =>
    if type.isStr "group" then
      match children with
      | none => []
      | some nodes =>
        (leavesOf nodes).map (Leaf.under (.object type op (some nodes) field operator value))
    else if type.isStr "condition" then [⟨[], field, operator, value⟩]
    else []

def leavesOf : List RuleNode → List Leaf
  | [] => []
  | node :: nodes => node.leaves ++ leavesOf nodes

end

namespace PythonRuntime

variable (py : PythonRuntime) (ctx : Context)

/-- `_evaluate_node` returns `True` on the node. -/
def holds (node : RuleNode) : Bool :=
  match py.evaluateNode ctx node {} with
  | .ok (verdict, _) => verdict
  | .error _ => false

/-- `_matches_operator` returns `True` on the condition. -/
def leafHolds (leaf : Leaf) : Bool :=
  let field := py.strEntry leaf.field
  match py.matchesOperator field (ctx field) (py.strEntry leaf.operator) leaf.value with
  | .ok verdict => verdict
  | .error _ => false

def reasonOf (leaf : Leaf) : Reason :=
  let field := py.strEntry leaf.field
  ⟨field, py.strEntry leaf.operator, leaf.value, ctx field⟩

/-- The reasons of the conditions that hold and stand under groups that all hold. -/
def trueReasons (node : RuleNode) : List Reason :=
  (node.leaves.filter fun leaf => leaf.groups.all (py.holds ctx) && py.leafHolds ctx leaf).map
    (py.reasonOf ctx)

/-- The value of the context as `matched` keeps it: a `datetime` as its ISO text. -/
def shownValue : PyValue → PyValue
  | .datetime t => .str (py.isoformat t)
  | value => value

/-- What a condition that holds writes. -/
def record (r : Reason) (e : Evidence) : Evidence :=
  let e := e.setMatched r.field (py.shownValue (ctx r.field))
  { e with reasons := e.reasons ++ [r] }

/-- The evidence explains the node, with the values of the context shown by `shown`. -/
structure Explains (shown : PyValue → PyValue) (node : RuleNode) (e : Evidence) : Prop where
  reasons : e.reasons = py.trueReasons ctx node
  keys : (e.matched.map Prod.fst).Nodup
  matched : ∀ field value, (field, value) ∈ e.matched ↔
    (∃ reason ∈ py.trueReasons ctx node, reason.field = field) ∧ value = shown (ctx field)

variable {py ctx}

/-! ## Evidence -/

section Evidence

variable {field : String} {value : PyValue} {e e' e'' : Evidence} {rs rs' : List Reason}

theorem mem_setMatched_iff {kv : String × PyValue} :
    kv ∈ (e.setMatched field value).matched ↔
      (kv ∈ e.matched ∧ kv.1 ≠ field) ∨ kv = (field, value) := by
  unfold Evidence.setMatched
  by_cases hany : e.matched.any (·.1 == field) = true
  · rw [if_pos hany]
    obtain ⟨old, hold, hkey⟩ := List.any_eq_true.mp hany
    have hkey : old.1 = field := by simpa using hkey
    simp only [List.mem_map]
    constructor
    · rintro ⟨kv', hmem, rfl⟩
      split_ifs with h
      · exact .inr rfl
      · exact .inl ⟨hmem, h⟩
    · rintro (⟨hmem, hne⟩ | rfl)
      · exact ⟨kv, hmem, if_neg hne⟩
      · exact ⟨old, hold, if_pos hkey⟩
  · rw [if_neg hany]
    have hnew : ∀ kv ∈ e.matched, kv.1 ≠ field := by
      intro kv hmem hkey
      exact hany (List.any_eq_true.mpr ⟨kv, hmem, by simp [hkey]⟩)
    simp only [List.mem_append, List.mem_singleton]
    constructor
    · rintro (hmem | rfl)
      · exact .inl ⟨hmem, hnew kv hmem⟩
      · exact .inr rfl
    · rintro (⟨hmem, _⟩ | rfl)
      · exact .inl hmem
      · exact .inr rfl

@[simp] theorem setMatched_reasons : (e.setMatched field value).reasons = e.reasons := by
  unfold Evidence.setMatched
  split_ifs <;> rfl

theorem setMatched_nodup (h : (e.matched.map Prod.fst).Nodup) :
    ((e.setMatched field value).matched.map Prod.fst).Nodup := by
  unfold Evidence.setMatched
  by_cases hany : e.matched.any (·.1 == field) = true
  · rw [if_pos hany]
    have hkeys : (e.matched.map fun kv => if kv.1 = field then (field, value) else kv).map
        Prod.fst = e.matched.map Prod.fst := by
      rw [List.map_map]
      apply List.map_congr_left
      intro kv _
      by_cases hkey : kv.1 = field <;> simp [hkey]
    rw [hkeys]
    exact h
  · rw [if_neg hany, List.map_append]
    apply List.Nodup.append h (List.nodup_singleton _)
    simpa using hany

/-- `e'` is `e` with the evidence of the reasons: their fields have the shown values of the
context, the other entries are kept. -/
structure Extends (py : PythonRuntime) (ctx : Context) (e e' : Evidence) (rs : List Reason) :
    Prop where
  reasons : e'.reasons = e.reasons ++ rs
  keys : (e.matched.map Prod.fst).Nodup → (e'.matched.map Prod.fst).Nodup
  matched : ∀ field value, (field, value) ∈ e'.matched ↔
    ((field, value) ∈ e.matched ∧ ¬∃ r ∈ rs, r.field = field) ∨
      (∃ r ∈ rs, r.field = field) ∧ value = py.shownValue (ctx field)

theorem Extends.refl (e : Evidence) : Extends py ctx e e [] where
  reasons := (List.append_nil _).symm
  keys := id
  matched field value := by simp

theorem Extends.trans (h : Extends py ctx e e' rs) (h' : Extends py ctx e' e'' rs') :
    Extends py ctx e e'' (rs ++ rs') where
  reasons := by rw [h'.reasons, h.reasons, List.append_assoc]
  keys hnodup := h'.keys (h.keys hnodup)
  matched field value := by
    have hsplit : (∃ r ∈ rs ++ rs', r.field = field) ↔
        (∃ r ∈ rs, r.field = field) ∨ ∃ r ∈ rs', r.field = field := by
      simp only [List.mem_append, or_and_right, exists_or]
    rw [h'.matched, h.matched, hsplit]
    generalize (∃ r ∈ rs, r.field = field) = inFirst
    generalize (∃ r ∈ rs', r.field = field) = inSecond
    tauto

theorem extends_record (e : Evidence) (r : Reason) :
    Extends py ctx e (py.record ctx r e) [r] where
  reasons := by simp [record]
  keys := setMatched_nodup
  matched field value := by
    rw [record, mem_setMatched_iff]
    simp only [List.mem_singleton, exists_eq_left, Prod.mk.injEq, ne_eq]
    constructor
    · rintro (⟨hmem, hne⟩ | ⟨rfl, rfl⟩)
      · exact .inl ⟨hmem, fun h => hne h.symm⟩
      · exact .inr ⟨rfl, rfl⟩
    · rintro (⟨hmem, hne⟩ | ⟨rfl, rfl⟩)
      · exact .inl ⟨hmem, fun h => hne h.symm⟩
      · exact .inr ⟨rfl, rfl⟩

theorem foldl_setMatched_reasons (entries : List (String × PyValue)) (e : Evidence) :
    (entries.foldl (fun acc kv => acc.setMatched kv.1 kv.2) e).reasons = e.reasons := by
  induction entries generalizing e with
  | nil => rfl
  | cons kv entries ih => rw [List.foldl_cons, ih, setMatched_reasons]

theorem foldl_setMatched_nodup (entries : List (String × PyValue))
    (h : (e.matched.map Prod.fst).Nodup) :
    ((entries.foldl (fun acc kv => acc.setMatched kv.1 kv.2) e).matched.map Prod.fst).Nodup := by
  induction entries generalizing e with
  | nil => exact h
  | cons kv entries ih => exact ih (setMatched_nodup h)

/-- `matched.update(entries)`, where each key has one value. -/
theorem mem_foldl_setMatched_iff (shown : String → PyValue) {entries : List (String × PyValue)}
    (hentries : ∀ kv ∈ entries, kv.2 = shown kv.1) :
    (field, value) ∈ (entries.foldl (fun acc kv => acc.setMatched kv.1 kv.2) e).matched ↔
      ((field, value) ∈ e.matched ∧ field ∉ entries.map Prod.fst) ∨
        field ∈ entries.map Prod.fst ∧ value = shown field := by
  induction entries generalizing e with
  | nil => simp
  | cons kv entries ih =>
    have hvalue : kv.2 = shown kv.1 := hentries kv List.mem_cons_self
    rw [List.foldl_cons, ih fun kv hmem => hentries kv (List.mem_cons_of_mem _ hmem),
      mem_setMatched_iff, List.map_cons, List.mem_cons, hvalue, Prod.mk.injEq]
    by_cases hkey : field = kv.1
    · subst hkey
      tauto
    · tauto

/-- A branch of an `or` group is absorbed with all its reasons. -/
theorem Extends.absorb {branch : Evidence} (h : Extends py ctx {} branch rs) (e : Evidence) :
    Extends py ctx e (e.absorb branch) rs where
  reasons := by
    rw [Evidence.absorb, foldl_setMatched_reasons, h.reasons]
    rfl
  keys hnodup := foldl_setMatched_nodup _ hnodup
  matched field value := by
    have hbranch : ∀ field value, (field, value) ∈ branch.matched ↔
        (∃ r ∈ rs, r.field = field) ∧ value = py.shownValue (ctx field) := by
      intro field value
      rw [h.matched]
      simp
    have hkeys : field ∈ branch.matched.map Prod.fst ↔ ∃ r ∈ rs, r.field = field := by
      simp only [List.mem_map, Prod.exists, hbranch]
      constructor
      · rintro ⟨_, _, ⟨hr, _⟩, rfl⟩
        exact hr
      · intro hr
        exact ⟨field, _, ⟨hr, rfl⟩, rfl⟩
    have hvalues : ∀ kv ∈ branch.matched, kv.2 = py.shownValue (ctx kv.1) :=
      fun kv hmem => ((hbranch kv.1 kv.2).mp hmem).2
    rw [Evidence.absorb, mem_foldl_setMatched_iff (fun f => py.shownValue (ctx f)) hvalues, hkeys]

theorem extends_foldl_absorb {branches : List Evidence}
    (h : ∀ branch ∈ branches, Extends py ctx {} branch branch.reasons) (e : Evidence) :
    Extends py ctx e (branches.foldl Evidence.absorb e) (branches.flatMap Evidence.reasons) := by
  induction branches generalizing e with
  | nil => exact Extends.refl e
  | cons branch branches ih =>
    rw [List.foldl_cons, List.flatMap_cons]
    have hbranch := (h branch List.mem_cons_self).absorb e
    exact hbranch.trans (ih (fun b hb => h b (List.mem_cons_of_mem _ hb)) _)

end Evidence

/-! ## Verdicts -/

theorem evaluateCondition_eq (leaf : Leaf) (e : Evidence) :
    py.evaluateCondition ctx leaf.field leaf.operator leaf.value e =
      (py.matchesOperator (py.strEntry leaf.field) (ctx (py.strEntry leaf.field))
        (py.strEntry leaf.operator) leaf.value).map
        fun verdict => (verdict,
          if verdict then py.record ctx (py.reasonOf ctx leaf) e else e) := by
  simp only [evaluateCondition]
  cases py.matchesOperator (py.strEntry leaf.field) (ctx (py.strEntry leaf.field))
    (py.strEntry leaf.operator) leaf.value with
  | error err => rfl
  | ok verdict =>
    cases verdict with
    | false => rfl
    | true =>
      cases hvalue : ctx (py.strEntry leaf.field) <;>
        simp [record, reasonOf, shownValue, hvalue, Except.map, bind, Except.bind, pure,
          Except.pure]

theorem evaluateNode_verdict (node : RuleNode) (e e' : Evidence) :
    (py.evaluateNode ctx node e).map Prod.fst = (py.evaluateNode ctx node e').map Prod.fst :=
  evaluateNode_congr node (fun _ _ => rfl) e e'

theorem holds_of_evaluateNode {node : RuleNode} {e e' : Evidence} {verdict : Bool}
    (h : py.evaluateNode ctx node e = .ok (verdict, e')) : py.holds ctx node = verdict := by
  have hverdict := @evaluateNode_verdict py ctx node {} e
  rw [h] at hverdict
  unfold holds
  cases hresult : py.evaluateNode ctx node {} with
  | error err => simp [hresult, Except.map] at hverdict
  | ok result => simpa [hresult, Except.map] using hverdict

/-! ## Reasons of a tree -/

section Reasons

variable {type value : PyValue} {op field operator : Option PyValue} {nodes : List RuleNode}

@[simp] theorem reasonOf_under (group : RuleNode) (leaf : Leaf) :
    py.reasonOf ctx (leaf.under group) = py.reasonOf ctx leaf := rfl

@[simp] theorem leafHolds_under (group : RuleNode) (leaf : Leaf) :
    py.leafHolds ctx (leaf.under group) = py.leafHolds ctx leaf := rfl

@[simp] theorem groups_under (group : RuleNode) (leaf : Leaf) :
    (leaf.under group).groups = group :: leaf.groups := rfl

theorem trueReasons_leavesOf (nodes : List RuleNode) :
    ((leavesOf nodes).filter fun leaf =>
        leaf.groups.all (py.holds ctx) && py.leafHolds ctx leaf).map (py.reasonOf ctx) =
      nodes.flatMap (py.trueReasons ctx) := by
  induction nodes with
  | nil => rfl
  | cons node nodes ih =>
    rw [leavesOf, List.filter_append, List.map_append, ih, List.flatMap_cons, trueReasons]

/-- A group that holds gives the reasons of its children, one that does not gives none. -/
theorem trueReasons_group (hgroup : type.isStr "group" = true) :
    py.trueReasons ctx (.object type op (some nodes) field operator value) =
      if py.holds ctx (.object type op (some nodes) field operator value) then
        nodes.flatMap (py.trueReasons ctx) else [] := by
  rw [← trueReasons_leavesOf, trueReasons, RuleNode.leaves]
  simp only [hgroup, if_true, List.filter_map, List.map_map]
  cases hholds : py.holds ctx (.object type op (some nodes) field operator value) <;>
    simp [Function.comp_def, hholds]

theorem trueReasons_condition {children : Option (List RuleNode)}
    (hgroup : ¬type.isStr "group" = true) (htype : type.isStr "condition" = true) :
    py.trueReasons ctx (.object type op children field operator value) =
      if py.leafHolds ctx ⟨[], field, operator, value⟩ then
        [py.reasonOf ctx ⟨[], field, operator, value⟩] else [] := by
  have hleaves : RuleNode.leaves (.object type op children field operator value) =
      [⟨[], field, operator, value⟩] := by
    cases children <;> simp [RuleNode.leaves, hgroup, htype]
  rw [trueReasons, hleaves]
  by_cases hholds : py.leafHolds ctx ⟨[], field, operator, value⟩ = true <;> simp [hholds]

/-- A node that does not hold gives no reason. -/
theorem trueReasons_eq_nil {node : RuleNode} (h : py.holds ctx node = false) :
    py.trueReasons ctx node = [] := by
  match node with
  | .scalar => rfl
  | .object type op children field operator value =>
    by_cases hgroup : type.isStr "group" = true
    · cases children with
      | none => simp [trueReasons, RuleNode.leaves, hgroup]
      | some nodes => rw [trueReasons_group hgroup, h, if_neg Bool.false_ne_true]
    · by_cases htype : type.isStr "condition" = true
      · rw [trueReasons_condition hgroup htype, if_neg]
        have hnode : py.evaluateNode ctx (.object type op children field operator value) {} =
            py.evaluateCondition ctx field operator value {} := by
          cases children <;> simp [evaluateNode, hgroup, htype]
        rw [holds, hnode, evaluateCondition_eq ⟨[], field, operator, value⟩] at h
        simp only [leafHolds]
        cases hm : py.matchesOperator (py.strEntry field) (ctx (py.strEntry field))
          (py.strEntry operator) value with
        | error err => simp
        | ok verdict => simpa [hm, Except.map] using h
      · cases children <;> simp [trueReasons, RuleNode.leaves, hgroup, htype]

end Reasons

/-! ## Evaluation -/

mutual

/-- A node that holds adds its reasons to the evidence, and nothing else. -/
theorem evaluateNode_extends (node : RuleNode) {e e' : Evidence}
    (h : py.evaluateNode ctx node e = .ok (true, e')) :
    Extends py ctx e e' (py.trueReasons ctx node) := by
  match node with
  | .scalar => simp [evaluateNode] at h
  | .object type op children field operator value =>
    by_cases hgroup : type.isStr "group" = true
    · cases children with
      | none => simp [evaluateNode, hgroup] at h
      | some nodes =>
        rw [trueReasons_group hgroup, holds_of_evaluateNode h, if_pos rfl]
        by_cases hvalid : py.validGroup op nodes = true
        · by_cases hor : py.lower (py.strEntry op) = "or"
          · simp only [evaluateNode, hgroup, hvalid, hor, if_true, Bool.not_true,
              Bool.false_eq_true, if_false] at h
            cases hbranches : py.evaluateBranches ctx nodes with
            | error err => simp [hbranches, bind, Except.bind] at h
            | ok branches =>
              obtain ⟨hextends, hreasons⟩ := evaluateBranches_extends nodes hbranches
              rw [hbranches] at h
              simp only [bind, Except.bind, pure, Except.pure] at h
              split_ifs at h with hempty
              · cases h
              obtain ⟨-, rfl⟩ := Prod.mk.inj (Except.ok.inj h)
              rw [← hreasons]
              exact extends_foldl_absorb hextends e
          · simp only [evaluateNode, hgroup, hvalid, hor, if_true, Bool.not_true,
              Bool.false_eq_true, if_false] at h
            exact evaluateAll_extends nodes h
        · simp [evaluateNode, hgroup, hvalid] at h
    · by_cases htype : type.isStr "condition" = true
      · have hnode : py.evaluateNode ctx (.object type op children field operator value) e =
            py.evaluateCondition ctx field operator value e := by
          cases children <;> simp [evaluateNode, hgroup, htype]
        rw [hnode, evaluateCondition_eq ⟨[], field, operator, value⟩] at h
        rw [trueReasons_condition hgroup htype, leafHolds]
        cases hm : py.matchesOperator (py.strEntry field) (ctx (py.strEntry field))
          (py.strEntry operator) value with
        | error err => simp [hm, Except.map] at h
        | ok verdict =>
          simp only [hm, Except.map, Except.ok.injEq, Prod.mk.injEq] at h
          obtain ⟨rfl, rfl⟩ := h
          exact extends_record e _
      · cases children <;> simp [evaluateNode, hgroup, htype] at h

theorem evaluateAll_extends (nodes : List RuleNode) {e e' : Evidence}
    (h : py.evaluateAll ctx nodes e = .ok (true, e')) :
    Extends py ctx e e' (nodes.flatMap (py.trueReasons ctx)) := by
  match nodes with
  | [] =>
    obtain ⟨-, rfl⟩ := Prod.mk.inj (Except.ok.inj h)
    exact Extends.refl e
  | node :: nodes =>
    simp only [evaluateAll] at h
    cases hnode : py.evaluateNode ctx node e with
    | error err => simp [hnode, bind, Except.bind] at h
    | ok result =>
      obtain ⟨verdict, e₁⟩ := result
      cases verdict with
      | false => simp [hnode, bind, Except.bind, pure, Except.pure] at h
      | true =>
        rw [List.flatMap_cons]
        have hrest : py.evaluateAll ctx nodes e₁ = .ok (true, e') := by
          simpa [hnode, bind, Except.bind] using h
        exact (evaluateNode_extends node hnode).trans (evaluateAll_extends nodes hrest)

/-- The branches that hold carry the reasons of all branches. -/
theorem evaluateBranches_extends (nodes : List RuleNode) {branches : List Evidence}
    (h : py.evaluateBranches ctx nodes = .ok branches) :
    (∀ branch ∈ branches, Extends py ctx {} branch branch.reasons) ∧
      branches.flatMap Evidence.reasons = nodes.flatMap (py.trueReasons ctx) := by
  match nodes with
  | [] =>
    obtain rfl : [] = branches := Except.ok.inj h
    simp
  | node :: nodes =>
    simp only [evaluateBranches] at h
    cases hnode : py.evaluateNode ctx node {} with
    | error err => simp [hnode, bind, Except.bind] at h
    | ok result =>
      obtain ⟨verdict, branch⟩ := result
      cases hrest : py.evaluateBranches ctx nodes with
      | error err => simp [hnode, hrest, bind, Except.bind] at h
      | ok rest =>
        obtain ⟨hextends, hreasons⟩ := evaluateBranches_extends nodes hrest
        simp only [hnode, hrest, bind, Except.bind, pure, Except.pure, Except.ok.injEq] at h
        rw [List.flatMap_cons, ← hreasons]
        cases verdict with
        | false =>
          rw [trueReasons_eq_nil (holds_of_evaluateNode hnode), List.nil_append]
          obtain rfl : rest = branches := h
          exact ⟨hextends, rfl⟩
        | true =>
          obtain rfl : branch :: rest = branches := h
          have hbranch := evaluateNode_extends node hnode
          have hown : branch.reasons = py.trueReasons ctx node := hbranch.reasons
          rw [List.flatMap_cons, hown]
          refine ⟨?_, rfl⟩
          intro b hb
          rcases List.mem_cons.mp hb with rfl | hb
          · rw [hown]
            exact hbranch
          · exact hextends b hb

end

/-- When `_evaluate_node` returns `True` from empty accumulators, its evidence explains the
node, with `datetime` values as ISO texts. -/
theorem evaluateNode_explains (py : PythonRuntime) (ctx : Context) (node : RuleNode)
    {e : Evidence} (h : py.evaluateNode ctx node {} = .ok (true, e)) :
    py.Explains ctx py.shownValue node e := by
  have hextends := evaluateNode_extends node h
  refine ⟨hextends.reasons, hextends.keys List.nodup_nil, fun field value => ?_⟩
  rw [hextends.matched]
  simp

/-- Watched on 2024-01-01. -/
def watchedAt : PyDateTime := ⟨738885 * PyDateTime.microsPerDay, some 0⟩

/-- The interpreter, which prints that day. -/
def datedRuntime : PythonRuntime :=
  { plainRuntime with isoformat := fun _ => "2024-01-01T00:00:00+00:00" }

def lastViewedContext : Context := fun field =>
  if field = "watch.last_viewed_at" then .datetime watchedAt else .none

/-- Never watched, or last watched at some time. -/
def neverOrLastViewed : RuleNode :=
  .group "or" [neverWatched "is_true", .condition "watch.last_viewed_at" "exists" .none]

theorem evaluateNode_explains_neverOrLastViewed :
    ∃ e, datedRuntime.evaluateNode lastViewedContext neverOrLastViewed {} = .ok (true, e) ∧
      datedRuntime.Explains lastViewedContext datedRuntime.shownValue neverOrLastViewed e :=
  ⟨_, rfl, evaluateNode_explains datedRuntime lastViewedContext neverOrLastViewed rfl⟩

theorem datetime_not_kept_neverOrLastViewed :
    ¬∀ e, datedRuntime.evaluateNode lastViewedContext neverOrLastViewed {} = .ok (true, e) →
      datedRuntime.Explains lastViewedContext id neverOrLastViewed e := by
  intro h
  have hmatched := ((h _ rfl).matched "watch.last_viewed_at"
    (.str "2024-01-01T00:00:00+00:00")).mp List.mem_cons_self
  exact PyValue.noConfusion hmatched.2

end PythonRuntime

end MediaMasterr.RuleEngine
