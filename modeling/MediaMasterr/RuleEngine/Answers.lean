import MediaMasterr.RuleEngine.Validation

/-! # Answers of the conditions

The verdict on a node depends on the context only by what the conditions of the node
answer in it, and not on the evidence so far. -/

namespace MediaMasterr.RuleEngine

open MediaMasterr.Foundations

/-- Two computations whose results are the same, once mapped. -/
theorem map_eq_map_cases {ε α β γ : Type*} {f : α → γ} {g : β → γ} {x : Except ε α}
    {y : Except ε β} (h : x.map f = y.map g) :
    (∃ err, x = .error err ∧ y = .error err) ∨
      ∃ a b, x = .ok a ∧ y = .ok b ∧ f a = g b := by
  cases x with
  | error err =>
    cases y with
    | error err' => exact .inl ⟨err, rfl, congrArg _ (Except.error.inj h).symm⟩
    | ok b => cases h
  | ok a =>
    cases y with
    | error err' => cases h
    | ok b => exact .inr ⟨a, b, rfl, rfl, Except.ok.inj h⟩

namespace PythonRuntime

variable {py : PythonRuntime} {ctx ctx' : Context}

/-- What a condition answers in a context. -/
def answer (py : PythonRuntime) (ctx : Context) (c : ConditionNode) : Except PyError Bool :=
  py.matchesOperator (py.strEntry c.field) (ctx (py.strEntry c.field)) (py.strEntry c.operator)
    c.value

theorem evaluateCondition_map_fst (field operator : Option PyValue) (value : PyValue)
    (e : Evidence) : (py.evaluateCondition ctx field operator value e).map Prod.fst =
      py.answer ctx ⟨field, operator, value⟩ := by
  unfold evaluateCondition answer
  dsimp only
  cases py.matchesOperator (py.strEntry field) (ctx (py.strEntry field)) (py.strEntry operator)
    value with
  | error err => rfl
  | ok b => cases b <;> rfl

mutual

/-- Contexts in which the conditions answer alike give a node the same verdict. -/
theorem evaluateNode_congr (node : RuleNode)
    (h : ∀ c ∈ node.conditionNodes, py.answer ctx c = py.answer ctx' c) (e e' : Evidence) :
    (py.evaluateNode ctx node e).map Prod.fst = (py.evaluateNode ctx' node e').map Prod.fst := by
  match node with
  | .scalar => rfl
  | .object type op children field operator value =>
    by_cases hgroup : type.isStr "group" = true
    · cases children with
      | none => simp [evaluateNode, hgroup, Except.map]
      | some nodes =>
        rw [conditionNodes_group hgroup] at h
        by_cases hvalid : py.validGroup op nodes = true
        · by_cases hor : py.lower (py.strEntry op) = "or"
          · simp only [evaluateNode, hgroup, hvalid, hor, if_true, Bool.not_true,
              Bool.false_eq_true, if_false]
            rcases map_eq_map_cases (evaluateBranches_congr nodes h) with
              ⟨err, hctx, hctx'⟩ | ⟨branches, branches', hctx, hctx', hlength⟩
            · rw [hctx, hctx']
              rfl
            · rw [hctx, hctx']
              cases branches with
              | nil =>
                rw [List.eq_nil_of_length_eq_zero hlength.symm]
                rfl
              | cons branch branches =>
                obtain ⟨branch', branches', rfl⟩ := List.exists_of_length_succ _ hlength.symm
                rfl
          · simp only [evaluateNode, hgroup, hvalid, hor, if_true, Bool.not_true,
              Bool.false_eq_true, if_false]
            exact evaluateAll_congr nodes h e e'
        · simp [evaluateNode, hgroup, hvalid, Except.map]
    · by_cases htype : type.isStr "condition" = true
      · have hanswer : py.answer ctx ⟨field, operator, value⟩ =
            py.answer ctx' ⟨field, operator, value⟩ := by
          refine h _ ?_
          rw [conditionNodes_condition htype]
          exact List.mem_singleton.mpr rfl
        cases children <;>
          simpa only [evaluateNode, hgroup, htype, Bool.not_true, Bool.false_eq_true, if_false,
            evaluateCondition_map_fst] using hanswer
      · cases children <;> simp [evaluateNode, hgroup, htype, Except.map]

theorem evaluateAll_congr (nodes : List RuleNode)
    (h : ∀ c ∈ conditionNodesOf nodes, py.answer ctx c = py.answer ctx' c) (e e' : Evidence) :
    (py.evaluateAll ctx nodes e).map Prod.fst = (py.evaluateAll ctx' nodes e').map Prod.fst := by
  match nodes with
  | [] => rfl
  | node :: nodes =>
    rw [conditionNodesOf, List.forall_mem_append] at h
    simp only [evaluateAll]
    rcases map_eq_map_cases (evaluateNode_congr node h.1 e e') with
      ⟨err, hctx, hctx'⟩ | ⟨⟨verdict, e₁⟩, ⟨verdict', e₁'⟩, hctx, hctx', hverdict⟩
    · rw [hctx, hctx']
      rfl
    · obtain rfl : verdict = verdict' := hverdict
      rw [hctx, hctx']
      cases verdict with
      | false => rfl
      | true => exact evaluateAll_congr nodes h.2 e₁ e₁'

theorem evaluateBranches_congr (nodes : List RuleNode)
    (h : ∀ c ∈ conditionNodesOf nodes, py.answer ctx c = py.answer ctx' c) :
    (py.evaluateBranches ctx nodes).map List.length =
      (py.evaluateBranches ctx' nodes).map List.length := by
  match nodes with
  | [] => rfl
  | node :: nodes =>
    rw [conditionNodesOf, List.forall_mem_append] at h
    simp only [evaluateBranches]
    rcases map_eq_map_cases (evaluateNode_congr node h.1 {} {}) with
      ⟨err, hctx, hctx'⟩ | ⟨⟨verdict, e₁⟩, ⟨verdict', e₁'⟩, hctx, hctx', hverdict⟩
    · rw [hctx, hctx']
      rfl
    · obtain rfl : verdict = verdict' := hverdict
      rw [hctx, hctx']
      rcases map_eq_map_cases (evaluateBranches_congr nodes h.2) with
        ⟨err, hrest, hrest'⟩ | ⟨branches, branches', hrest, hrest', hlength⟩
      · rw [hrest, hrest']
        rfl
      · rw [hrest, hrest']
        cases verdict <;> simp [bind, Except.bind, pure, Except.pure, Except.map, hlength]

end

end PythonRuntime

end MediaMasterr.RuleEngine
