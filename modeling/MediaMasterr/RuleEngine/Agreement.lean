import Mathlib.Algebra.Ring.Int.Defs
import Mathlib.Data.Fintype.Option
import MediaMasterr.RuleEngine.Evaluation

/-! # Agreement and soundness of the two evaluators

On a tree none of whose reached conditions raises, both evaluators return, the
two-valued one says `true` exactly where the three-valued one does, and a
definite answer survives every completion of the unavailable fields. A condition
that raises breaks both, because only the three-valued evaluator runs into it
wherever it stands. -/

namespace MediaMasterr.RuleEngine

open MediaMasterr.Foundations

namespace PythonRuntime

variable (py : PythonRuntime) (ctx : Context)

/-- `_matches_operator` returns on the condition. -/
def LeafReturns (field operator : Option PyValue) (value : PyValue) : Prop :=
  let name := py.strEntry field
  (ctx name).isUnavailable = false →
    ∃ b, py.matchesOperator name (ctx name) (py.strEntry operator) value = .ok b

mutual

/-- No condition below `node`, reached through valid groups and on an available field,
raises. -/
def NoRaisingCondition : RuleNode → Prop
  | .scalar => False
  | .object type op children field operator value =>
    if type.isStr "group" then
      match children with
      | none => True
      | some nodes => py.validGroup op nodes = true → NoRaisingConditions nodes
    else type.isStr "condition" = true → py.LeafReturns ctx field operator value

def NoRaisingConditions : List RuleNode → Prop
  | [] => True
  | node :: nodes => NoRaisingCondition node ∧ NoRaisingConditions nodes

end

variable {py ctx}

theorem evaluateStates_cons_eq_ok {node : RuleNode} {nodes : List RuleNode}
    {states : List (Option Bool)} :
    py.evaluateStates ctx (node :: nodes) = .ok states ↔
      ∃ s rest, py.evaluateNodeState ctx node = .ok s ∧
        py.evaluateStates ctx nodes = .ok rest ∧ states = s :: rest := by
  rw [evaluateStates]
  cases py.evaluateNodeState ctx node with
  | error err => simp [bind, Except.bind]
  | ok s =>
    cases py.evaluateStates ctx nodes with
    | error err => simp [bind, Except.bind]
    | ok rest =>
      simp only [bind, Except.bind, pure, Except.pure, Except.ok.injEq, eq_comm]
      simp

section Group

variable {type value : PyValue} {op field operator : Option PyValue} {nodes : List RuleNode}

theorem evaluateNodeState_group_eq_ok {s : Option Bool} (htype : type.isStr "group" = true)
    (hvalid : py.validGroup op nodes = true) :
    py.evaluateNodeState ctx (.object type op (some nodes) field operator value) = .ok s ↔
      ∃ states, py.evaluateStates ctx nodes = .ok states ∧
        s = if py.lower (py.strEntry op) = "and" then ThreeValued.conj states
          else ThreeValued.disj states := by
  rw [evaluateNodeState]
  simp only [htype, hvalid, if_true, Bool.not_true, Bool.false_eq_true, if_false]
  cases py.evaluateStates ctx nodes with
  | error err => simp [bind, Except.bind]
  | ok states => simp [bind, Except.bind, pure, Except.pure, eq_comm]

theorem evaluateNodeState_invalidGroup (htype : type.isStr "group" = true)
    (hvalid : ¬py.validGroup op nodes = true) :
    py.evaluateNodeState ctx (.object type op (some nodes) field operator value) =
      .ok (some false) := by
  rw [evaluateNodeState]
  simp [htype, hvalid]

theorem evaluateNodeState_condition (hgroup : ¬type.isStr "group" = true)
    (htype : type.isStr "condition" = true) {children : Option (List RuleNode)} :
    py.evaluateNodeState ctx (.object type op children field operator value) =
      if (ctx (py.strEntry field)).isUnavailable then .ok none
      else (py.matchesOperator (py.strEntry field) (ctx (py.strEntry field))
        (py.strEntry operator) value).map some := by
  cases children <;> simp [evaluateNodeState, hgroup, htype]

theorem validGroup_operator (hvalid : py.validGroup op nodes = true) :
    py.lower (py.strEntry op) = "and" ∨ py.lower (py.strEntry op) = "or" := by
  simp only [validGroup, Bool.and_eq_true, Bool.or_eq_true, beq_iff_eq] at hvalid
  exact hvalid.1.1

end Group

/-! ## When the three-valued evaluator returns -/

theorem leaf_returns_iff {field operator : Option PyValue} {value : PyValue} :
    (∃ s, (if (ctx (py.strEntry field)).isUnavailable then .ok none
      else (py.matchesOperator (py.strEntry field) (ctx (py.strEntry field))
        (py.strEntry operator) value).map some) = .ok s) ↔
      py.LeafReturns ctx field operator value := by
  cases hu : (ctx (py.strEntry field)).isUnavailable with
  | true => simp [LeafReturns, hu]
  | false =>
    cases hm : py.matchesOperator (py.strEntry field) (ctx (py.strEntry field))
      (py.strEntry operator) value with
    | error err => simp [LeafReturns, hu, hm, Except.map]
    | ok b => simp [LeafReturns, hu, hm, Except.map]

theorem noRaisingCondition_condition {type value : PyValue} {op field operator : Option PyValue}
    {children : Option (List RuleNode)} (hgroup : ¬type.isStr "group" = true)
    (htype : type.isStr "condition" = true) :
    py.NoRaisingCondition ctx (.object type op children field operator value) ↔
      py.LeafReturns ctx field operator value := by
  cases children <;> simp [NoRaisingCondition, hgroup, htype]

mutual

theorem evaluateNodeState_returns_iff (node : RuleNode) :
    (∃ s, py.evaluateNodeState ctx node = .ok s) ↔ py.NoRaisingCondition ctx node := by
  match node with
  | .scalar => simp [evaluateNodeState, NoRaisingCondition]
  | .object type op children field operator value =>
    by_cases hgroup : type.isStr "group" = true
    · cases children with
      | none => simp [evaluateNodeState, NoRaisingCondition, hgroup]
      | some nodes =>
        by_cases hvalid : py.validGroup op nodes = true
        · have ih := evaluateStates_returns_iff nodes
          simp only [evaluateNodeState_group_eq_ok hgroup hvalid, NoRaisingCondition, hgroup,
            if_true, hvalid, forall_const]
          rw [← ih]
          constructor
          · rintro ⟨_, states, hstates, -⟩
            exact ⟨states, hstates⟩
          · rintro ⟨states, hstates⟩
            exact ⟨_, states, hstates, rfl⟩
        · simp [evaluateNodeState_invalidGroup hgroup hvalid, NoRaisingCondition, hgroup, hvalid]
    · by_cases htype : type.isStr "condition" = true
      · rw [noRaisingCondition_condition hgroup htype, ← leaf_returns_iff]
        simp only [evaluateNodeState_condition hgroup htype]
      · cases children <;> simp [evaluateNodeState, NoRaisingCondition, hgroup, htype]

theorem evaluateStates_returns_iff (nodes : List RuleNode) :
    (∃ states, py.evaluateStates ctx nodes = .ok states) ↔
      py.NoRaisingConditions ctx nodes := by
  match nodes with
  | [] => simp [evaluateStates, NoRaisingConditions]
  | node :: nodes =>
    rw [NoRaisingConditions, ← evaluateNodeState_returns_iff node,
      ← evaluateStates_returns_iff nodes]
    simp only [evaluateStates_cons_eq_ok]
    constructor
    · rintro ⟨_, s, rest, hs, hrest, -⟩
      exact ⟨⟨s, hs⟩, rest, hrest⟩
    · rintro ⟨⟨s, hs⟩, rest, hrest⟩
      exact ⟨_, s, rest, hs, hrest, rfl⟩

end

/-! ## The two-valued evaluator where the three-valued one returns -/

theorem evaluateCondition_of_matches {field operator : Option PyValue} {value : PyValue}
    {b : Bool} (e : Evidence)
    (h : py.matchesOperator (py.strEntry field) (ctx (py.strEntry field))
      (py.strEntry operator) value = .ok b) :
    ∃ e', py.evaluateCondition ctx field operator value e = .ok (b, e') := by
  cases b <;> simp [evaluateCondition, h, bind, Except.bind, pure, Except.pure]

theorem matchesOperator_unavailable {field operator : String} {actual value : PyValue}
    (hu : actual.isUnavailable = true) :
    py.matchesOperator field actual operator value = .ok false := by
  simp [matchesOperator, hu]

/-- The state of a leaf decides the two-valued condition: an unavailable value counts as a
failed one. -/
theorem evaluateCondition_of_state {field operator : Option PyValue} {value : PyValue}
    {s : Option Bool} (e : Evidence)
    (h : (if (ctx (py.strEntry field)).isUnavailable then .ok none
      else (py.matchesOperator (py.strEntry field) (ctx (py.strEntry field))
        (py.strEntry operator) value).map some) = Except.ok s) :
    ∃ e', py.evaluateCondition ctx field operator value e = .ok (s == some true, e') := by
  cases hu : (ctx (py.strEntry field)).isUnavailable with
  | true =>
    rw [hu, if_pos rfl, Except.ok.injEq] at h
    subst h
    exact evaluateCondition_of_matches e (matchesOperator_unavailable hu)
  | false =>
    rw [hu, if_neg Bool.false_ne_true] at h
    cases hm : py.matchesOperator (py.strEntry field) (ctx (py.strEntry field))
      (py.strEntry operator) value with
    | error err => simp [hm, Except.map] at h
    | ok b =>
      rw [hm, Except.map, Except.ok.injEq] at h
      subst h
      have hb : (some b == some true) = b := by cases b <;> rfl
      rw [hb]
      exact evaluateCondition_of_matches e hm

mutual

/-- The two-valued evaluator returns `true` exactly on the state `true`. -/
theorem evaluateNode_of_state (node : RuleNode) (e : Evidence) {s : Option Bool}
    (h : py.evaluateNodeState ctx node = .ok s) :
    ∃ e', py.evaluateNode ctx node e = .ok (s == some true, e') := by
  match node with
  | .scalar => simp [evaluateNodeState] at h
  | .object type op children field operator value =>
    by_cases hgroup : type.isStr "group" = true
    · cases children with
      | none =>
        simp only [evaluateNodeState, hgroup, if_true, Except.ok.injEq] at h
        subst h
        simp [evaluateNode, hgroup]
      | some nodes =>
        by_cases hvalid : py.validGroup op nodes = true
        · obtain ⟨states, hstates, rfl⟩ := (evaluateNodeState_group_eq_ok hgroup hvalid).mp h
          rcases validGroup_operator hvalid with hand | hor
          · obtain ⟨e', he'⟩ := evaluateAll_of_states nodes e hstates
            refine ⟨e', ?_⟩
            simp only [evaluateNode, hgroup, hvalid, hand, if_true, he']
            simp [ThreeValued.conj_eq_true_iff, Bool.beq_eq_decide_eq]
          · obtain ⟨branches, hbranches, hempty⟩ := evaluateBranches_of_states nodes hstates
            simp only [evaluateNode, hgroup, hvalid, hor, if_true, hbranches]
            cases branches with
            | nil =>
              have hnot : some true ∉ states := hempty.mp rfl
              have hdisj : ThreeValued.disj states ≠ some true :=
                fun ht => hnot ((ThreeValued.disj_eq_true_iff states).mp ht)
              simp [bind, Except.bind, pure, Except.pure, hdisj]
            | cons branch branches =>
              have hmem : some true ∈ states := by
                by_contra hnot
                cases hempty.mpr hnot
              have hdisj := (ThreeValued.disj_eq_true_iff states).mpr hmem
              simp [bind, Except.bind, pure, Except.pure, hdisj]
        · rw [evaluateNodeState_invalidGroup hgroup hvalid, Except.ok.injEq] at h
          subst h
          simp [evaluateNode, hgroup, hvalid]
    · by_cases htype : type.isStr "condition" = true
      · rw [evaluateNodeState_condition hgroup htype] at h
        obtain ⟨e', he'⟩ := evaluateCondition_of_state e h
        refine ⟨e', ?_⟩
        cases children <;> simpa [evaluateNode, hgroup, htype] using he'
      · have hs : s = some false := by
          cases children <;> simpa [evaluateNodeState, hgroup, htype, eq_comm] using h
        subst hs
        cases children <;> simp [evaluateNode, hgroup, htype]

theorem evaluateAll_of_states (nodes : List RuleNode) (e : Evidence)
    {states : List (Option Bool)} (h : py.evaluateStates ctx nodes = .ok states) :
    ∃ e', py.evaluateAll ctx nodes e =
      .ok (decide (∀ s ∈ states, s = some true), e') := by
  match nodes with
  | [] =>
    simp only [evaluateStates, Except.ok.injEq] at h
    subst h
    simp [evaluateAll]
  | node :: nodes =>
    obtain ⟨s, rest, hs, hrest, rfl⟩ := evaluateStates_cons_eq_ok.mp h
    obtain ⟨e₁, he₁⟩ := evaluateNode_of_state node e hs
    by_cases htrue : s = some true
    · subst htrue
      obtain ⟨e₂, he₂⟩ := evaluateAll_of_states nodes e₁ hrest
      refine ⟨e₂, ?_⟩
      simp only [evaluateAll, he₁, bind, Except.bind]
      simpa using he₂
    · refine ⟨e₁, ?_⟩
      simp [evaluateAll, he₁, bind, Except.bind, pure, Except.pure, htrue]

theorem evaluateBranches_of_states (nodes : List RuleNode) {states : List (Option Bool)}
    (h : py.evaluateStates ctx nodes = .ok states) :
    ∃ branches, py.evaluateBranches ctx nodes = .ok branches ∧
      (branches = [] ↔ some true ∉ states) := by
  match nodes with
  | [] =>
    simp only [evaluateStates, Except.ok.injEq] at h
    subst h
    exact ⟨[], by simp [evaluateBranches]⟩
  | node :: nodes =>
    obtain ⟨s, rest, hs, hrest, rfl⟩ := evaluateStates_cons_eq_ok.mp h
    obtain ⟨e₁, he₁⟩ := evaluateNode_of_state node {} hs
    obtain ⟨branches, hbranches, hempty⟩ := evaluateBranches_of_states nodes hrest
    by_cases htrue : s = some true
    · refine ⟨e₁ :: branches, ?_, by simp [htrue]⟩
      simp [evaluateBranches, he₁, hbranches, bind, Except.bind, pure, Except.pure, htrue]
    · refine ⟨branches, ?_, by simp [hempty, Ne.symm htrue]⟩
      simp [evaluateBranches, he₁, hbranches, bind, Except.bind, pure, Except.pure, htrue]

end

/-- Both evaluators return, and the two-valued one returns `true` exactly on the state
`true`. -/
def EvaluatorsAgree (py : PythonRuntime) (ctx : Context) (node : RuleNode) : Prop :=
  ∃ s, py.evaluateNodeState ctx node = .ok s ∧
    ∀ e, ∃ e', py.evaluateNode ctx node e = .ok (decide (s = some true), e')

theorem evaluatorsAgree_iff_noRaisingCondition (py : PythonRuntime) (ctx : Context)
    (node : RuleNode) : py.EvaluatorsAgree ctx node ↔ py.NoRaisingCondition ctx node := by
  rw [← evaluateNodeState_returns_iff]
  constructor
  · rintro ⟨s, hs, -⟩
    exact ⟨s, hs⟩
  · rintro ⟨s, hs⟩
    refine ⟨s, hs, fun e => ?_⟩
    simpa only [beq_eq_decide] using evaluateNode_of_state node e hs

/-! ## Completing the unavailable fields -/

/-- `ctx'` replaces unavailable fields of `ctx` and leaves the others alone. -/
def Completes (ctx ctx' : Context) : Prop :=
  ∀ field, (ctx field).isUnavailable = false → ctx' field = ctx field

mutual

theorem evaluateNodeState_refines {ctx' : Context} (hc : Completes ctx ctx')
    (node : RuleNode) {s s' : Option Bool} (h : py.evaluateNodeState ctx node = .ok s)
    (h' : py.evaluateNodeState ctx' node = .ok s') : ThreeValued.Refines s s' := by
  match node with
  | .scalar => simp [evaluateNodeState] at h
  | .object type op children field operator value =>
    by_cases hgroup : type.isStr "group" = true
    · cases children with
      | none =>
        simp only [evaluateNodeState, hgroup, if_true, Except.ok.injEq] at h h'
        rw [← h, ← h']
        exact ThreeValued.Refines.refl _
      | some nodes =>
        by_cases hvalid : py.validGroup op nodes = true
        · obtain ⟨states, hstates, rfl⟩ := (evaluateNodeState_group_eq_ok hgroup hvalid).mp h
          obtain ⟨states', hstates', rfl⟩ := (evaluateNodeState_group_eq_ok hgroup hvalid).mp h'
          have ih := evaluateStates_refines hc nodes hstates hstates'
          split_ifs
          · exact ThreeValued.conj_mono ih
          · exact ThreeValued.disj_mono ih
        · rw [evaluateNodeState_invalidGroup hgroup hvalid, Except.ok.injEq] at h h'
          rw [← h, ← h']
          exact ThreeValued.Refines.refl _
    · by_cases htype : type.isStr "condition" = true
      · rw [evaluateNodeState_condition hgroup htype] at h h'
        cases hu : (ctx (py.strEntry field)).isUnavailable with
        | true =>
          rw [hu, if_pos rfl, Except.ok.injEq] at h
          rw [← h]
          exact ThreeValued.refines_none _
        | false =>
          rw [hc _ hu, h] at h'
          rw [Except.ok.inj h']
          exact ThreeValued.Refines.refl _
      · have hs : s = some false := by
          cases children <;> simpa [evaluateNodeState, hgroup, htype, eq_comm] using h
        have hs' : s' = some false := by
          cases children <;> simpa [evaluateNodeState, hgroup, htype, eq_comm] using h'
        rw [hs, hs']
        exact ThreeValued.Refines.refl _

theorem evaluateStates_refines {ctx' : Context} (hc : Completes ctx ctx')
    (nodes : List RuleNode) {states states' : List (Option Bool)}
    (h : py.evaluateStates ctx nodes = .ok states)
    (h' : py.evaluateStates ctx' nodes = .ok states') :
    List.Forall₂ ThreeValued.Refines states states' := by
  match nodes with
  | [] =>
    simp only [evaluateStates, Except.ok.injEq] at h h'
    rw [← h, ← h']
    exact List.Forall₂.nil
  | node :: nodes =>
    obtain ⟨s, rest, hs, hrest, rfl⟩ := evaluateStates_cons_eq_ok.mp h
    obtain ⟨s', rest', hs', hrest', rfl⟩ := evaluateStates_cons_eq_ok.mp h'
    exact List.Forall₂.cons (evaluateNodeState_refines hc node hs hs')
      (evaluateStates_refines hc nodes hrest hrest')

end

/-- A definite answer is given again on a completion exactly when no condition raises
there. -/
theorem definiteState_stable_iff_noRaisingCondition (py : PythonRuntime)
    {ctx ctx' : Context} (hc : Completes ctx ctx') (node : RuleNode) {b : Bool}
    (h : py.evaluateNodeState ctx node = .ok (some b)) :
    py.evaluateNodeState ctx' node = .ok (some b) ↔ py.NoRaisingCondition ctx' node := by
  rw [← evaluateNodeState_returns_iff]
  constructor
  · intro h'
    exact ⟨_, h'⟩
  · rintro ⟨s', hs'⟩
    have hrefines := evaluateNodeState_refines hc node h hs'
    rw [hs', hrefines b rfl]

/-! ## A number too large for `float` -/

/-- The interpreter on text, ASCII case and numbers; it has no pattern, date or language
that the closed cases below would read. -/
def plainRuntime : PythonRuntime where
  lower s := String.ofList (s.toList.map Char.toLower)
  upper s := String.ofList (s.toList.map Char.toUpper)
  str
    | .none => "None"
    | .bool b => if b then "True" else "False"
    | .int n => toString n.val
    | .str s => s
    | _ => ""
  isoformat _ := ""
  floatOfInt n :=
    if n.val.natAbs < 2 ^ 1024 - 2 ^ 970 then some (Float.ofInt n.val) else none
  floatOfStr _ := none
  dateFromIsoformat _ := none
  datetimeFromIsoformat _ := none
  reCompile _ := .error .reError
  languageMatch _ := none

def hugeNumber : PyInt := ⟨10 ^ 400, by decide +kernel⟩

def fivePlays : PyInt := ⟨5, by decide +kernel⟩

/-- `playback.play_count > 10 ** 400`. -/
def manyPlays : RuleNode := .condition "playback.play_count" "greater_than" (.int hugeNumber)

def neverWatched (operator : String) : RuleNode :=
  .condition "watch.never_watched" operator .none

/-- Never watched, or watched and played very often. -/
def neverWatchedOrManyPlays : RuleNode :=
  .group "or" [neverWatched "is_true", .group "and" [neverWatched "is_false", manyPlays]]

def playContext (watched : Bool) (plays : PyValue) : Context := fun field =>
  if field = "watch.never_watched" then .bool (!watched)
  else if field = "playback.play_count" then plays
  else .none

theorem evaluators_disagree_neverWatchedOrManyPlays :
    ¬((∃ e, plainRuntime.evaluateNode (playContext false (.int fivePlays))
        neverWatchedOrManyPlays {} = .ok (true, e)) ↔
      plainRuntime.evaluateNodeState (playContext false (.int fivePlays))
        neverWatchedOrManyPlays = .ok (some true)) := by
  have hnode : ∃ e, plainRuntime.evaluateNode (playContext false (.int fivePlays))
      neverWatchedOrManyPlays {} = .ok (true, e) := ⟨_, rfl⟩
  have hstate : plainRuntime.evaluateNodeState (playContext false (.int fivePlays))
      neverWatchedOrManyPlays = .error .overflowError := by decide +kernel
  rw [hstate]
  exact fun h => by cases h.mp hnode

/-- Watched and played very often. -/
def watchedAndManyPlays : RuleNode := .group "and" [neverWatched "is_false", manyPlays]

theorem playContext_completes (watched : Bool) (plays : PyValue) :
    Completes (playContext watched .unavailable) (playContext watched plays) := by
  intro field hfield
  simp only [playContext] at hfield ⊢
  split_ifs at hfield ⊢ with hw hp
  · rfl
  · simp [PyValue.isUnavailable] at hfield
  · rfl

theorem definiteState_lost_watchedAndManyPlays :
    Completes (playContext false .unavailable) (playContext false (.int fivePlays)) ∧
      plainRuntime.evaluateNodeState (playContext false .unavailable) watchedAndManyPlays =
        .ok (some false) ∧
      plainRuntime.evaluateNodeState (playContext false (.int fivePlays))
        watchedAndManyPlays ≠ .ok (some false) :=
  ⟨playContext_completes _ _, by decide +kernel, by decide +kernel⟩

theorem definiteState_stable_withoutPlays :
    plainRuntime.evaluateNodeState (playContext false .none) watchedAndManyPlays =
        .ok (some false) ↔
      plainRuntime.NoRaisingCondition (playContext false .none) watchedAndManyPlays :=
  definiteState_stable_iff_noRaisingCondition plainRuntime (playContext_completes _ _)
    watchedAndManyPlays (by decide +kernel)

end PythonRuntime

end MediaMasterr.RuleEngine
