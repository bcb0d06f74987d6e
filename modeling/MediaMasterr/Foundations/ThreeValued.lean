import Mathlib.Data.List.Forall2

/-! # Three-valued answers

Strong Kleene conjunction and disjunction over lists of answers, where `none`
is an answer that is not known, and the information order under which both are
monotone: an answer that becomes known never withdraws one already given. -/

namespace MediaMasterr.Foundations.ThreeValued

variable {α : Type*}

/-- `b` repeats every definite answer of `a`. -/
def Refines (a b : Option α) : Prop := ∀ v, a = some v → b = some v

theorem Refines.refl (a : Option α) : Refines a a := fun _ h => h

theorem refines_none (b : Option α) : Refines none b := by
  intro v h
  cases h

@[simp] theorem refines_some_iff (v : α) (b : Option α) : Refines (some v) b ↔ b = some v := by
  constructor
  · intro h
    exact h v rfl
  · intro h w hw
    rw [h, ← hw]

/-- A definite `false` decides a conjunction; otherwise one unknown leaves it open. -/
def conj (states : List (Option Bool)) : Option Bool :=
  if some false ∈ states then some false
  else if none ∈ states then none
  else some true

/-- A definite `true` decides a disjunction; otherwise one unknown leaves it open. -/
def disj (states : List (Option Bool)) : Option Bool :=
  if some true ∈ states then some true
  else if none ∈ states then none
  else some false

theorem conj_eq_false_iff (states : List (Option Bool)) :
    conj states = some false ↔ some false ∈ states := by
  unfold conj
  split_ifs <;> simp_all

theorem disj_eq_true_iff (states : List (Option Bool)) :
    disj states = some true ↔ some true ∈ states := by
  unfold disj
  split_ifs <;> simp_all

private theorem mem_cases_of_not_mem {states : List (Option Bool)} {b : Bool}
    (hb : some b ∉ states) (hn : none ∉ states) {s : Option Bool} (hs : s ∈ states) :
    s = some (!b) := by
  cases s with
  | none => exact absurd hs hn
  | some v =>
    have hv : v ≠ b := by
      rintro rfl
      exact hb hs
    cases v <;> cases b <;> simp_all

theorem conj_eq_true_iff (states : List (Option Bool)) :
    conj states = some true ↔ ∀ s ∈ states, s = some true := by
  unfold conj
  constructor
  · intro h s hs
    split_ifs at h with hf hn
    · cases h
    · exact mem_cases_of_not_mem hf hn hs
  · intro h
    have hf : some false ∉ states := fun hs => by cases h _ hs
    have hn : none ∉ states := fun hs => by cases h _ hs
    rw [if_neg hf, if_neg hn]

theorem disj_eq_false_iff (states : List (Option Bool)) :
    disj states = some false ↔ ∀ s ∈ states, s = some false := by
  unfold disj
  constructor
  · intro h s hs
    split_ifs at h with hf hn
    · cases h
    · exact mem_cases_of_not_mem hf hn hs
  · intro h
    have ht : some true ∉ states := fun hs => by cases h _ hs
    have hn : none ∉ states := fun hs => by cases h _ hs
    rw [if_neg ht, if_neg hn]

section Monotone

variable {states states' : List (Option Bool)}

theorem mem_some_of_refines (h : List.Forall₂ Refines states states') {v : Bool}
    (hv : some v ∈ states) : some v ∈ states' := by
  induction h with
  | nil => exact hv
  | cons hab _ ih =>
    rcases List.mem_cons.mp hv with rfl | htail
    · rw [(refines_some_iff v _).mp hab]
      exact List.mem_cons_self
    · exact List.mem_cons_of_mem _ (ih htail)

theorem forall_some_of_refines (h : List.Forall₂ Refines states states') {v : Bool}
    (hv : ∀ s ∈ states, s = some v) : ∀ s ∈ states', s = some v := by
  induction h with
  | nil => exact hv
  | cons hab _ ih =>
    intro s hs
    rcases List.mem_cons.mp hs with rfl | htail
    · exact hab v (hv _ List.mem_cons_self)
    · exact ih (fun s hs => hv s (List.mem_cons_of_mem _ hs)) s htail

/-- Conjunction keeps every definite answer when its arguments become better known. -/
theorem conj_mono (h : List.Forall₂ Refines states states') :
    Refines (conj states) (conj states') := by
  intro v hv
  cases v with
  | false =>
    rw [conj_eq_false_iff] at hv ⊢
    exact mem_some_of_refines h hv
  | true =>
    rw [conj_eq_true_iff] at hv ⊢
    exact forall_some_of_refines h hv

/-- Disjunction keeps every definite answer when its arguments become better known. -/
theorem disj_mono (h : List.Forall₂ Refines states states') :
    Refines (disj states) (disj states') := by
  intro v hv
  cases v with
  | false =>
    rw [disj_eq_false_iff] at hv ⊢
    exact forall_some_of_refines h hv
  | true =>
    rw [disj_eq_true_iff] at hv ⊢
    exact mem_some_of_refines h hv

end Monotone

end MediaMasterr.Foundations.ThreeValued
