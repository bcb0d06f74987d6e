import Mathlib.Data.Set.Insert
import MediaMasterr.Foundations.Runs

/-! # Grants

A record of what was granted and of what ended it. A grant stands while nothing recorded
after it has ended it. A system that records grants on its way agrees with its record when
every step does. -/

namespace MediaMasterr.Foundations.Grants

variable {γ σ ε τ : Type*}

inductive Entry (γ : Type*) where
  | granted (grant : γ)
  /-- Everything that is covered ends. -/
  | ended (covers : γ → Bool)

def Entry.apply (standing : Set γ) : Entry γ → Set γ
  | granted grant => insert grant standing
  | ended covers => {grant ∈ standing | covers grant = false}

def extend (standing : Set γ) (entries : List (Entry γ)) : Set γ :=
  entries.foldl Entry.apply standing

/-- The grants that a record leaves. -/
def standing (entries : List (Entry γ)) : Set γ := extend ∅ entries

variable {before S : Set γ} {grant : γ} {entries : List (Entry γ)}

@[simp] theorem extend_nil : extend S [] = S := rfl

@[simp] theorem extend_cons {entry : Entry γ} :
    extend S (entry :: entries) = extend (entry.apply S) entries := rfl

theorem extend_append {rest : List (Entry γ)} :
    extend S (entries ++ rest) = extend (extend S entries) rest :=
  List.foldl_append

/-! ## The record of a run -/

section

variable (next : σ → ε → σ) (entriesOf : σ → ε → List τ)

/-- What the steps of a run record. -/
def record : σ → List ε → List τ
  | _, [] => []
  | s, event :: events => entriesOf s event ++ record (next s event) events

end

/-- A relation between the state and the standing grants that every step keeps is kept by the run
and its record. -/
theorem simulates {next : σ → ε → σ} {entriesOf : σ → ε → List (Entry γ)}
    {Admits : σ → ε → Prop} {R : σ → Set γ → Prop}
    (hstep : ∀ s event S, R s S → Admits s event → R (next s event) (extend S (entriesOf s event)))
    {s : σ} {events : List ε}
    (hmeets : Runs.Meets (fun s event => some (next s event)) Admits s events) (hs : R s S) :
      R (events.foldl next s) (extend S (record next entriesOf s events)) := by
  induction events generalizing s S with
  | nil => exact hs
  | cons event events ih =>
    rw [record, extend_append, List.foldl_cons]
    exact ih (hmeets.2 _ rfl) (hstep s event S hs hmeets.1)

end MediaMasterr.Foundations.Grants
