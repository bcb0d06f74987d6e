import MediaMasterr.Database.Frames

/-! # Effects of a handler

What a handler does to the tables is a sequence of removals, with marks between
them. Results about a whole run follow from what one removal does. -/

namespace MediaMasterr.Deletion

open MediaMasterr.Database

variable {R : Type} {apply : R → Tables → Tables}

/-- These removals, in order, and marks between them lead from `db` to the last tables. -/
inductive Effects (apply : R → Tables → Tables) (db : Tables) : List R → Tables → Prop where
  | done : Effects apply db [] db
  | mark {rs : List R} {db' db'' : Tables} :
      Effects apply db rs db' → db'.Marks db'' → Effects apply db rs db''
  | removal {rs : List R} {db' : Tables} (r : R) :
      Effects apply db rs db' → Effects apply db (rs ++ [r]) (apply r db')

namespace Effects

variable {db db' db'' : Tables} {rs rs' : List R}

theorem of_marks (h : db.Marks db') : Effects apply db [] db' := done.mark h

theorem of_removal (r : R) : Effects apply db [r] (apply r db) := done.removal r

theorem trans (h : Effects apply db rs db') (h' : Effects apply db' rs' db'') :
    Effects apply db (rs ++ rs') db'' := by
  induction h' with
  | done => simpa using h
  | mark _ hmark ih => exact ih.mark hmark
  | removal r _ ih =>
    rw [← List.append_assoc]
    exact ih.removal r

/-- A loop has the effects of its steps. -/
theorem foldl {σ τ : Type} (tables : σ → Tables) {step : σ → τ → σ} {piece : τ → List R}
    (hstep : ∀ s t, Effects apply (tables s) (piece t) (tables (step s t))) (ts : List τ) (s : σ) :
    Effects apply (tables s) (ts.flatMap piece) (tables (ts.foldl step s)) := by
  induction ts generalizing s with
  | nil => exact done
  | cons t ts ih => exact (hstep s t).trans (ih (step s t))

/-- What marks and the removals of a run keep, the run keeps. -/
theorem preserves {P : Tables → Prop} (hmark : ∀ {db db' : Tables}, db.Marks db' → P db → P db')
    (h : Effects apply db rs db') (hremoval : ∀ r ∈ rs, ∀ db, P db → P (apply r db)) (hP : P db) :
    P db' := by
  induction h with
  | done => exact hP
  | mark _ hmarks ih => exact hmark hmarks (ih hremoval)
  | removal r _ ih =>
    exact hremoval r (by simp) _ (ih fun r' hr' => hremoval r' (by simp [hr']))

/-- An observation that a removal keeps exactly under a condition, a run keeps exactly under all
of them. -/
theorem keeps_iff {I P : Tables → Prop} {Q : R → Prop}
    (hI : ∀ {db db' : Tables}, db.Marks db' → I db → I db')
    (hmark : ∀ {db db' : Tables}, db.Marks db' → (P db' ↔ P db))
    (h : Effects apply db rs db')
    (hremoval : ∀ r ∈ rs, ∀ db, I db → I (apply r db) ∧ (P (apply r db) ↔ P db ∧ Q r))
    (hdb : I db) : P db' ↔ P db ∧ ∀ r ∈ rs, Q r := by
  have hall : I db' ∧ (P db' ↔ P db ∧ ∀ r ∈ rs, Q r) := by
    induction h with
    | done => exact ⟨hdb, by simp⟩
    | mark _ hmarks ih =>
      obtain ⟨hinv, hiff⟩ := ih hremoval
      exact ⟨hI hmarks hinv, (hmark hmarks).trans hiff⟩
    | removal r _ ih =>
      obtain ⟨hinv, hiff⟩ := ih fun r' hr' => hremoval r' (by simp [hr'])
      obtain ⟨hinv', hiff'⟩ := hremoval r (by simp) _ hinv
      refine ⟨hinv', hiff'.trans ?_⟩
      rw [hiff]
      simp [or_imp, forall_and, and_assoc]
  exact hall.2

end Effects

end MediaMasterr.Deletion
