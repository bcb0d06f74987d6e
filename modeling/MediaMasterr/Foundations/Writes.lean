import Mathlib.Data.List.Forall2
import Mathlib.Data.List.Nodup
import MediaMasterr.Foundations.Loops

/-! # Writes to a table

A table is a list of rows with a numeric primary key. A loop over a table is a
list of writes, each of which changes the row of one key or inserts a row under
the next key. Then an old row goes through the changes of its key in order, and
the inserted rows stand behind the old ones. -/

namespace MediaMasterr.Foundations

variable {α : Type*}

inductive Write (α : Type*) where
  | update (id : Nat) (change : α → α)
  | insert (make : Nat → α)

namespace Write

section

variable (rowId : α → Nat)

/-- The next primary key. -/
def nextId (rows : List α) : Nat := (rows.map rowId).foldr max 0 + 1

def apply (rows : List α) : Write α → List α
  | update id change => rows.map fun row => if rowId row = id then change row else row
  | insert make => rows ++ [make (nextId rowId rows)]

def applyAll (rows : List α) (writes : List (Write α)) : List α :=
  writes.foldl (apply rowId) rows

/-- A change keeps the key, and a new row has the key it gets. -/
def Keyed : Write α → Prop
  | update _ change => ∀ row, rowId (change row) = rowId row
  | insert make => ∀ id, rowId (make id) = id

end

/-- The change that a write makes to the row of a key. -/
def changeOf (id : Nat) : Write α → Option (α → α)
  | update id' change => if id' = id then some change else none
  | insert _ => none

def makeOf : Write α → Option (Nat → α)
  | update .. => none
  | insert make => some make

/-- The changes to the row of a key, in order. -/
def changesOf (writes : List (Write α)) (id : Nat) : List (α → α) :=
  writes.filterMap (changeOf id)

/-- A row after the changes of its key. -/
def changed (rowId : α → Nat) (writes : List (Write α)) (row : α) : α :=
  (changesOf writes (rowId row)).foldl (fun row change => change row) row

def inserts (writes : List (Write α)) : List (Nat → α) := writes.filterMap makeOf

variable {rowId : α → Nat} {rows : List α} {writes : List (Write α)}

theorem lt_nextId {row : α} (h : row ∈ rows) : rowId row < nextId rowId rows := by
  induction rows with
  | nil => simp at h
  | cons first rows ih =>
    simp only [nextId, List.map_cons, List.foldr_cons] at ih ⊢
    rcases List.mem_cons.mp h with rfl | h
    · omega
    · have := ih h
      omega

theorem nextId_append_singleton (row : α) : nextId rowId (rows ++ [row]) =
    max (nextId rowId rows) (rowId row + 1) := by
  induction rows with
  | nil => simp [nextId]
  | cons first rows ih =>
    simp only [nextId, List.map_cons, List.foldr_cons, List.cons_append] at ih ⊢
    omega

theorem map_update_id {id : Nat} {change : α → α} (h : (update id change).Keyed rowId) :
    (rows.map fun row => if rowId row = id then change row else row).map rowId =
      rows.map rowId := by
  rw [List.map_map]
  refine List.map_congr_left fun row _ => ?_
  by_cases hid : rowId row = id
  · simp [hid, h row]
  · simp [hid]

/-- Writes keep the keys distinct. -/
theorem nodup_applyAll (hkeyed : ∀ w ∈ writes, w.Keyed rowId) (hrows : (rows.map rowId).Nodup) :
    ((applyAll rowId rows writes).map rowId).Nodup := by
  refine Loops.foldl_invariant (P := fun rows : List α => (rows.map rowId).Nodup) ?_ hrows
  intro w hw rows hrows
  have hkey := hkeyed w hw
  cases w with
  | update id change =>
    rw [apply, map_update_id hkey]
    exact hrows
  | insert make =>
    rw [apply, List.map_append, List.map_singleton, hkey]
    refine hrows.append (List.nodup_singleton _) (List.disjoint_singleton.mpr fun hmem => ?_)
    obtain ⟨row, hrow, hid⟩ := List.mem_map.mp hmem
    exact Nat.ne_of_lt (lt_nextId hrow) hid

/-- Writes delete nothing. -/
theorem map_subset_applyAll (hkeyed : ∀ w ∈ writes, w.Keyed rowId) (rows : List α) :
    rows.map rowId ⊆ (applyAll rowId rows writes).map rowId := by
  refine Loops.foldl_invariant (P := fun rows' : List α => rows.map rowId ⊆ rows'.map rowId) ?_
    (List.Subset.refl _)
  intro w hw rows' hrows
  cases w with
  | update id change =>
    rw [apply, map_update_id (hkeyed _ hw)]
    exact hrows
  | insert make =>
    rw [apply, List.map_append]
    exact List.subset_append_of_subset_left _ hrows

theorem update_mem_of_mem_changesOf {id : Nat} {change : α → α}
    (h : change ∈ changesOf writes id) : update id change ∈ writes := by
  obtain ⟨w, hw, hof⟩ := List.mem_filterMap.mp h
  cases w with
  | update id' change' =>
    simp only [changeOf, Option.ite_none_right_eq_some, Option.some.injEq] at hof
    obtain ⟨rfl, rfl⟩ := hof
    exact hw
  | insert make => simp [changeOf] at hof

theorem mem_changesOf {id : Nat} {change : α → α} (h : update id change ∈ writes) :
    change ∈ changesOf writes id :=
  List.mem_filterMap.mpr ⟨_, h, if_pos rfl⟩

/-- What no change touches, the changes together do not touch. -/
theorem changed_keeps {β : Type*} (f : α → β)
    (h : ∀ id change, update id change ∈ writes → ∀ row, f (change row) = f row) (row : α) :
    f (changed rowId writes row) = f row :=
  Loops.foldl_invariant (P := fun row' : α => f row' = f row)
    (fun change hchange row' hrow' =>
      (h _ change (update_mem_of_mem_changesOf hchange) row').trans hrow') rfl

theorem rowId_changed (h : ∀ w ∈ writes, w.Keyed rowId) (row : α) :
    rowId (changed rowId writes row) = rowId row :=
  changed_keeps rowId (fun _ _ hmem => h _ hmem) row

theorem changed_update (id : Nat) (change : α → α) (row : α)
    (h : (update id change).Keyed rowId) : changed rowId (update id change :: writes) row =
      changed rowId writes (if rowId row = id then change row else row) := by
  unfold changed changesOf
  by_cases hid : rowId row = id
  · simp [changeOf, hid, h row]
  · simp [changeOf, hid, Ne.symm hid]

theorem changesOf_eq_nil {id : Nat} (h : ∀ change, update id change ∉ writes) :
    changesOf writes id = [] := by
  rw [changesOf, List.filterMap_eq_nil_iff]
  intro w hw
  cases w with
  | update id' change =>
    refine if_neg ?_
    rintro rfl
    exact h change hw
  | insert make => rfl

theorem mem_inserts {make : Nat → α} : make ∈ inserts writes ↔ insert make ∈ writes := by
  rw [inserts, List.mem_filterMap]
  constructor
  · rintro ⟨w, hw, hof⟩
    cases w with
    | update id change => cases hof
    | insert make' =>
      obtain rfl := Option.some.inj hof
      exact hw
  · exact fun h => ⟨_, h, rfl⟩

/-- The key of the row that a write changes. -/
def updates : Write α → Option Nat
  | update id _ => some id
  | insert _ => none

/-- The only change to the row of a key. -/
theorem changesOf_eq_singleton {id : Nat} {change : α → α} (h : update id change ∈ writes)
    (hdistinct : writes.Pairwise fun w w' => w.updates = some id → w'.updates ≠ some id) :
    changesOf writes id = [change] := by
  induction writes with
  | nil => simp at h
  | cons w writes ih =>
    obtain ⟨hhead, htail⟩ := List.pairwise_cons.mp hdistinct
    rcases List.mem_cons.mp h with rfl | hmem
    · have hrest : changesOf writes id = [] :=
        changesOf_eq_nil fun change' h' => hhead _ h' rfl rfl
      rw [changesOf, List.filterMap_cons, changeOf, if_pos rfl]
      exact congrArg _ hrest
    · have hother : changeOf id w = none := by
        cases w with
        | update id' change' =>
          refine if_neg fun heq => ?_
          exact hhead (update id change) hmem (congrArg some heq) rfl
        | insert make => rfl
      rw [changesOf, List.filterMap_cons, hother]
      exact ih hmem htail

/-- The rows of these inserts, under keys from `next` on. -/
def Created (next : Nat) (makes : List (Nat → α)) (created : List α) : Prop :=
  List.Forall₂ (fun make row => ∃ id, next ≤ id ∧ row = make id) makes created

theorem Created.exists_of_mem {next : Nat} {makes : List (Nat → α)} {created : List α}
    (h : Created next makes created) {row : α} (hrow : row ∈ created) :
    ∃ make ∈ makes, ∃ id, next ≤ id ∧ row = make id := by
  induction h with
  | nil => simp at hrow
  | cons hhead _ ih =>
    rcases List.mem_cons.mp hrow with rfl | hrow
    · exact ⟨_, List.mem_cons_self, hhead⟩
    · obtain ⟨make, hmake, h⟩ := ih hrow
      exact ⟨make, List.mem_cons_of_mem _ hmake, h⟩

theorem Created.exists_of_make {next : Nat} {makes : List (Nat → α)} {created : List α}
    (h : Created next makes created) {make : Nat → α} (hmake : make ∈ makes) :
    ∃ id, next ≤ id ∧ make id ∈ created := by
  induction h with
  | nil => simp at hmake
  | cons hhead _ ih =>
    rcases List.mem_cons.mp hmake with rfl | hmake
    · obtain ⟨id, hid, rfl⟩ := hhead
      exact ⟨id, hid, List.mem_cons_self⟩
    · obtain ⟨id, hid, hmem⟩ := ih hmake
      exact ⟨id, hid, List.mem_cons_of_mem _ hmem⟩

/-- What does not depend on the key of a new row is known from its insert. -/
theorem Created.map_eq {β : Type*} {next : Nat} {makes : List (Nat → α)} {created : List α}
    (h : Created next makes created) {f : α → β} {g : (Nat → α) → β}
    (hfg : ∀ make ∈ makes, ∀ id, f (make id) = g make) : created.map f = makes.map g := by
  induction h with
  | nil => rfl
  | cons hhead _ ih =>
    obtain ⟨id, -, rfl⟩ := hhead
    rw [List.map_cons, List.map_cons, hfg _ List.mem_cons_self,
      ih fun make hmake => hfg make (List.mem_cons_of_mem _ hmake)]

/-- What a list of writes leaves. -/
theorem applyAll_eq (hkeyed : ∀ w ∈ writes, w.Keyed rowId)
    (hold : ∀ id change, update id change ∈ writes → id < nextId rowId rows) :
    ∃ created, applyAll rowId rows writes = rows.map (changed rowId writes) ++ created ∧
      Created (nextId rowId rows) (inserts writes) created := by
  induction writes generalizing rows with
  | nil =>
    have hsame : changed rowId ([] : List (Write α)) = id := rfl
    exact ⟨[], by simp [applyAll, hsame], .nil⟩
  | cons w writes ih =>
    have hkeyed' : ∀ w ∈ writes, w.Keyed rowId := fun w hw => hkeyed w (List.mem_cons_of_mem _ hw)
    have hw := hkeyed w List.mem_cons_self
    cases w with
    | update id change =>
      have hnext : nextId rowId (rows.map fun row => if rowId row = id then change row else row) =
          nextId rowId rows := by
        rw [nextId, map_update_id hw, nextId]
      obtain ⟨created, happly, hcreated⟩ := @ih
        (rows.map fun row => if rowId row = id then change row else row) hkeyed'
        fun id' change' h => hnext ▸ hold id' change' (List.mem_cons_of_mem _ h)
      refine ⟨created, ?_, hnext ▸ hcreated⟩
      rw [applyAll, List.foldl_cons, apply]
      refine happly.trans ?_
      rw [List.map_map]
      congr 1
      exact List.map_congr_left fun row _ => (changed_update id change row hw).symm
    | insert make =>
      have hnext : nextId rowId (rows ++ [make (nextId rowId rows)]) = nextId rowId rows + 1 := by
        rw [nextId_append_singleton, hw]
        omega
      obtain ⟨created, happly, hcreated⟩ := @ih (rows ++ [make (nextId rowId rows)]) hkeyed'
        fun id change h => hnext ▸ Nat.lt_succ_of_lt (hold id change (List.mem_cons_of_mem _ h))
      -- no write of an old row changes the new one
      have hnew : changed rowId writes (make (nextId rowId rows)) = make (nextId rowId rows) := by
        unfold changed
        rw [hw, changesOf_eq_nil fun change h => Nat.lt_irrefl _ (hold _ change
          (List.mem_cons_of_mem _ h)), List.foldl_nil]
      refine ⟨make (nextId rowId rows) :: created, ?_, ?_⟩
      · rw [applyAll, List.foldl_cons, apply]
        refine happly.trans ?_
        rw [List.map_append, List.map_singleton, hnew, List.append_assoc]
        rfl
      · refine .cons ⟨_, Nat.le_refl _, rfl⟩ ?_
        refine hcreated.imp fun make' row => ?_
        rintro ⟨id, hid, hrow⟩
        exact ⟨id, by omega, hrow⟩

end Write

end MediaMasterr.Foundations
