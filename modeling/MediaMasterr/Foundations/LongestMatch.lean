import Mathlib.Data.List.Infix
import MediaMasterr.Foundations.PythonText

/-! # The longest match

A list that is sorted by length and searched from the front gives a longest match.
Matches are roots here: texts whose components begin those of a path. Two roots of
one path are equal or differ in length by a separator and a component. -/

namespace MediaMasterr.Foundations

/-! ## The first match in a sorted list -/

section FirstMatch

variable {α β : Type*} {le : α → α → Bool} {f : α → Option β} {length : α → Nat} {items : List α}

theorem findSome?_mergeSort_eq_none_iff :
    (items.mergeSort le).findSome? f = none ↔ ∀ a ∈ items, f a = none := by
  simp only [List.findSome?_eq_none_iff, List.mem_mergeSort]

/-- In the order of decreasing lengths the first match is a longest one. -/
theorem exists_of_findSome?_mergeSort (hle : ∀ a b, le a b ↔ length b ≤ length a) {b : β}
    (h : (items.mergeSort le).findSome? f = some b) :
    ∃ a ∈ items, f a = some b ∧ ∀ a' ∈ items, (f a').isSome → length a' ≤ length a := by
  have htrans (a b c : α) (hab : le a b) (hbc : le b c) : le a c :=
    (hle a c).mpr (((hle b c).mp hbc).trans ((hle a b).mp hab))
  have htotal (a b : α) : le a b || le b a := by
    rw [Bool.or_eq_true, hle, hle]
    exact Nat.le_total _ _
  obtain ⟨front, a, rest, hsorted, ha, hfront⟩ := List.findSome?_eq_some_iff.mp h
  have hpairwise := List.pairwise_mergeSort htrans htotal items
  have hmem (a' : α) : a' ∈ items ↔ a' ∈ front ++ a :: rest := by
    rw [← hsorted, List.mem_mergeSort]
  rw [hsorted, List.pairwise_append, List.pairwise_cons] at hpairwise
  refine ⟨a, (hmem a).mpr (by simp), ha, fun a' ha' hmatch => ?_⟩
  rcases List.mem_append.mp ((hmem a').mp ha') with hbefore | hbehind
  · rw [hfront a' hbefore] at hmatch
    exact Bool.noConfusion hmatch
  · rcases List.mem_cons.mp hbehind with rfl | hbehind
    · exact Nat.le_refl _
    · exact (hle a a').mp (hpairwise.2.1.1 a' hbehind)

end FirstMatch

/-! ## Roots of a path -/

section Roots

variable {α : Type*} [DecidableEq α] {sep : α} {root root' path : List α}

/-- The components of the root begin those of the path. -/
def IsRootOf (sep : α) (root path : List α) : Prop := root.splitOn sep <+: path.splitOn sep

instance (sep : α) (root path : List α) : Decidable (IsRootOf sep root path) :=
  inferInstanceAs (Decidable (_ <+: _))

theorem isRootOf_iff : IsRootOf sep root path ↔ path = root ∨ root ++ [sep] <+: path :=
  PythonText.splitOn_prefix_iff

theorem IsRootOf.isPrefix (h : IsRootOf sep root path) : root <+: path := by
  rcases isRootOf_iff.mp h with rfl | h
  · exact List.prefix_rfl
  · exact (List.prefix_append _ _).trans h

theorem IsRootOf.eq_of_length_eq (h : IsRootOf sep root path) (h' : IsRootOf sep root' path)
    (hlength : root.length = root'.length) : root = root' :=
  (List.prefix_of_prefix_length_le h.isPrefix h'.isPrefix hlength.le).eq_of_length hlength

/-- A longer root of a path is longer by a separator and a component at least. -/
theorem IsRootOf.add_two_le (h : IsRootOf sep root path) (h' : IsRootOf sep root' path)
    (hlast : root'.getLast? ≠ some sep) (hlt : root.length < root'.length) :
    root.length + 2 ≤ root'.length := by
  rcases isRootOf_iff.mp h with rfl | hsep
  · exact absurd h'.isPrefix.length_le (Nat.not_le.mpr hlt)
  · obtain ⟨rest, rfl⟩ : root ++ [sep] <+: root' :=
      List.prefix_of_prefix_length_le hsep h'.isPrefix (by simpa using Nat.succ_le_of_lt hlt)
    cases rest with
    | nil => exact absurd (by simp) hlast
    | cons c rest => simp

/-- What stands behind a root, as components. -/
theorem splitOn_of_root (rest : List α) :
    (root ++ sep :: rest).splitOn sep = root.splitOn sep ++ rest.splitOn sep :=
  List.splitOn_append_cons_self ..

/-- The components of a path behind those of its root, put behind another root. -/
theorem intercalate_drop_root {rest : List α} (root' : List α) :
    [sep].intercalate (root'.splitOn sep ++
      ((root ++ sep :: rest).splitOn sep).drop (root.splitOn sep).length) = root' ++ sep :: rest := by
  rw [splitOn_of_root, List.drop_left, PythonText.intercalate_append (List.splitOn_ne_nil _ _)
    (List.splitOn_ne_nil _ _), List.intercalate_splitOn, List.intercalate_splitOn]

end Roots

end MediaMasterr.Foundations
