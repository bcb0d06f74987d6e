import Mathlib.Data.List.Basic

/-! # The position of an element in a stable sort

In the sorted list an element stands behind those that are strictly smaller and
behind the equal ones that stood before it. -/

namespace MediaMasterr.Foundations.StableSort

variable {α : Type*} [DecidableEq α] {le : α → α → Bool} {l : List α} {x : α}

/-- The number of elements that a stable sort of the list puts before the first `x`. -/
def precedingCount (le : α → α → Bool) (x : α) : List α → Nat
  | [] => 0
  | a :: l =>
    if a = x then l.countP fun b => !le x b
    else (if le a x then 1 else 0) + precedingCount le x l

section Order

variable (trans : ∀ a b c : α, le a b → le b c → le a c) (total : ∀ a b : α, le a b || le b a)
include trans total

theorem idxOf_mergeSort (hx : x ∈ l) : (l.mergeSort le).idxOf x = precedingCount le x l := by
  induction l with
  | nil => exact absurd hx List.not_mem_nil
  | cons a l ih =>
    obtain ⟨l₁, l₂, hsorted, hrest, hbefore⟩ := List.mergeSort_cons trans total a l
    have hpairwise := List.pairwise_mergeSort trans total (a :: l)
    rw [hsorted, List.pairwise_append, List.pairwise_cons] at hpairwise
    have hperm : (l₁ ++ l₂).Perm l := hrest ▸ List.mergeSort_perm l le
    rw [hsorted, precedingCount]
    by_cases hax : a = x
    · subst hax
      -- the elements before the head are those that it does not precede
      have hrefl : le a a = true := by simpa using total a a
      have hnot : a ∉ l₁ := by
        intro hmem
        simpa [hrefl] using hbefore a hmem
      have hafter : l₂.countP (fun b => !le a b) = 0 := by
        rw [List.countP_eq_zero]
        intro b hb
        simp [hpairwise.2.1.1 b hb]
      have hfront : l₁.countP (fun b => !le a b) = l₁.length := List.countP_eq_length.mpr hbefore
      rw [if_pos rfl, List.idxOf_append_of_notMem hnot, List.idxOf_cons_self, ← hperm.countP_eq,
        List.countP_append, hafter, hfront]
    · have hx' : x ∈ l := (List.mem_cons.mp hx).resolve_left (Ne.symm hax)
      rw [if_neg hax, ← ih hx', hrest]
      by_cases hmem : x ∈ l₁
      · have hle : le a x = false := by simpa using hbefore x hmem
        rw [List.idxOf_append_of_mem hmem, List.idxOf_append_of_mem hmem, hle]
        simp
      · have hmem₂ : x ∈ l₂ := (List.mem_append.mp (hperm.mem_iff.mpr hx')).resolve_left hmem
        rw [List.idxOf_append_of_notMem hmem, List.idxOf_append_of_notMem hmem,
          List.idxOf_cons_ne l₂ hax, hpairwise.2.1.1 x hmem₂, if_pos rfl]
        omega

theorem mem_take_mergeSort_iff (hx : x ∈ l) (n : Nat) :
    x ∈ (l.mergeSort le).take n ↔ precedingCount le x l < n := by
  rw [List.mem_take_iff_idxOf_lt (List.mem_mergeSort.mpr hx), idxOf_mergeSort trans total hx]

end Order

end MediaMasterr.Foundations.StableSort
