import Mathlib.Algebra.GroupWithZero.Nat
import Mathlib.Data.Finset.Card

/-! # Coverings

A list of finite sets that are collected one after the other: the sizes add up to
that of the union exactly when no two of the sets meet. -/

namespace MediaMasterr.Foundations

variable {α : Type*} [DecidableEq α]

/-- The union of the sets of a list. -/
def unionOf (sets : List (Finset α)) : Finset α := sets.foldl (· ∪ ·) ∅

theorem unionOf_concat (sets : List (Finset α)) (last : Finset α) :
    unionOf (sets ++ [last]) = unionOf sets ∪ last := List.foldl_append

theorem mem_unionOf {sets : List (Finset α)} {a : α} :
    a ∈ unionOf sets ↔ ∃ s ∈ sets, a ∈ s := by
  induction sets using List.reverseRecOn with
  | nil => simp [unionOf]
  | append_singleton sets last ih => simp [unionOf_concat, ih, or_and_right, exists_or]

theorem card_unionOf_le (sets : List (Finset α)) :
    (unionOf sets).card ≤ (sets.map Finset.card).sum := by
  induction sets using List.reverseRecOn with
  | nil => simp [unionOf]
  | append_singleton sets last ih =>
    rw [unionOf_concat, List.map_append, List.sum_append_nat, List.map_singleton,
      List.sum_singleton]
    exact (Finset.card_union_le _ _).trans (Nat.add_le_add_right ih _)

theorem disjoint_unionOf {sets : List (Finset α)} {s : Finset α} :
    Disjoint (unionOf sets) s ↔ ∀ t ∈ sets, Disjoint t s := by
  simp only [Finset.disjoint_left, mem_unionOf]
  exact ⟨fun h t ht a ha => h ⟨t, ht, ha⟩, fun h a ⟨t, ht, ha⟩ => h t ht ha⟩

/-- Nothing is counted twice exactly when no two sets meet. -/
theorem sum_card_eq_card_unionOf_iff (sets : List (Finset α)) :
    (sets.map Finset.card).sum = (unionOf sets).card ↔ sets.Pairwise Disjoint := by
  induction sets using List.reverseRecOn with
  | nil => simp [unionOf]
  | append_singleton sets last ih =>
    have hcover := card_unionOf_le sets
    have hunion := Finset.card_union_le (unionOf sets) last
    have hlast : (unionOf sets ∪ last).card = (unionOf sets).card + last.card ↔
        ∀ t ∈ sets, Disjoint t last :=
      Finset.card_union_eq_card_add_card.trans disjoint_unionOf
    rw [unionOf_concat, List.map_append, List.sum_append_nat, List.map_singleton,
      List.sum_singleton, List.pairwise_append]
    simp only [List.pairwise_singleton, List.mem_singleton, forall_eq, true_and]
    rw [← ih, ← hlast]
    omega

end MediaMasterr.Foundations
