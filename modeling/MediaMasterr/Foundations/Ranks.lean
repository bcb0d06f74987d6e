import Mathlib.Order.Lattice
import Mathlib.Data.List.Perm.Basic
import MediaMasterr.Foundations.Dict

/-! # Ranks within groups

Items are grouped, each group is sorted by a key from the largest to the smallest,
and every item gets its position. With different keys in a group the position of
an item is one more than the number of items of its group with a larger key. -/

namespace MediaMasterr.Foundations.Ranks

variable {τ κ : Type*} [LinearOrder κ]

/-- `items.sort(key=key, reverse=True)`. -/
def sortDescending (key : τ → κ) (items : List τ) : List τ :=
  items.mergeSort fun a b => decide (key b ≤ key a)

section Sorted

variable {key : τ → κ} {items : List τ}

theorem sortDescending_perm (key : τ → κ) (items : List τ) :
    (sortDescending key items).Perm items :=
  List.mergeSort_perm _ _

/-- With different keys the sorted list descends strictly. -/
theorem sortDescending_pairwise (hkeys : (items.map key).Nodup) :
    (sortDescending key items).Pairwise fun a b => key b < key a := by
  have hle : (sortDescending key items).Pairwise fun a b => key b ≤ key a := by
    refine (List.pairwise_mergeSort ?_ ?_ items).imp fun h => of_decide_eq_true h
    · intro a b c hab hbc
      exact decide_eq_true (le_trans (of_decide_eq_true hbc) (of_decide_eq_true hab))
    · intro a b
      simpa using le_total (key b) (key a)
  have hne : (sortDescending key items).Pairwise fun a b => key a ≠ key b :=
    List.pairwise_map.mp ((((sortDescending_perm key items).map key).nodup_iff).mpr hkeys)
  exact (hle.and hne).imp fun h => lt_of_le_of_ne h.1 h.2.symm

/-- A position in a strictly descending list counts the larger keys. -/
theorem eq_of_mem_zipIdx (h : items.Pairwise fun a b => key b < key a) {t : τ} {i n : Nat}
    (ht : (t, i) ∈ items.zipIdx n) : i = n + items.countP fun u => key t < key u := by
  induction items generalizing n with
  | nil => simp at ht
  | cons a items ih =>
    obtain ⟨hhead, htail⟩ := List.pairwise_cons.mp h
    rw [List.zipIdx_cons, List.mem_cons] at ht
    rcases ht with heq | ht
    · obtain ⟨rfl, rfl⟩ := Prod.mk.inj heq
      have hnone : items.countP (fun u => key t < key u) = 0 := by
        rw [List.countP_eq_zero]
        intro u hu
        simpa using le_of_lt (hhead u hu)
      rw [List.countP_cons, hnone]
      simp
    · have hmem : t ∈ items := List.fst_mem_of_mem_zipIdx ht
      have hi := ih htail ht
      rw [List.countP_cons, if_pos (decide_eq_true (hhead t hmem))]
      omega

end Sorted

section Groups

variable {γ ι : Type*} [DecidableEq γ] [DecidableEq ι]
variable (group : τ → γ) (id : τ → ι) (key : τ → κ) (items : List τ)

/-- The items with their positions, group by group. -/
def positions : List (τ × Nat) :=
  (Dict.group group (fun t => t) items).values.flatMap fun members =>
    (sortDescending key members).zipIdx 1

/-- The positions under the ids of the items. -/
def ranks : Dict ι Nat :=
  (positions group key items).foldl (fun ranks e => ranks.set (id e.1) e.2) ∅

/-- The number of items of a group whose key is larger. -/
def largerCount (t : τ) : Nat := items.countP fun u => group u = group t ∧ key t < key u

variable {group id key items}

/-- Two items of one group have different keys. -/
def KeysDistinct (group : τ → γ) (key : τ → κ) (items : List τ) : Prop :=
  ∀ g, ((items.filter (group · = g)).map key).Nodup

omit [LinearOrder κ] in
theorem KeysDistinct.of_injOn (hitems : items.Nodup)
    (h : ∀ t ∈ items, ∀ u ∈ items, group t = group u → key t = key u → t = u) :
    KeysDistinct group key items := by
  intro g
  refine List.Nodup.map_on ?_ (hitems.filter _)
  intro t ht u hu hkey
  obtain ⟨ht, hg⟩ := List.mem_filter.mp ht
  obtain ⟨hu, hg'⟩ := List.mem_filter.mp hu
  exact h t ht u hu ((of_decide_eq_true hg).trans (of_decide_eq_true hg').symm) hkey

theorem mem_positions {t : τ} {i : Nat} (hkeys : KeysDistinct group key items)
    (h : (t, i) ∈ positions group key items) : t ∈ items ∧ i = 1 + largerCount group key items t := by
  obtain ⟨members, hmembers, hpos⟩ := List.mem_flatMap.mp h
  obtain ⟨g, rfl⟩ := Dict.mem_values_group _ _ _ hmembers
  rw [List.map_id'] at hpos
  have ht : t ∈ items.filter (group · = g) :=
    (sortDescending_perm _ _).mem_iff.mp (List.fst_mem_of_mem_zipIdx hpos)
  obtain ⟨hmem, hg⟩ := List.mem_filter.mp ht
  obtain rfl : group t = g := of_decide_eq_true hg
  refine ⟨hmem, ?_⟩
  rw [eq_of_mem_zipIdx (sortDescending_pairwise (hkeys _)) hpos,
    (sortDescending_perm _ _).countP_eq, List.countP_filter, largerCount]
  congr 1
  refine List.countP_congr fun u _ => ?_
  simp [and_comm]

theorem exists_mem_positions {t : τ} (ht : t ∈ items) :
    ∃ i, (t, i) ∈ positions group key items := by
  have hget := Dict.get?_group group (fun t => t) items ht rfl
  have hvalues := Dict.mem_values_iff.mpr ⟨_, hget⟩
  have hsorted : t ∈ sortDescending key ((items.filter (group · = group t)).map fun t => t) := by
    rw [(sortDescending_perm _ _).mem_iff, List.map_id']
    exact List.mem_filter.mpr ⟨ht, by simp⟩
  obtain ⟨i, hlt, hi⟩ := List.mem_iff_getElem.mp hsorted
  refine ⟨1 + i, List.mem_flatMap.mpr ⟨_, hvalues, ?_⟩⟩
  exact List.mk_add_mem_zipIdx_iff_getElem?.mpr (by rw [List.getElem?_eq_getElem hlt, hi])

/-- The rank of an item. -/
theorem get?_ranks (hids : (items.map id).Nodup) (hkeys : KeysDistinct group key items) {t : τ}
    (ht : t ∈ items) :
    (ranks group id key items).get? (id t) = some (1 + largerCount group key items t) := by
  obtain ⟨i, hi⟩ : ∃ i, (t, i) ∈ positions group key items := exists_mem_positions ht
  refine Dict.get?_foldl_set_of_mem hi rfl fun e he hid => ?_
  obtain ⟨hmem, hrank⟩ := mem_positions hkeys he
  rw [hrank, List.inj_on_of_nodup_map hids hmem ht hid]

theorem get?_ranks_eq_none (hkeys : KeysDistinct group key items) {i : ι}
    (h : ∀ t ∈ items, id t ≠ i) :
    (ranks group id key items).get? i = none :=
  Dict.get?_foldl_set_eq_none fun _ he => h _ (mem_positions hkeys he).1

/-- The ranks of a group are the numbers from one to its size. -/
theorem map_get?_ranks_perm (hids : (items.map id).Nodup) (hkeys : KeysDistinct group key items)
    (g : γ) : ((items.filter (group · = g)).map fun t => (ranks group id key items).get? (id t)).Perm
      ((List.range' 1 (items.filter (group · = g)).length).map some) := by
  have hsorted := sortDescending_perm key (items.filter (group · = g))
  refine (hsorted.map _).symm.trans (List.Perm.of_eq ?_)
  have hpositions : ∀ e ∈ (sortDescending key (items.filter (group · = g))).zipIdx 1,
      (ranks group id key items).get? (id e.1) = some e.2 := by
    rintro ⟨t, i⟩ he
    obtain ⟨hmem, hg⟩ := List.mem_filter.mp (hsorted.mem_iff.mp (List.fst_mem_of_mem_zipIdx he))
    rw [get?_ranks hids hkeys hmem, eq_of_mem_zipIdx (sortDescending_pairwise (hkeys _)) he,
      hsorted.countP_eq, List.countP_filter, largerCount]
    congr 2
    refine List.countP_congr fun u _ => ?_
    rw [of_decide_eq_true hg]
    simp [and_comm]
  calc (sortDescending key (items.filter (group · = g))).map
        (fun t => (ranks group id key items).get? (id t))
      = ((sortDescending key (items.filter (group · = g))).zipIdx 1).map
          (fun e => (ranks group id key items).get? (id e.1)) := by
        conv_lhs => rw [← List.zipIdx_map_fst 1 (sortDescending key _), List.map_map]
        rfl
    _ = ((sortDescending key (items.filter (group · = g))).zipIdx 1).map (fun e => some e.2) :=
        List.map_congr_left hpositions
    _ = (List.range' 1 (items.filter (group · = g)).length).map some := by
        rw [← hsorted.length_eq, ← List.zipIdx_map_snd 1, List.map_map]
        rfl

/-- What ranks under the ids of the items have to be. -/
structure Correct (group : τ → γ) (id : τ → ι) (key : τ → κ) (items : List τ)
    (rank : ι → Option Nat) : Prop where
  position : ∀ t ∈ items, rank (id t) = some (1 + largerCount group key items t)
  gapless : ∀ g, ((items.filter (group · = g)).map fun t => rank (id t)).Perm
    ((List.range' 1 (items.filter (group · = g)).length).map some)
  other : ∀ i, (∀ t ∈ items, id t ≠ i) → rank i = none

theorem ranks_correct (hids : (items.map id).Nodup) (hkeys : KeysDistinct group key items) :
    Correct group id key items (ranks group id key items).get? where
  position _ ht := get?_ranks hids hkeys ht
  gapless := map_get?_ranks_perm hids hkeys
  other _ h := get?_ranks_eq_none hkeys h

end Groups

end MediaMasterr.Foundations.Ranks
