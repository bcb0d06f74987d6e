import Mathlib.Data.List.Nodup
import Mathlib.Data.List.Perm.Basic

/-! # Forests

A forest that is unfolded from the children of its nodes. The rank of a node grows by one
from parent to child; with ranks below a bound the unfolding ends, and with one parent for
each node every node stands in the forest once. -/

namespace MediaMasterr.Foundations

inductive Tree (β : Type*) where
  | node (value : β) (children : List (Tree β))

namespace Tree

variable {α β : Type*}

def value : Tree β → β
  | node value _ => value

mutual

/-- The values of a tree, parents first. -/
def values : Tree β → List β
  | node value children => value :: valuesOf children

def valuesOf : List (Tree β) → List β
  | [] => []
  | tree :: trees => tree.values ++ valuesOf trees

end

/-- Every value stands in the relation to the values of its children. -/
inductive Everywhere (R : β → List β → Prop) : Tree β → Prop where
  | node {v : β} {children : List (Tree β)} (hvalue : R v (children.map value))
      (hchildren : ∀ child ∈ children, Everywhere R child) : Everywhere R (node v children)

theorem Everywhere.imp {R R' : β → List β → Prop} (h : ∀ v vs, R v vs → R' v vs) {tree : Tree β}
    (htree : tree.Everywhere R) : tree.Everywhere R' := by
  induction htree with
  | node hvalue _ ih => exact .node (h _ _ hvalue) ih

/-! ## Unfolding -/

section Unfold

variable (kids : α → List α) (label : α → β)

/-- The tree below a node, when the fuel is enough for its depth. -/
def unfold : Nat → α → Option (Tree β)
  | 0, _ => none
  | fuel + 1, a => do
    let children ← (kids a).mapM (unfold fuel)
    return node (label a) children

/-- The nodes that are reached with the fuel. -/
def reach : Nat → α → List α
  | 0, _ => []
  | fuel + 1, a => a :: (kids a).flatMap (reach fuel)

end Unfold

section Unfolding

variable {kids : α → List α} {label : α → β} {fuel fuel' : Nat} {a k x : α} {roots : List α}

theorem mapM_imp {f g : α → Option β} (h : ∀ a b, f a = some b → g a = some b) {as : List α}
    {bs : List β} (hf : as.mapM f = some bs) : as.mapM g = some bs := by
  induction as generalizing bs with
  | nil => exact hf
  | cons a as ih =>
    simp only [List.mapM_cons, Option.bind_eq_bind, Option.bind_eq_some_iff] at hf ⊢
    obtain ⟨b, hb, bs', hbs', hresult⟩ := hf
    exact ⟨b, h a b hb, bs', ih hbs', hresult⟩

/-- More fuel gives the same tree. -/
theorem unfold_mono (hle : fuel ≤ fuel') {tree : Tree β}
    (h : unfold kids label fuel a = some tree) : unfold kids label fuel' a = some tree := by
  induction fuel generalizing fuel' a tree with
  | zero => cases h
  | succ fuel ih =>
    cases fuel' with
    | zero => exact absurd hle (Nat.not_succ_le_zero _)
    | succ fuel' =>
      simp only [unfold, Option.bind_eq_bind, Option.bind_eq_some_iff] at h ⊢
      obtain ⟨children, hchildren, hresult⟩ := h
      have hmore (a : α) (tree : Tree β) : unfold kids label fuel a = some tree →
          unfold kids label fuel' a = some tree := ih (Nat.le_of_succ_le_succ hle)
      exact ⟨children, mapM_imp hmore hchildren, hresult⟩

/-- The children of every value are the labels of the children of its node. -/
def ByLabel (kids : α → List α) (label : α → β) (v : β) (vs : List β) : Prop :=
  ∃ a, v = label a ∧ vs = (kids a).map label

/-- What an unfolding with enough fuel has built. -/
structure Unfolds (kids : α → List α) (label : α → β) (fuel : Nat) (roots : List α)
    (trees : List (Tree β)) : Prop where
  values_roots : trees.map value = roots.map label
  values_all : valuesOf trees = (roots.flatMap (reach kids fuel)).map label
  everywhere : ∀ tree ∈ trees, tree.Everywhere (ByLabel kids label)

theorem unfolds_of_forall (h : ∀ a ∈ roots, ∃ tree, unfold kids label fuel a = some tree ∧
      Unfolds kids label fuel [a] [tree]) :
    ∃ trees, roots.mapM (unfold kids label fuel) = some trees ∧
      Unfolds kids label fuel roots trees := by
  induction roots with
  | nil => exact ⟨[], rfl, rfl, rfl, fun _ h => absurd h List.not_mem_nil⟩
  | cons a roots ih =>
    obtain ⟨htree, hroots⟩ := List.forall_mem_cons.mp h
    obtain ⟨tree, hunfold, hone⟩ := htree
    obtain ⟨trees, hmapM, hall⟩ := ih hroots
    refine ⟨tree :: trees, by simp [hunfold, hmapM], ?_, ?_, ?_⟩
    · have hvalue : tree.value = label a := by simpa using hone.values_roots
      rw [List.map_cons, List.map_cons, hvalue, hall.values_roots]
    · have hvalues : tree.values = (reach kids fuel a).map label := by
        simpa [valuesOf] using hone.values_all
      rw [valuesOf, hvalues, hall.values_all, List.flatMap_cons, List.map_append]
    · exact List.forall_mem_cons.mpr ⟨hone.everywhere tree List.mem_cons_self, hall.everywhere⟩

section Ranks

variable {rank : α → Nat} {bound r : Nat} (hrank : ∀ a, ∀ k ∈ kids a, rank k = rank a + 1)

include hrank

/-- Nodes of ranks below the bound, with fuel up to the bound. -/
theorem exists_unfold (hbound : ∀ a, ∀ k ∈ kids a, rank k < bound) (ha : rank a < bound)
    (hfuel : bound ≤ rank a + fuel) :
    ∃ tree, unfold kids label fuel a = some tree ∧ Unfolds kids label fuel [a] [tree] := by
  induction fuel generalizing a with
  | zero => omega
  | succ fuel ih =>
    obtain ⟨children, hchildren, hunfolds⟩ := unfolds_of_forall fun k hk =>
      ih (hbound a k hk) (by rw [hrank a k hk]; omega)
    refine ⟨node (label a) children, by simp [unfold, hchildren], rfl, ?_, ?_⟩
    · simp [valuesOf, values, hunfolds.values_all, reach]
    · rintro tree htree
      obtain rfl := List.mem_singleton.mp htree
      exact .node ⟨a, rfl, hunfolds.values_roots⟩ hunfolds.everywhere

theorem exists_mapM_unfold (hbound : ∀ a, ∀ k ∈ kids a, rank k < bound)
    (hroots : ∀ a ∈ roots, rank a < bound) (hfuel : bound ≤ fuel) :
    ∃ trees, roots.mapM (unfold kids label fuel) = some trees ∧
      Unfolds kids label fuel roots trees :=
  unfolds_of_forall fun a ha =>
    exists_unfold hrank hbound (hroots a ha) (Nat.le_trans hfuel (Nat.le_add_left _ _))

/-! ## What is reached -/

theorem rank_le_of_mem_reach (hx : x ∈ reach kids fuel a) : rank a ≤ rank x := by
  induction fuel generalizing a with
  | zero => cases hx
  | succ fuel ih =>
    rcases List.mem_cons.mp hx with rfl | hx
    · exact Nat.le_refl _
    · obtain ⟨k, hk, hx⟩ := List.mem_flatMap.mp hx
      have hle := ih hx
      rw [hrank a k hk] at hle
      omega

/-- A child of a node that is reached, while the fuel lasts. -/
theorem mem_reach_of_mem_kids (hx : x ∈ reach kids fuel a) (hk : k ∈ kids x)
    (hfuel : rank k < rank a + fuel) : k ∈ reach kids fuel a := by
  induction fuel generalizing a with
  | zero => cases hx
  | succ fuel ih =>
    refine List.mem_cons_of_mem _ ?_
    rcases List.mem_cons.mp hx with rfl | hx
    · cases fuel with
      | zero =>
        rw [hrank x k hk] at hfuel
        omega
      | succ fuel => exact List.mem_flatMap.mpr ⟨k, hk, List.mem_cons_self⟩
    · obtain ⟨b, hb, hx⟩ := List.mem_flatMap.mp hx
      exact List.mem_flatMap.mpr ⟨b, hb, ih hx (by rw [hrank a b hb]; omega)⟩

/-- With one parent for each node, nothing is reached twice from nodes of one rank. -/
theorem nodup_flatMap_reach (hkids : ∀ a, (kids a).Nodup)
    (hparent : ∀ a b k, k ∈ kids a → k ∈ kids b → a = b) (hroots : roots.Nodup)
    (hr : ∀ a ∈ roots, rank a = r) : (roots.flatMap (reach kids fuel)).Nodup := by
  induction fuel generalizing roots r with
  | zero =>
    have hnil : roots.flatMap (reach kids 0) = [] := List.flatMap_eq_nil_iff.mpr fun _ _ => rfl
    rw [hnil]
    exact List.nodup_nil
  | succ fuel ih =>
    have hnext : ∀ k ∈ roots.flatMap kids, rank k = r + 1 := by
      intro k hk
      obtain ⟨a, ha, hk⟩ := List.mem_flatMap.mp hk
      rw [hrank a k hk, hr a ha]
    have hnodup : (roots.flatMap kids).Nodup := by
      refine List.nodup_flatMap.mpr ⟨fun a _ => hkids a, hroots.imp fun {a b} hne => ?_⟩
      exact fun k ha hb => hne (hparent a b k ha hb)
    have hperm : (roots.flatMap (reach kids (fuel + 1))).Perm
        (roots ++ (roots.flatMap kids).flatMap (reach kids fuel)) := by
      have hlevel := List.map_append_flatMap_perm roots id fun a =>
        (kids a).flatMap (reach kids fuel)
      rw [List.map_id, ← List.flatMap_assoc] at hlevel
      exact hlevel.symm
    rw [hperm.nodup_iff, List.nodup_append']
    refine ⟨hroots, ih hnodup hnext, fun x hx hx' => ?_⟩
    obtain ⟨k, hk, hx'⟩ := List.mem_flatMap.mp hx'
    have hle := rank_le_of_mem_reach hrank hx'
    rw [hnext k hk, hr x hx] at hle
    omega

end Ranks

/-- The ranks of finitely many nodes have a bound. -/
theorem exists_rank_bound (rank : α → Nat) (as : List α) : ∃ bound, ∀ a ∈ as, rank a < bound := by
  induction as with
  | nil => exact ⟨0, fun _ h => absurd h List.not_mem_nil⟩
  | cons a as ih =>
    obtain ⟨bound, hbound⟩ := ih
    refine ⟨max (rank a + 1) bound, List.forall_mem_cons.mpr ⟨?_, fun b hb => ?_⟩⟩
    · exact Nat.lt_of_lt_of_le (Nat.lt_succ_self _) (Nat.le_max_left _ _)
    · exact Nat.lt_of_lt_of_le (hbound b hb) (Nat.le_max_right _ _)

/-- What holds of a node and goes from parents to children. -/
theorem reach_invariant {P : α → Prop} (hstep : ∀ a, P a → ∀ k ∈ kids a, P k) (ha : P a)
    (hx : x ∈ reach kids fuel a) : P x := by
  induction fuel generalizing a with
  | zero => cases hx
  | succ fuel ih =>
    rcases List.mem_cons.mp hx with rfl | hx
    · exact ha
    · obtain ⟨k, hk, hx⟩ := List.mem_flatMap.mp hx
      exact ih (hstep a ha k hk) hx

end Unfolding

end Tree

end MediaMasterr.Foundations
