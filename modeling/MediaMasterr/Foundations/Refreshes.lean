import Mathlib.Data.List.Basic

/-! # Refreshes

Sources that are refreshed in turn, each with a commit of its own. A refresh that
raises loses what it had changed and ends the run; the refreshes before it stand.
When a refresh touches its own source's part of the state alone, the part of a source
after a run is what it would be after a refresh of its own, or what it was, when an
earlier source raised. -/

namespace MediaMasterr.Foundations.Refreshes

variable {κ σ π : Type*}

/-- The state that is committed in the end, and whether every source had its turn. -/
def refreshAll (refresh : κ → σ → Option σ) : List κ → σ → σ × Bool
  | [], s => (s, true)
  | k :: ks, s =>
    match refresh k s with
    | none => (s, false)
    | some s' => refreshAll refresh ks s'

/-- What no refresh of the run changes. -/
theorem refreshAll_keeps {τ : Type*} {refresh : κ → σ → Option σ} {f : σ → τ} {ks : List κ} {s : σ}
    (h : ∀ k ∈ ks, ∀ s s', refresh k s = some s' → f s' = f s) :
    f (refreshAll refresh ks s).1 = f s := by
  induction ks generalizing s with
  | nil => rfl
  | cons k ks ih =>
    obtain ⟨hfirst, hrest⟩ := List.forall_mem_cons.mp h
    rw [refreshAll]
    cases hs' : refresh k s with
    | none => rfl
    | some s' => exact (ih hrest).trans (hfirst s s' hs')

section Parts

/-- A refresh of `k` leaves the part of `k'` as it is. -/
def Foreign (refresh : κ → σ → Option σ) (part : κ → σ → π) (k k' : κ) : Prop :=
  ∀ s s', refresh k s = some s' → part k' s' = part k' s

variable {refresh : κ → σ → Option σ} {part : κ → σ → π} {renew : κ → π → Option π}
  {pre post : List κ} {k : κ} {s : σ}

/-- A source's part in the end, when a refresh makes of its own part what `renew` says: the
sources before it must not have raised. -/
theorem part_refreshAll (hown : ∀ k s, (refresh k s).map (part k) = renew k (part k s))
    (hforeign : (pre ++ k :: post).Pairwise fun k₁ k₂ =>
      Foreign refresh part k₁ k₂ ∧ Foreign refresh part k₂ k₁) :
    part k (refreshAll refresh (pre ++ k :: post) s).1 =
      if ∀ k' ∈ pre, (renew k' (part k' s)).isSome then (renew k (part k s)).getD (part k s)
      else part k s := by
  induction pre generalizing s with
  | nil =>
    have hpost : ∀ k' ∈ post, Foreign refresh part k' k := fun k' hk' =>
      (List.rel_of_pairwise_cons hforeign hk').2
    rw [if_pos (by simp), ← hown k s]
    change part k (refreshAll refresh (k :: post) s).1 = _
    rw [refreshAll]
    cases hs' : refresh k s with
    | none => rfl
    | some s' => exact refreshAll_keeps hpost
  | cons k₁ pre ih =>
    obtain ⟨hfirst, hrest⟩ := List.pairwise_cons.mp hforeign
    have hk₁ := hown k₁ s
    change part k (refreshAll refresh (k₁ :: (pre ++ k :: post)) s).1 = _
    rw [refreshAll]
    cases hs' : refresh k₁ s with
    | none =>
      rw [hs'] at hk₁
      have hraised : ¬(renew k₁ (part k₁ s)).isSome := by rw [← hk₁]; simp
      exact (if_neg fun h => hraised (h k₁ List.mem_cons_self)).symm
    | some s' =>
      rw [hs'] at hk₁
      have hpart : ∀ k' ∈ pre ++ k :: post, part k' s' = part k' s := fun k' hk' =>
        (hfirst k' hk').1 s s' hs'
      have hsame : (∀ k' ∈ pre, (renew k' (part k' s')).isSome) ↔
          ∀ k' ∈ k₁ :: pre, (renew k' (part k' s)).isSome := by
        rw [List.forall_mem_cons, ← hk₁]
        simp only [Option.map_some, Option.isSome_some, true_and]
        exact forall₂_congr fun k' hk' => by rw [hpart k' (List.mem_append_left _ hk')]
      refine (ih hrest).trans ?_
      simp only [hsame, hpart k (by simp)]

end Parts

end MediaMasterr.Foundations.Refreshes
