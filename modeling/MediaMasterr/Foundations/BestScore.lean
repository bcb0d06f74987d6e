import Mathlib.Data.List.Induction
import Mathlib.Order.Lattice

/-! # Best-score search

The loop that keeps an item when its score is above the best one so far, and the
test of the best score against a threshold. -/

namespace MediaMasterr.Foundations

section BestScore

variable {α β : Type*} [LinearOrder β] (score : α → β)

/-- One round of the search: the item and the best score so far. -/
def bestStep (best : Option α × β) (item : α) : Option α × β :=
  if best.2 < score item then (some item, score item) else best

def bestFrom (start : β) (items : List α) : Option α × β :=
  items.foldl (bestStep score) (none, start)

/-- The best item, when its score reaches the threshold. -/
def bestAtLeast (start threshold : β) (items : List α) : Option α :=
  let best := bestFrom score start items
  if threshold ≤ best.2 then best.1 else none

variable {score} {start threshold : β} {items : List α}

theorem bestFrom_concat {item : α} :
    bestFrom score start (items ++ [item]) = bestStep score (bestFrom score start items) item :=
  List.foldl_append

/-- The best score is that of the kept item, or the one that the search began with. -/
theorem bestFrom_attained (score : α → β) (start : β) (items : List α) :
    bestFrom score start items = (none, start) ∨
      ∃ item ∈ items, bestFrom score start items = (some item, score item) := by
  induction items using List.reverseRecOn with
  | nil => exact Or.inl rfl
  | append_singleton items item ih =>
    rw [bestFrom_concat, bestStep]
    split_ifs with hbetter
    · exact Or.inr ⟨item, by simp, rfl⟩
    · rcases ih with hnone | ⟨kept, hkept, heq⟩
      · exact Or.inl hnone
      · exact Or.inr ⟨kept, by simp [hkept], heq⟩

/-- An item is kept for a score above the start. -/
theorem start_lt_of_bestFrom {item : α} (h : (bestFrom score start items).1 = some item) :
    start < score item := by
  have hle (items : List α) : start ≤ (bestFrom score start items).2 := by
    induction items using List.reverseRecOn with
    | nil => exact le_rfl
    | append_singleton items item ih =>
      rw [bestFrom_concat, bestStep]
      split_ifs with hbetter
      · exact ih.trans hbetter.le
      · exact ih
  induction items using List.reverseRecOn with
  | nil => cases h
  | append_singleton items last ih =>
    rw [bestFrom_concat, bestStep] at h
    split_ifs at h with hbetter
    · obtain rfl := Option.some.inj h
      exact (hle items).trans_lt hbetter
    · exact ih h

/-- No item scores above the best score. -/
theorem score_le_bestFrom (score : α → β) (start : β) (items : List α) :
    ∀ item ∈ items, score item ≤ (bestFrom score start items).2 := by
  induction items using List.reverseRecOn with
  | nil => simp
  | append_singleton items last ih =>
    intro item hitem
    rw [bestFrom_concat, bestStep]
    split_ifs with hbetter
    · rcases List.mem_append.mp hitem with hold | hlast
      · exact (ih item hold).trans hbetter.le
      · rw [List.mem_singleton.mp hlast]
    · rcases List.mem_append.mp hitem with hold | hlast
      · exact ih item hold
      · rw [List.mem_singleton.mp hlast]
        exact not_lt.mp hbetter

/-- With a threshold above the start, the search finds nothing exactly when no item reaches the
threshold. -/
theorem bestAtLeast_eq_none_iff (hstart : start < threshold) :
    bestAtLeast score start threshold items = none ↔ ∀ item ∈ items, score item < threshold := by
  unfold bestAtLeast
  rcases bestFrom_attained score start items with hnone | ⟨kept, hkept, heq⟩
  · constructor
    · intro _ item hitem
      have hle := score_le_bestFrom score start items item hitem
      rw [hnone] at hle
      exact hle.trans_lt hstart
    · intro _
      rw [hnone]
      simp
  · rw [heq]
    dsimp only
    constructor
    · intro h item hitem
      have hle := score_le_bestFrom score start items item hitem
      rw [heq] at hle
      split_ifs at h with hreached
      exact hle.trans_lt (not_le.mp hreached)
    · intro h
      rw [if_neg (not_le.mpr (h kept hkept))]

/-! ## Searches over images -/

variable {γ : Type*}

theorem bestFrom_map (f : γ → α) (items : List γ) :
    bestFrom score start (items.map f) =
      ((bestFrom (score ∘ f) start items).1.map f, (bestFrom (score ∘ f) start items).2) := by
  induction items using List.reverseRecOn with
  | nil => rfl
  | append_singleton items item ih =>
    rw [List.map_append, List.map_singleton, bestFrom_concat, bestFrom_concat, ih]
    unfold bestStep
    dsimp only [Function.comp]
    split_ifs <;> rfl

theorem bestAtLeast_map (f : γ → α) (items : List γ) :
    bestAtLeast score start threshold (items.map f) =
      (bestAtLeast (score ∘ f) start threshold items).map f := by
  unfold bestAtLeast
  rw [bestFrom_map]
  dsimp only
  split_ifs <;> rfl

end BestScore

/-! ## The best item and the others -/

section Contest

variable {α β : Type*} [LinearOrder β] (score : α → β)

/-- One round of a contest: the new item beats the best one so far or joins the others. -/
def contest (s : Option α × List α) (item : α) : Option α × List α :=
  match s.1 with
  | none => (some item, s.2)
  | some best =>
    if score best < score item then (some item, s.2 ++ [best]) else (some best, s.2 ++ [item])

/-- The item is the first one with the best score, among the others. -/
structure FirstBest (items : List α) (best : α) (others : List α) : Prop where
  exists_split : ∃ before after, items = before ++ best :: after ∧
    (∀ item ∈ before, score item < score best) ∧ (∀ item ∈ after, score item ≤ score best)
  perm : items.Perm (best :: others)

variable {score} {items others : List α} {best item : α}

theorem FirstBest.le (h : FirstBest score items best others) (hitem : item ∈ items) :
    score item ≤ score best := by
  obtain ⟨before, after, rfl, hbefore, hafter⟩ := h.exists_split
  rcases List.mem_append.mp hitem with hmem | hmem
  · exact (hbefore item hmem).le
  · rcases List.mem_cons.mp hmem with rfl | hmem
    · exact le_rfl
    · exact hafter item hmem

theorem FirstBest.concat_of_lt (h : FirstBest score items best others)
    (hlt : score best < score item) :
    FirstBest score (items ++ [item]) item (others ++ [best]) where
  exists_split := ⟨items, [], rfl, fun _ hmem => (h.le hmem).trans_lt hlt, by simp⟩
  perm := by
    refine (List.perm_append_singleton item items).trans (.cons item ?_)
    exact h.perm.trans (List.perm_append_singleton best others).symm

theorem FirstBest.concat_of_le (h : FirstBest score items best others)
    (hle : score item ≤ score best) :
    FirstBest score (items ++ [item]) best (others ++ [item]) where
  exists_split := by
    obtain ⟨before, after, rfl, hbefore, hafter⟩ := h.exists_split
    refine ⟨before, after ++ [item], by simp, hbefore, fun other hother => ?_⟩
    rcases List.mem_append.mp hother with hmem | hmem
    · exact hafter other hmem
    · rwa [List.mem_singleton.mp hmem]
  perm := h.perm.append_right [item]

variable (score) in
/-- A contest ends with the first of the best items and all the others. -/
theorem foldl_contest (items : List α) :
    items.foldl (contest score) (none, []) = (none, []) ∧ items = [] ∨
      ∃ best others, items.foldl (contest score) (none, []) = (some best, others) ∧
        FirstBest score items best others := by
  induction items using List.reverseRecOn with
  | nil => exact .inl ⟨rfl, rfl⟩
  | append_singleton items item ih =>
    right
    rw [List.foldl_append, List.foldl_cons, List.foldl_nil]
    rcases ih with ⟨hnone, rfl⟩ | ⟨best, others, hsome, hbest⟩
    · exact ⟨item, [], rfl, ⟨[], [], rfl, by simp, by simp⟩, .refl _⟩
    · rw [hsome, contest]
      dsimp only
      split_ifs with hlt
      · exact ⟨item, _, rfl, hbest.concat_of_lt hlt⟩
      · exact ⟨best, _, rfl, hbest.concat_of_le (not_lt.mp hlt)⟩

end Contest

/-! ## The best item that reaches a threshold -/

section Threshold

variable {α β : Type*} [LinearOrder β] (score : α → β) (threshold : β)

/-- One round: an item below the threshold is skipped, another one is kept when it is the first one
or better than the best one so far. -/
def keepBetter (best : Option α) (item : α) : Option α :=
  if score item < threshold then best
  else if best.all (score · < score item) then some item else best

/-- The best item, or none when no item reaches the threshold. -/
def IsBest (items : List α) : Option α → Prop
  | none => ∀ item ∈ items, score item < threshold
  | some best => best ∈ items ∧ threshold ≤ score best ∧ ∀ item ∈ items, score item ≤ score best

variable {score threshold} {items items' : List α} {best : Option α}

theorem isBest_foldl_keepBetter (items : List α) :
    IsBest score threshold items (items.foldl (keepBetter score threshold) none) := by
  induction items using List.reverseRecOn with
  | nil => exact fun _ hitem => absurd hitem List.not_mem_nil
  | append_singleton items item ih =>
    rw [List.foldl_append, List.foldl_cons, List.foldl_nil, keepBetter]
    generalize items.foldl (keepBetter score threshold) none = best at ih
    cases best with
    | none =>
      split_ifs with hbelow hfirst
      · exact List.forall_mem_append.mpr ⟨ih, by simpa using hbelow⟩
      · refine ⟨by simp, not_lt.mp hbelow, List.forall_mem_append.mpr ⟨fun other hother => ?_, ?_⟩⟩
        · exact (ih other hother).le.trans (not_lt.mp hbelow)
        · simp
      · exact absurd rfl hfirst
    | some best =>
      obtain ⟨hmem, hreached, hmax⟩ := ih
      split_ifs with hbelow hbetter
      · refine ⟨List.mem_append_left _ hmem, hreached, List.forall_mem_append.mpr ⟨hmax, ?_⟩⟩
        simpa using hbelow.le.trans hreached
      · have hlt : score best < score item := by simpa using hbetter
        refine ⟨by simp, not_lt.mp hbelow, List.forall_mem_append.mpr ⟨fun other hother => ?_, ?_⟩⟩
        · exact (hmax other hother).trans hlt.le
        · simp
      · refine ⟨List.mem_append_left _ hmem, hreached, List.forall_mem_append.mpr ⟨hmax, ?_⟩⟩
        simpa using hbetter

/-- The best of some of the items is the best of all when none of the others is better. -/
theorem isBest_iff_of_subset (hbest : IsBest score threshold items best) (hsub : items ⊆ items') :
    IsBest score threshold items' best ↔ ∀ item ∈ items', item ∉ items → threshold ≤ score item →
      ∃ found ∈ items, score item ≤ score found := by
  cases best with
  | none =>
    constructor
    · intro h item hitem _ hreached
      exact absurd hreached (not_le.mpr (h item hitem))
    · intro h item hitem
      by_contra hreached
      by_cases hold : item ∈ items
      · exact hreached (hbest item hold)
      · obtain ⟨found, hfound, hle⟩ := h item hitem hold (not_lt.mp hreached)
        exact absurd (hbest found hfound) (not_lt.mpr ((not_lt.mp hreached).trans hle))
  | some best =>
    obtain ⟨hmem, hreached, hmax⟩ := hbest
    constructor
    · rintro ⟨-, -, h⟩ item hitem - -
      exact ⟨best, hmem, h item hitem⟩
    · intro h
      refine ⟨hsub hmem, hreached, fun item hitem => ?_⟩
      by_cases hold : item ∈ items
      · exact hmax item hold
      · rcases lt_or_ge (score item) threshold with hlt | hge
        · exact hlt.le.trans hreached
        · obtain ⟨found, hfound, hle⟩ := h item hitem hold hge
          exact hle.trans (hmax found hfound)

end Threshold

end MediaMasterr.Foundations
