import MediaMasterr.Foundations.Dict
import MediaMasterr.Foundations.Loops

/-! # Upserts

Batches of items that come into a dictionary of rows, each under a key: the item of a key that
is there is merged into the row, and the item of a new key makes a row at the end. What two
batches leave one after the other, and the two batches as one. -/

namespace MediaMasterr.Foundations.Dict

open Loops

variable {κ ρ ε ω : Type*}

/-- The row of a key after an item. -/
def upserted (merge : ρ → ε → ρ) (make : ε → ρ) (row : Option ρ) (item : ε) : ρ :=
  row.elim (make item) (merge · item)

theorem exists_item {k : κ} {items : List (κ × ε)} (h : k ∈ items.map Prod.fst) :
    ∃ e, (k, e) ∈ items := by
  obtain ⟨⟨_, e⟩, he, rfl⟩ := List.mem_map.mp h
  exact ⟨e, he⟩

theorem fst_mem {k : κ} {e : ε} {items : List (κ × ε)} (h : (k, e) ∈ items) :
    k ∈ items.map Prod.fst := List.mem_map.mpr ⟨_, h, rfl⟩

variable [DecidableEq κ]

def upsertAll (merge : ρ → ε → ρ) (make : ε → ρ) (d : Dict κ ρ) (items : List (κ × ε)) : Dict κ ρ :=
  items.foldl (fun d e => d.set e.1 (upserted merge make (d.get? e.1) e.2)) d

variable {merge : ρ → ε → ρ} {make : ε → ρ} {d : Dict κ ρ} {items : List (κ × ε)} {k : κ} {e : ε}

theorem upsertAll_concat (item : κ × ε) : upsertAll merge make d (items ++ [item]) =
    (upsertAll merge make d items).set item.1
      (upserted merge make ((upsertAll merge make d items).get? item.1) item.2) :=
  List.foldl_concat ..

theorem keys_upsertAll :
    (upsertAll merge make d items).keys = appendMissing d.keys (items.map Prod.fst) := by
  rw [appendMissing, List.foldl_map]
  exact (List.foldl_hom keys fun d e => keys_set.symm).symm

theorem get?_upsertAll_of_notMem (h : k ∉ items.map Prod.fst) :
    (upsertAll merge make d items).get? k = d.get? k := by
  induction items using List.reverseRecOn with
  | nil => rfl
  | append_singleton items e ih =>
    rw [List.map_append, List.mem_append, List.map_singleton, List.mem_singleton, not_or] at h
    rw [upsertAll_concat, get?_set, if_neg h.2]
    exact ih h.1

theorem get?_upsertAll_of_mem (hnodup : (items.map Prod.fst).Nodup) (h : (k, e) ∈ items) :
    (upsertAll merge make d items).get? k = some (upserted merge make (d.get? k) e) := by
  induction items generalizing d with
  | nil => exact absurd h List.not_mem_nil
  | cons first items ih =>
    obtain ⟨hnew, hnodup⟩ := List.nodup_cons.mp hnodup
    rcases List.mem_cons.mp h with rfl | h
    · exact (get?_upsertAll_of_notMem hnew).trans (by simp)
    · have hne : k ≠ first.1 := by
        rintro rfl
        exact hnew (fst_mem h)
      refine (ih hnodup h).trans ?_
      rw [get?_set, if_neg hne]

/-- Items of new keys come in one after the other. -/
theorem upsertAll_of_new (h : (d.keys ++ items.map Prod.fst).Nodup) :
    upsertAll merge make d items = items.foldl (fun d e => d.set e.1 (make e.2)) d := by
  induction items generalizing d with
  | nil => rfl
  | cons e items ih =>
    have hnew : e.1 ∉ d.keys := fun hmem => (List.nodup_append'.mp h).2.2 hmem (by simp)
    have hstep : upsertAll merge make d (e :: items) =
        upsertAll merge make (d.set e.1 (upserted merge make (d.get? e.1) e.2)) items := rfl
    rw [hstep, List.foldl_cons, get?_eq_none_iff.mpr hnew]
    refine ih ?_
    rw [keys_set, if_neg hnew, List.append_assoc]
    exact h

/-- The items of the keys that are there, and then the others. -/
theorem upsertAll_filter (hnodup : (items.map Prod.fst).Nodup) {old : κ → Bool}
    (hold : ∀ k ∈ items.map Prod.fst, old k = true ↔ k ∈ d.keys) :
    upsertAll merge make (upsertAll merge make d (items.filter (old ·.1)))
      (items.filter (!old ·.1)) = upsertAll merge make d items := by
  have hfst (p : κ → Bool) : (items.filter (p ·.1)).map Prod.fst = (items.map Prod.fst).filter p :=
    List.filter_map.symm
  have hnew : (items.map Prod.fst).filter (!old ·) = (items.map Prod.fst).filter (· ∉ d.keys) := by
    refine List.filter_congr fun k hk => ?_
    rw [Bool.eq_iff_iff, Bool.not_eq_true', ← Bool.not_eq_true, hold k hk, decide_eq_true_iff]
  have hkeys : appendMissing d.keys ((items.map Prod.fst).filter old) = d.keys := by
    refine appendMissing_of_subset fun k hk => ?_
    obtain ⟨hk, holdk⟩ := List.mem_filter.mp hk
    exact (hold k hk).mp holdk
  refine ext_get? ?_ fun k => ?_
  · rw [keys_upsertAll, keys_upsertAll, keys_upsertAll, hfst, hfst (!old ·), hkeys, hnew,
      appendMissing_filter (List.Subset.refl _)]
  · by_cases hk : k ∈ items.map Prod.fst
    · obtain ⟨e, he⟩ := exists_item hk
      rw [get?_upsertAll_of_mem hnodup he]
      cases hkey : old k with
      | true =>
        rw [get?_upsertAll_of_notMem (by rw [hfst (!old ·)]; simp [hkey])]
        exact get?_upsertAll_of_mem (by rw [hfst]; exact hnodup.filter _)
          (List.mem_filter.mpr ⟨he, hkey⟩)
      | false =>
        rw [get?_upsertAll_of_mem (by rw [hfst (!old ·)]; exact hnodup.filter _)
            (List.mem_filter.mpr ⟨he, by simpa using hkey⟩),
          get?_upsertAll_of_notMem (by rw [hfst]; simp [hkey])]
    · have hnot (p : κ → Bool) : k ∉ (items.filter (p ·.1)).map Prod.fst := by
        rw [hfst]
        exact fun hmem => hk (List.mem_of_mem_filter hmem)
      rw [get?_upsertAll_of_notMem hk, get?_upsertAll_of_notMem (hnot (!old ·)),
        get?_upsertAll_of_notMem (hnot old)]

/-- A batch that comes in again changes nothing, when no item changes what it has left. -/
theorem upsertAll_again (hnodup : (items.map Prod.fst).Nodup)
    (h : ∀ e row, merge (upserted merge make row e) e = upserted merge make row e) :
    upsertAll merge make (upsertAll merge make d items) items = upsertAll merge make d items := by
  refine ext_get? ?_ fun k => ?_
  · rw [keys_upsertAll, keys_upsertAll]
    exact appendMissing_of_subset fun y hy => mem_appendMissing.mpr (.inr hy)
  · by_cases hk : k ∈ items.map Prod.fst
    · obtain ⟨e, he⟩ := exists_item hk
      rw [get?_upsertAll_of_mem hnodup he, get?_upsertAll_of_mem hnodup he]
      exact congrArg some (h e _)
    · rw [get?_upsertAll_of_notMem hk]

/-! ## Two batches -/

/-- A batch that is two batches in one: the item of a key is the one of the later batch. -/
structure Merges (first second both : List (κ × ε)) : Prop where
  nodup_first : (first.map Prod.fst).Nodup
  nodup_second : (second.map Prod.fst).Nodup
  nodup_both : (both.map Prod.fst).Nodup
  keys : ∀ xs, appendMissing xs (both.map Prod.fst) =
    appendMissing (appendMissing xs (first.map Prod.fst)) (second.map Prod.fst)
  mem_iff : ∀ k e, (k, e) ∈ both ↔
    (k, e) ∈ second ∨ k ∉ second.map Prod.fst ∧ (k, e) ∈ first

section Merges

variable {first second both : List (κ × ε)}

theorem keys_upsertAll_upsertAll (hboth : Merges first second both) :
    (upsertAll merge make (upsertAll merge make d first) second).keys =
      (upsertAll merge make d both).keys := by
  rw [keys_upsertAll, keys_upsertAll, keys_upsertAll, hboth.keys]

/-- Two batches leave the same under a key, one after the other or as one, exactly when the later
item of the key hides what the earlier one has left. -/
theorem mapValues_upsertAll_eq_iff (hboth : Merges first second both) (f : ρ → ω) :
    (upsertAll merge make (upsertAll merge make d first) second).mapValues (fun _ => f) =
        (upsertAll merge make d both).mapValues (fun _ => f) ↔
      ∀ k e e', (k, e) ∈ first → (k, e') ∈ second →
        f (merge (upserted merge make (d.get? k) e) e') =
          f (upserted merge make (d.get? k) e') := by
  constructor
  · intro heq k e e' he he'
    have hget := congrArg (get? · k) heq
    simp only [get?_mapValues] at hget
    rw [get?_upsertAll_of_mem hboth.nodup_second he', get?_upsertAll_of_mem hboth.nodup_first he,
      get?_upsertAll_of_mem hboth.nodup_both ((hboth.mem_iff k e').mpr (.inl he'))] at hget
    exact Option.some.inj hget
  · intro h
    refine ext_get? (by simpa using keys_upsertAll_upsertAll hboth) fun k => ?_
    simp only [get?_mapValues]
    by_cases hsecond : k ∈ second.map Prod.fst
    · obtain ⟨e', he'⟩ := exists_item hsecond
      rw [get?_upsertAll_of_mem hboth.nodup_second he',
        get?_upsertAll_of_mem hboth.nodup_both ((hboth.mem_iff _ e').mpr (.inl he'))]
      by_cases hfirst : k ∈ first.map Prod.fst
      · obtain ⟨e, he⟩ := exists_item hfirst
        rw [get?_upsertAll_of_mem hboth.nodup_first he]
        exact congrArg some (h _ e e' he he')
      · rw [get?_upsertAll_of_notMem hfirst]
    · rw [get?_upsertAll_of_notMem hsecond]
      by_cases hfirst : k ∈ first.map Prod.fst
      · obtain ⟨e, he⟩ := exists_item hfirst
        rw [get?_upsertAll_of_mem hboth.nodup_first he,
          get?_upsertAll_of_mem hboth.nodup_both ((hboth.mem_iff _ e).mpr (.inr ⟨hsecond, he⟩))]
      · have hnew : k ∉ both.map Prod.fst := by
          intro hmem
          obtain ⟨e, he⟩ := exists_item hmem
          rcases (hboth.mem_iff k e).mp he with he' | ⟨-, he'⟩
          · exact hsecond (fst_mem he')
          · exact hfirst (fst_mem he')
        rw [get?_upsertAll_of_notMem hfirst, get?_upsertAll_of_notMem hnew]

theorem upsertAll_eq_iff (hboth : Merges first second both) :
    upsertAll merge make (upsertAll merge make d first) second = upsertAll merge make d both ↔
      ∀ k e e', (k, e) ∈ first → (k, e') ∈ second →
        merge (upserted merge make (d.get? k) e) e' = upserted merge make (d.get? k) e' := by
  have hid (d : Dict κ ρ) : d.mapValues (fun _ row => row) = d := ext_entries (List.map_id' _)
  rw [← mapValues_upsertAll_eq_iff hboth fun row => row, hid, hid]

end Merges

end MediaMasterr.Foundations.Dict
