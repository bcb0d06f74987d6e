import Mathlib.Data.List.Nodup

/-! # Joins on a key

`a JOIN b ON key(a) = key(b)`. Where the right side has every key once, a row of
the left side is found at most once. -/

namespace MediaMasterr.Foundations

variable {α β κ : Type*} [DecidableEq κ]

def joinOn (keyA : α → κ) (keyB : β → κ) (as : List α) (bs : List β) : List (α × β) :=
  as.flatMap fun a => (bs.filter (keyB · = keyA a)).map (a, ·)

variable {keyA : α → κ} {keyB : β → κ} {as : List α} {bs : List β} {a : α} {b : β}

@[simp] theorem mem_joinOn :
    (a, b) ∈ joinOn keyA keyB as bs ↔ a ∈ as ∧ b ∈ bs ∧ keyB b = keyA a := by
  simp [joinOn]

/-- At most one row has a unique key. -/
theorem filter_key_eq (hkeys : (bs.map keyB).Nodup) (k : κ) :
    bs.filter (keyB · = k) = [] ∨ ∃ b, bs.filter (keyB · = k) = [b] := by
  induction bs with
  | nil => exact .inl rfl
  | cons b bs ih =>
    obtain ⟨hnew, htail⟩ := List.nodup_cons.mp hkeys
    by_cases hb : keyB b = k
    · have hnone : bs.filter (keyB · = k) = [] := by
        rw [List.filter_eq_nil_iff]
        intro c hc heq
        exact hnew (List.mem_map.mpr ⟨c, hc, (of_decide_eq_true heq).trans hb.symm⟩)
      exact .inr ⟨b, by rw [List.filter_cons_of_pos (by simpa using hb), hnone]⟩
    · rw [List.filter_cons_of_neg (by simpa using hb)]
      exact ih htail

theorem map_fst_joinOn_sublist (hkeys : (bs.map keyB).Nodup) (as : List α) :
    ((joinOn keyA keyB as bs).map Prod.fst).Sublist as := by
  induction as with
  | nil => exact List.Sublist.slnil
  | cons a as ih =>
    rw [joinOn, List.flatMap_cons, List.map_append]
    rcases filter_key_eq hkeys (keyA a) with hnone | ⟨b, hone⟩
    · rw [hnone]
      exact ih.cons a
    · rw [hone]
      exact ih.cons_cons a

/-- What rows are turned into has distinct keys when each is known by the key of its row. -/
theorem nodup_map_filterMap {γ ι : Type*} {key : γ → Option ι} {rowKey : α → ι}
    {f : α → Option γ} (hrows : (as.map rowKey).Nodup)
    (hkey : ∀ a c, f a = some c → key c = some (rowKey a)) :
    ((as.filterMap f).map key).Nodup := by
  refine List.pairwise_map.mpr (List.pairwise_filterMap.mpr ?_)
  refine (List.pairwise_map.mp hrows).imp fun {a a'} hne c hc c' hc' heq => hne ?_
  exact Option.some.inj ((hkey a c hc).symm.trans (heq.trans (hkey a' c' hc')))

omit [DecidableEq κ] in
/-- What is made of the rows below each parent has distinct keys, when it has below one parent and
no row is below two. -/
theorem nodup_map_flatMap {β γ ι : Type*} {key : γ → Option ι} (parentKey : α → κ)
    (owns : α → β → Prop) {rows : List β} {rowKey : β → ι} {f : α → List γ}
    (hparents : (as.map parentKey).Nodup) (hrows : (rows.map rowKey).Nodup)
    (howner : ∀ a ∈ as, ∀ a' ∈ as, ∀ b ∈ rows, owns a b → owns a' b → parentKey a = parentKey a')
    (hpart : ∀ a ∈ as, ((f a).map key).Nodup)
    (hbelow : ∀ a ∈ as, ∀ c ∈ f a, ∃ b ∈ rows, owns a b ∧ key c = some (rowKey b)) :
    ((as.flatMap f).map key).Nodup := by
  refine List.pairwise_map.mpr (List.pairwise_flatMap.mpr ⟨fun a ha => ?_, ?_⟩)
  · exact List.pairwise_map.mp (hpart a ha)
  · refine (List.pairwise_map.mp hparents).imp_of_mem fun {a a'} ha ha' hne c hc c' hc' heq => ?_
    obtain ⟨b, hb, howns, hid⟩ := hbelow a ha c hc
    obtain ⟨b', hb', howns', hid'⟩ := hbelow a' ha' c' hc'
    have hsame : rowKey b = rowKey b' := Option.some.inj (hid.symm.trans (heq.trans hid'))
    obtain rfl := List.inj_on_of_nodup_map hrows hb hb' hsame
    exact hne (howner a ha a' ha' b hb howns howns')

/-- Two lists of different keys have the same number of keys in common, seen from either side. -/
theorem countP_mem_comm {ks ks' : List κ} (hks : ks.Nodup) (hks' : ks'.Nodup) :
    ks.countP (· ∈ ks') = ks'.countP (· ∈ ks) := by
  rw [List.countP_eq_length_filter, List.countP_eq_length_filter]
  refine List.Perm.length_eq ((List.perm_ext_iff_of_nodup (hks.filter _) (hks'.filter _)).mpr ?_)
  intro k
  simp [and_comm]

/-- The difference of the lengths of two lists of different keys is the number of keys that are in
the first only, when one of the lists has all keys of the other. -/
theorem length_sub_length_eq_iff {ks ks' : List κ} (hks : ks.Nodup) (hks' : ks'.Nodup)
    (only : κ → Bool) (honly : ∀ k ∈ ks, only k = true ↔ k ∉ ks') :
    ks.length - ks'.length = ks.countP only ↔ (∀ k ∈ ks', k ∈ ks) ∨ ∀ k ∈ ks, k ∈ ks' := by
  have hcommon := countP_mem_comm hks hks'
  have hlength := List.length_eq_countP_add_countP (· ∈ ks') (l := ks)
  have hlength' := List.length_eq_countP_add_countP (· ∈ ks) (l := ks')
  have hsub : (∀ k ∈ ks', k ∈ ks) ↔ ks'.countP (fun k => ¬decide (k ∈ ks) = true) = 0 := by
    simp [List.countP_eq_zero]
  have hsub' : (∀ k ∈ ks, k ∈ ks') ↔ ks.countP (fun k => ¬decide (k ∈ ks') = true) = 0 := by
    simp [List.countP_eq_zero]
  have hcount : ks.countP only = ks.countP (fun k => ¬decide (k ∈ ks') = true) :=
    List.countP_congr fun k hk => by simp [honly k hk]
  rw [hsub, hsub', hcount]
  omega

end MediaMasterr.Foundations
