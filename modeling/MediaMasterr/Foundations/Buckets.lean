import Mathlib.Data.List.Induction
import Mathlib.Data.List.Nodup
import Mathlib.Data.List.Perm.Basic
import Mathlib.Logic.Function.Basic

/-! # Buckets and tallies

Rows that loops put under fixed keys, and the counts of the labels that the rows
carry. Over all keys the buckets hold every row that was put in once, and a label
that no row carries twice is counted once for each row that has it. -/

namespace MediaMasterr.Foundations

variable {κ τ α : Type*} [DecidableEq κ]

/-- The rows under each key. -/
def Buckets (κ α : Type*) := κ → List α

namespace Buckets

def empty : Buckets κ α := fun _ => []

/-- `d[k].append(a)`. -/
def append (b : Buckets κ α) (k : κ) (a : α) : Buckets κ α := Function.update b k (b k ++ [a])

omit [DecidableEq κ] in
@[simp] theorem empty_apply (k : κ) : (empty : Buckets κ α) k = [] := rfl

@[simp] theorem append_self (b : Buckets κ α) (k : κ) (a : α) : b.append k a k = b k ++ [a] :=
  Function.update_self k _ b

theorem append_of_ne {k k' : κ} (h : k' ≠ k) (b : Buckets κ α) (a : α) :
    b.append k a k' = b k' := Function.update_of_ne h _ b

/-- A loop that puts every row under its key adds to each bucket the rows of its key, in order. -/
theorem foldl_append_apply (key : τ → κ) (value : τ → α) (ts : List τ) (b : Buckets κ α) (k : κ) :
    ts.foldl (fun (b : Buckets κ α) t => b.append (key t) (value t)) b k =
      b k ++ (ts.filter (key · = k)).map value := by
  induction ts generalizing b with
  | nil => simp
  | cons t ts ih =>
    rw [List.foldl_cons, ih]
    by_cases hkey : key t = k
    · subst hkey
      simp
    · simp [hkey, append_of_ne (Ne.symm hkey)]

/-- The rows of all keys are the rows, when every row has one of the keys. -/
theorem flatMap_filter_perm (key : α → κ) {keys : List κ} (hkeys : keys.Nodup) {as : List α}
    (h : ∀ a ∈ as, key a ∈ keys) : (keys.flatMap fun k => as.filter (key · = k)).Perm as := by
  induction keys generalizing as with
  | nil =>
    obtain rfl := List.eq_nil_iff_forall_not_mem.mpr fun a ha => List.not_mem_nil (h a ha)
    exact .refl _
  | cons k keys ih =>
    obtain ⟨hk, hkeys⟩ := List.nodup_cons.mp hkeys
    have hrest : ∀ a ∈ as.filter (fun a => !decide (key a = k)), key a ∈ keys := by
      intro a ha
      obtain ⟨hmem, hne⟩ := List.mem_filter.mp ha
      exact (List.mem_cons.mp (h a hmem)).resolve_left (by simpa using hne)
    have hsame : ∀ k' ∈ keys, (as.filter fun a => !decide (key a = k)).filter (key · = k') =
        as.filter (key · = k') := by
      intro k' hk'
      rw [List.filter_filter]
      refine List.filter_congr fun a _ => ?_
      by_cases hkey : key a = k'
      · have hne : key a ≠ k := fun heq => hk (heq ▸ hkey ▸ hk')
        simp [hkey, hkey ▸ hne]
      · simp [hkey]
    have htail := ih hkeys hrest
    rw [List.flatMap_congr hsame] at htail
    exact (htail.append_left _).trans (List.filter_append_perm _ as)

end Buckets

/-! ## Tallies -/

/-- `counts[k] += 1`. -/
def tally (counts : κ → Nat) (k : κ) : κ → Nat := Function.update counts k (counts k + 1)

theorem foldl_tally_apply (ks : List κ) (counts : κ → Nat) (k : κ) :
    ks.foldl tally counts k = counts k + ks.count k := by
  induction ks generalizing counts with
  | nil => rfl
  | cons k' ks ih =>
    rw [List.foldl_cons, ih]
    by_cases hkey : k' = k
    · subst hkey
      simp only [tally, Function.update_self, List.count_cons_self]
      omega
    · rw [tally, Function.update_of_ne (Ne.symm hkey), List.count_cons_of_ne hkey]

/-- Labels of which no row carries one twice. -/
theorem count_flatMap_labels (labels : α → List κ) {as : List α}
    (h : ∀ a ∈ as, (labels a).Nodup) (k : κ) :
    (as.flatMap labels).count k = as.countP (k ∈ labels ·) := by
  induction as with
  | nil => rfl
  | cons a as ih =>
    have hhead := h a List.mem_cons_self
    rw [List.flatMap_cons, List.count_append, ih fun a' ha' => h a' (List.mem_cons_of_mem _ ha'),
      List.countP_cons]
    by_cases hmem : k ∈ labels a
    · rw [List.count_eq_one_of_mem hhead hmem]
      simp [hmem, Nat.add_comm]
    · simp [hmem, List.count_eq_zero_of_not_mem hmem]

theorem countP_add_countP_not (p q : α → Bool) (as : List α) :
    as.countP p = (as.countP fun a => p a && q a) + as.countP fun a => p a && !q a := by
  induction as with
  | nil => rfl
  | cons a as ih =>
    simp only [List.countP_cons, ih]
    cases p a <;> cases q a <;> simp <;> omega

/-- Two tests count alike when as many rows pass only the one as only the other. -/
theorem countP_eq_countP_iff (p q : α → Bool) (as : List α) : as.countP p = as.countP q ↔
    (as.countP fun a => p a && !q a) = as.countP fun a => q a && !p a := by
  rw [countP_add_countP_not p q, countP_add_countP_not q p]
  simp only [Bool.and_comm (q _) (p _), Nat.add_left_cancel_iff]

/-! ## The only row with a key -/

/-- In a list without two rows of one key at most one row is found. -/
theorem filter_key_eq_toList (key : α → κ) {as : List α} (h : (as.map key).Nodup) (k : κ) :
    as.filter (key · = k) = (as.find? (key · = k)).toList := by
  induction as with
  | nil => rfl
  | cons a as ih =>
    obtain ⟨hnew, hrest⟩ := List.nodup_cons.mp h
    by_cases hkey : key a = k
    · have hnone : as.filter (key · = k) = [] := by
        refine List.filter_eq_nil_iff.mpr fun b hb heq => hnew ?_
        exact List.mem_map.mpr ⟨b, hb, (of_decide_eq_true heq).trans hkey.symm⟩
      simp [hkey, hnone]
    · simpa [hkey] using ih hrest

omit [DecidableEq κ] in
/-- In such a list a search by the key of a row finds the row. -/
theorem find?_eq_some_of_key {key : α → κ} {as : List α} (h : (as.map key).Nodup) {a : α}
    (ha : a ∈ as) {p : α → Bool} (hp : p a) (hkey : ∀ b, p b → key b = key a) :
    as.find? p = some a := by
  obtain ⟨found, hfound⟩ := Option.isSome_iff_exists.mp (List.find?_isSome.mpr ⟨a, ha, hp⟩)
  have heq := hkey found (List.find?_some hfound)
  rw [hfound, List.inj_on_of_nodup_map h (List.mem_of_find?_eq_some hfound) ha heq]

/-- The row is then the only one with its key. -/
theorem filter_key_eq_singleton {key : α → κ} {as : List α} (h : (as.map key).Nodup) {a : α}
    (ha : a ∈ as) : as.filter (key · = key a) = [a] := by
  have hfind : as.find? (key · = key a) = some a :=
    find?_eq_some_of_key h ha (decide_eq_true rfl) fun _ => of_decide_eq_true
  rw [filter_key_eq_toList key h, hfind, Option.toList_some]

/-! ## The first row of every key -/

/-- The loop that keeps a row when no kept one has its key. -/
def firstsBy (key : α → κ) (as : List α) : List α :=
  as.foldl (fun kept a => if key a ∈ kept.map key then kept else kept ++ [a]) []

theorem firstsBy_concat (key : α → κ) (as : List α) (a : α) :
    firstsBy key (as ++ [a]) =
      if key a ∈ (firstsBy key as).map key then firstsBy key as else firstsBy key as ++ [a] :=
  List.foldl_append

theorem mem_of_mem_firstsBy {key : α → κ} {as : List α} {a : α} (h : a ∈ firstsBy key as) :
    a ∈ as := by
  induction as using List.reverseRecOn with
  | nil => exact h
  | append_singleton as last ih =>
    rw [firstsBy_concat] at h
    split_ifs at h
    · exact List.mem_append_left _ (ih h)
    · exact List.mem_append.mpr ((List.mem_append.mp h).imp_left ih)

/-- Every key has a kept row. -/
theorem mem_map_firstsBy {key : α → κ} {as : List α} {a : α} (h : a ∈ as) :
    key a ∈ (firstsBy key as).map key := by
  induction as using List.reverseRecOn with
  | nil => cases h
  | append_singleton as last ih =>
    rw [firstsBy_concat]
    split_ifs with hkept
    · rcases List.mem_append.mp h with hmem | hlast
      · exact ih hmem
      · rwa [List.mem_singleton.mp hlast]
    · rw [List.map_append]
      rcases List.mem_append.mp h with hmem | hlast
      · exact List.mem_append_left _ (ih hmem)
      · rw [List.mem_singleton.mp hlast]
        exact List.mem_append_right _ List.mem_cons_self

/-- The first row is kept, as the first one. -/
theorem head?_firstsBy (key : α → κ) (as : List α) : (firstsBy key as).head? = as.head? := by
  induction as using List.reverseRecOn with
  | nil => rfl
  | append_singleton as last ih =>
    rw [firstsBy_concat]
    cases as with
    | nil => rfl
    | cons a as =>
      obtain ⟨rest, hrest⟩ := List.head?_eq_some_iff.mp ih
      rw [hrest]
      split_ifs <;> rfl

end MediaMasterr.Foundations
