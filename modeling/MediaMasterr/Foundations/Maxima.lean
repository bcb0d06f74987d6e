import Mathlib.Order.Bounds.Basic
import Mathlib.Order.MinMax
import MediaMasterr.Foundations.Dict

/-! # Latest values

The largest value seen so far, and dictionaries that keep the largest value of
every key. -/

namespace MediaMasterr.Foundations

variable {α κ : Type*} [LinearOrder α]

/-- The value is the largest of a set; there is none exactly when the set is empty. -/
def IsMaxOf (s : Set α) : Option α → Prop
  | none => s = ∅
  | some a => IsGreatest s a

section Max

variable {s t : Set α} {o : Option α} {l : List α} {a : α}

/-- `max(l, default=None)`. -/
theorem max?_eq_some_iff_isGreatest : l.max? = some a ↔ IsGreatest {x | x ∈ l} a := by
  rw [List.max?_eq_some_iff]
  exact Iff.rfl

theorem isMaxOf_max? (l : List α) : IsMaxOf {x | x ∈ l} l.max? := by
  cases hmax : l.max? with
  | none =>
    rw [List.max?_eq_none_iff.mp hmax]
    exact Set.eq_empty_iff_forall_notMem.mpr fun _ => List.not_mem_nil
  | some a => exact max?_eq_some_iff_isGreatest.mp hmax

theorem IsMaxOf.congr (h : IsMaxOf s o) (hst : ∀ x, x ∈ s ↔ x ∈ t) : IsMaxOf t o := by
  rwa [← Set.ext hst]

theorem IsMaxOf.eq_none_iff (h : IsMaxOf s o) : o = none ↔ s = ∅ := by
  cases o with
  | none => exact iff_of_true rfl h
  | some a => exact iff_of_false (Option.some_ne_none a) (Set.nonempty_of_mem h.1).ne_empty

theorem IsMaxOf.unique {o' : Option α} (h : IsMaxOf s o) (h' : IsMaxOf s o') : o = o' := by
  cases o with
  | none => exact (h'.eq_none_iff.mpr h).symm
  | some a =>
    cases o' with
    | none => exact h.eq_none_iff.mpr h'
    | some b => exact congrArg some (IsGreatest.unique h h')

/-- `current = new if current is None or new > current`. -/
def raise (current : Option α) (new : α) : Option α :=
  if current.all (· < new) then some new else current

theorem IsMaxOf.raise (h : IsMaxOf s o) (a : α) : IsMaxOf (insert a s) (raise o a) := by
  cases o with
  | none =>
    obtain rfl : s = ∅ := h
    simp [Foundations.raise, IsMaxOf]
  | some b =>
    by_cases hlt : b < a
    · rw [Foundations.raise, if_pos (by simpa using hlt)]
      refine ⟨Set.mem_insert a s, ?_⟩
      rintro x (rfl | hx)
      · exact le_rfl
      · exact (h.2 hx).trans hlt.le
    · rw [Foundations.raise, if_neg (by simpa using hlt)]
      refine ⟨Set.mem_insert_of_mem a h.1, ?_⟩
      rintro x (rfl | hx)
      · exact not_lt.mp hlt
      · exact h.2 hx

theorem raise_raise (o : Option α) (a : α) :
    Foundations.raise (Foundations.raise o a) a = Foundations.raise o a := by
  unfold Foundations.raise
  split_ifs with h h'
  · rfl
  · rfl
  · rfl

theorem isMaxOf_self (o : Option α) : IsMaxOf {x | o = some x} o := by
  cases o with
  | none => exact Set.eq_empty_iff_forall_notMem.mpr fun _ h => by cases h
  | some a => exact ⟨rfl, fun x hx => (Option.some.inj hx).ge⟩

/-- `max` of the values that are there, `None` when there is none. -/
def maxOfPresent (o o' : Option α) : Option α := ([o, o'].filterMap id).max?

theorem IsMaxOf.union {o' : Option α} (h : IsMaxOf s o) (h' : IsMaxOf t o') :
    IsMaxOf (s ∪ t) (maxOfPresent o o') := by
  cases o with
  | none =>
    obtain rfl : s = ∅ := h
    rw [Set.empty_union]
    cases o' <;> exact h'
  | some a =>
    cases o' with
    | none =>
      obtain rfl : t = ∅ := h'
      rwa [Set.union_empty]
    | some b => exact IsGreatest.union h h'

end Max

/-! ## Dictionaries of latest values -/

namespace Dict

variable [DecidableEq κ] {k : κ}

/-- `d[k] = v`, unless the value of the key is as large already. -/
def raiseAt (d : Dict κ α) (k : κ) (v : α) : Dict κ α :=
  if (d.get? k).all (· < v) then d.set k v else d

theorem get?_raiseAt (d : Dict κ α) (k k' : κ) (v : α) :
    (d.raiseAt k v).get? k' = if k' = k then raise (d.get? k) v else d.get? k' := by
  rw [raiseAt, raise]
  split_ifs with hlt hkey hkey
  · rw [get?_set, if_pos hkey]
  · rw [get?_set, if_neg hkey]
  · rw [hkey]
  · rfl

/-- Every key has the largest of the values that came in under it. -/
theorem isMaxOf_foldl_raiseAt {s : κ → Set α} {d : Dict κ α} (h : ∀ k, IsMaxOf (s k) (d.get? k))
    (pairs : List (κ × α)) (k : κ) :
    IsMaxOf (s k ∪ {v | (k, v) ∈ pairs})
      ((pairs.foldl (fun d e => d.raiseAt e.1 e.2) d).get? k) := by
  induction pairs using List.reverseRecOn with
  | nil => exact (h k).congr fun x => by simp
  | append_singleton pairs e ih =>
    obtain ⟨k', v⟩ := e
    rw [List.foldl_concat, get?_raiseAt]
    split_ifs with hkey
    · subst hkey
      refine (ih.raise v).congr fun x => ?_
      simp [or_comm, or_left_comm]
    · exact ih.congr fun x => by simp [hkey]

/-! ### Latest values by a measure -/

section Measure

variable {β κ' : Type*} [DecidableEq κ'] {f : β → α} {k' : κ'}

/-- `d[k] = v`, unless the value of the key measures as much already. -/
def raiseBy (f : β → α) (d : Dict κ β) (k : κ) (v : β) : Dict κ β :=
  if (d.get? k).all (f · < f v) then d.set k v else d

theorem get?_raiseBy (d : Dict κ β) (k k' : κ) (v : β) :
    ((d.raiseBy f k v).get? k').map f =
      if k' = k then raise ((d.get? k).map f) (f v) else (d.get? k').map f := by
  have hall : ((d.get? k).map f).all (· < f v) = (d.get? k).all (f · < f v) := by
    cases d.get? k <;> rfl
  rw [raiseBy, raise, hall]
  split_ifs with hlt hkey hkey
  · rw [get?_set, if_pos hkey, Option.map_some]
  · rw [get?_set, if_neg hkey]
  · rw [hkey]
  · rfl

/-- Every key has a value whose measure is the largest that came in under it. -/
theorem isMaxOf_foldl_raiseBy (pairs : List (κ × β)) (k : κ) :
    IsMaxOf {x | ∃ v, (k, v) ∈ pairs ∧ f v = x}
      (((pairs.foldl (fun (d : Dict κ β) e => d.raiseBy f e.1 e.2) ∅).get? k).map f) := by
  induction pairs using List.reverseRecOn with
  | nil => exact Set.eq_empty_iff_forall_notMem.mpr fun _ ⟨_, h, _⟩ => List.not_mem_nil h
  | append_singleton pairs e ih =>
    obtain ⟨k', v⟩ := e
    rw [List.foldl_concat, get?_raiseBy]
    split_ifs with hkey
    · subst hkey
      refine (ih.raise (f v)).congr fun x => ?_
      simp only [Set.mem_insert_iff, Set.mem_ofPred_eq, List.mem_append, List.mem_singleton,
        Prod.mk.injEq, true_and]
      constructor
      · rintro (rfl | ⟨w, hw, hx⟩)
        · exact ⟨v, .inr rfl, rfl⟩
        · exact ⟨w, .inl hw, hx⟩
      · rintro ⟨w, hw | rfl, hx⟩
        · exact .inr ⟨w, hw, hx⟩
        · exact .inl hx.symm
    · exact ih.congr fun x => by simp [hkey]

/-- `d.setdefault(k, {})[k'] = v`, unless the value there measures as much already. -/
def raiseIn (f : β → α) (d : Dict κ (Dict κ' β)) (k : κ) (k' : κ') (v : β) :
    Dict κ (Dict κ' β) :=
  d.set k (((d.get? k).getD ∅).raiseBy f k' v)

/-- `d.get(k, {}).get(k')`. -/
def getIn (d : Dict κ (Dict κ' β)) (k : κ) (k' : κ') : Option β := ((d.get? k).getD ∅).get? k'

theorem isMaxOf_foldl_raiseIn (triples : List (κ × κ' × β)) (k : κ) (k' : κ') :
    IsMaxOf {x | ∃ v, (k, k', v) ∈ triples ∧ f v = x}
      (((triples.foldl (fun (d : Dict κ (Dict κ' β)) e => d.raiseIn f e.1 e.2.1 e.2.2)
        ∅).getIn k k').map f) := by
  induction triples using List.reverseRecOn with
  | nil => exact Set.eq_empty_iff_forall_notMem.mpr fun _ ⟨_, h, _⟩ => List.not_mem_nil h
  | append_singleton triples e ih =>
    obtain ⟨a, b, v⟩ := e
    rw [List.foldl_concat, getIn, raiseIn, get?_set]
    split_ifs with hkey
    · subst hkey
      rw [Option.getD_some, get?_raiseBy]
      split_ifs with hinner
      · subst hinner
        refine (ih.raise (f v)).congr fun x => ?_
        simp only [Set.mem_insert_iff, Set.mem_ofPred_eq, List.mem_append, List.mem_singleton,
          Prod.mk.injEq, true_and]
        constructor
        · rintro (rfl | ⟨w, hw, hx⟩)
          · exact ⟨v, .inr rfl, rfl⟩
          · exact ⟨w, .inl hw, hx⟩
        · rintro ⟨w, hw | rfl, hx⟩
          · exact .inr ⟨w, hw, hx⟩
          · exact .inl hx.symm
      · exact ih.congr fun x => by simp [hinner]
    · exact ih.congr fun x => by simp [hkey]

theorem isSome_getIn_foldl_raiseIn (triples : List (κ × κ' × β)) (k : κ) (k' : κ') :
    ((triples.foldl (fun (d : Dict κ (Dict κ' β)) e => d.raiseIn f e.1 e.2.1 e.2.2)
      ∅).getIn k k').isSome ↔ ∃ v, (k, k', v) ∈ triples := by
  have hmax := (isMaxOf_foldl_raiseIn (f := f) triples k k').eq_none_iff
  rw [Option.map_eq_none_iff, Set.eq_empty_iff_forall_notMem] at hmax
  rw [← Option.ne_none_iff_isSome, ne_eq, hmax, not_forall_not]
  exact ⟨fun ⟨_, v, hv, _⟩ => ⟨v, hv⟩, fun ⟨v, hv⟩ => ⟨f v, v, hv, rfl⟩⟩

theorem isSome_get?_foldl_raiseBy (pairs : List (κ × β)) (k : κ) :
    ((pairs.foldl (fun (d : Dict κ β) e => d.raiseBy f e.1 e.2) ∅).get? k).isSome ↔
      ∃ v, (k, v) ∈ pairs := by
  have hmax := (isMaxOf_foldl_raiseBy (f := f) pairs k).eq_none_iff
  rw [Option.map_eq_none_iff, Set.eq_empty_iff_forall_notMem] at hmax
  rw [← Option.ne_none_iff_isSome, ne_eq, hmax, not_forall_not]
  exact ⟨fun ⟨_, v, hv, _⟩ => ⟨v, hv⟩, fun ⟨v, hv⟩ => ⟨f v, v, hv, rfl⟩⟩

theorem mem_keys_foldl_raiseIn (triples : List (κ × κ' × β)) (k : κ) :
    k ∈ (triples.foldl (fun (d : Dict κ (Dict κ' β)) e => d.raiseIn f e.1 e.2.1 e.2.2) ∅).keys ↔
      ∃ e ∈ triples, e.1 = k := by
  induction triples using List.reverseRecOn with
  | nil => simp [mem_keys_iff]
  | append_singleton triples e ih =>
    rw [List.foldl_concat, raiseIn, mem_keys_set, ih]
    simp [or_and_right, exists_or, or_comm, eq_comm]

end Measure

end Dict

end MediaMasterr.Foundations
