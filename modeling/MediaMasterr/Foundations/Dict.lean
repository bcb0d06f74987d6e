import Mathlib.Data.List.Induction
import Mathlib.Data.List.Nodup

/-! # Dictionaries

An insertion-ordered dictionary, as Python's `dict`: the entries in the order in
which their keys came in, every key once. -/

namespace MediaMasterr.Foundations

structure Dict (κ υ : Type*) where
  entries : List (κ × υ)
  nodup : (entries.map Prod.fst).Nodup

namespace Dict

variable {κ υ τ : Type*} [DecidableEq κ]

def keys (d : Dict κ υ) : List κ := d.entries.map Prod.fst

def values (d : Dict κ υ) : List υ := d.entries.map Prod.snd

instance : EmptyCollection (Dict κ υ) := ⟨⟨[], List.nodup_nil⟩⟩

/-- `d.get(k)`. -/
def get? (d : Dict κ υ) (k : κ) : Option υ := (d.entries.find? (·.1 = k)).map Prod.snd

/-- `d[k] = v`: a key that is there keeps its place. -/
def set (d : Dict κ υ) (k : κ) (v : υ) : Dict κ υ :=
  if h : k ∈ d.entries.map Prod.fst then
    { entries := d.entries.map fun e => if e.1 = k then (k, v) else e
      nodup := by
        have hkeys : (d.entries.map fun e => if e.1 = k then (k, v) else e).map Prod.fst =
            d.entries.map Prod.fst := by
          rw [List.map_map]
          refine List.map_congr_left fun e _ => ?_
          by_cases he : e.1 = k <;> simp [he]
        exact hkeys ▸ d.nodup }
  else
    { entries := d.entries ++ [(k, v)]
      nodup := by
        rw [List.map_append]
        exact List.Nodup.append d.nodup (by simp) (by simpa using h) }

/-- `del d[k]`, when the key is there. -/
def erase (d : Dict κ υ) (k : κ) : Dict κ υ where
  entries := d.entries.filter (·.1 ≠ k)
  nodup := d.nodup.sublist (List.filter_sublist.map _)

variable {d : Dict κ υ} {k k' : κ} {v : υ}

theorem get?_eq_some_iff : d.get? k = some v ↔ (k, v) ∈ d.entries := by
  rw [get?, Option.map_eq_some_iff]
  constructor
  · rintro ⟨⟨k', _⟩, hfind, rfl⟩
    obtain rfl : k' = k := by simpa using List.find?_some hfind
    exact List.mem_of_find?_eq_some hfind
  · intro hmem
    have hsome : (d.entries.find? (·.1 = k)).isSome :=
      List.find?_isSome.mpr ⟨(k, v), hmem, by simp⟩
    obtain ⟨e, he⟩ := Option.isSome_iff_exists.mp hsome
    have hkey : e.1 = k := by simpa using List.find?_some he
    have hsame : e = (k, v) :=
      List.inj_on_of_nodup_map d.nodup (List.mem_of_find?_eq_some he) hmem hkey
    exact ⟨e, he, congrArg Prod.snd hsame⟩

theorem mem_keys_iff : k ∈ d.keys ↔ ∃ v, d.get? k = some v := by
  simp only [keys, List.mem_map, get?_eq_some_iff]
  constructor
  · rintro ⟨⟨_, v⟩, hmem, rfl⟩
    exact ⟨v, hmem⟩
  · rintro ⟨v, hmem⟩
    exact ⟨_, hmem, rfl⟩

theorem mem_values_iff : v ∈ d.values ↔ ∃ k, d.get? k = some v := by
  simp only [values, List.mem_map, get?_eq_some_iff]
  constructor
  · rintro ⟨⟨k, _⟩, hmem, rfl⟩
    exact ⟨k, hmem⟩
  · rintro ⟨k, hmem⟩
    exact ⟨_, hmem, rfl⟩

theorem get?_eq_none_iff : d.get? k = none ↔ k ∉ d.keys := by
  rw [mem_keys_iff, Option.eq_none_iff_forall_ne_some, not_exists]

@[simp] theorem get?_empty : (∅ : Dict κ υ).get? k = none := rfl

@[simp] theorem get?_set : (d.set k v).get? k' = if k' = k then some v else d.get? k' := by
  ext w
  have hset : (k', w) ∈ (d.set k v).entries ↔
    (k' = k ∧ w = v) ∨ (k' ≠ k ∧ (k', w) ∈ d.entries) := by
    unfold set
    split_ifs with hmem
    · simp only [List.mem_map]
      constructor
      · rintro ⟨e, he, heq⟩
        split_ifs at heq with hkey <;> grind
      · rintro (⟨rfl, rfl⟩ | ⟨hne, he⟩)
        · obtain ⟨e, he, hkey⟩ := List.mem_map.mp hmem
          exact ⟨e, he, by simp [hkey]⟩
        · exact ⟨_, he, by simp [hne]⟩
    · simp only [List.mem_append, List.mem_singleton, Prod.mk.injEq]
      have hnone : ∀ w, (k, w) ∉ d.entries := fun w he => hmem (List.mem_map.mpr ⟨_, he, rfl⟩)
      grind
  rw [get?_eq_some_iff, hset]
  by_cases hkey : k' = k
  · simp [hkey, eq_comm]
  · simp [hkey, get?_eq_some_iff]

@[simp] theorem get?_erase : (d.erase k).get? k' = if k' = k then none else d.get? k' := by
  ext w
  by_cases hkey : k' = k <;> simp [get?_eq_some_iff, erase, hkey]

/-- A new key comes in at the end. -/
theorem entries_set_of_notMem (h : k ∉ d.keys) : (d.set k v).entries = d.entries ++ [(k, v)] := by
  rw [keys] at h
  simp [set, h]

theorem keys_set : (d.set k v).keys = if k ∈ d.keys then d.keys else d.keys ++ [k] := by
  split_ifs with h
  · have hset : (d.set k v).entries = d.entries.map fun e => if e.1 = k then (k, v) else e := by
      rw [keys] at h
      simp [set, h]
    rw [keys, hset, List.map_map]
    refine List.map_congr_left fun e _ => ?_
    by_cases he : e.1 = k <;> simp [he]
  · rw [keys, entries_set_of_notMem h, List.map_append, List.map_singleton]
    rfl

theorem mem_keys_set : k' ∈ (d.set k v).keys ↔ k' = k ∨ k' ∈ d.keys := by
  rw [keys_set]
  split_ifs with h
  · exact ⟨.inr, fun hk => hk.elim (fun heq => heq ▸ h) id⟩
  · rw [List.mem_append, List.mem_singleton, or_comm]

omit [DecidableEq κ] in
theorem ext_entries {d d' : Dict κ υ} (h : d.entries = d'.entries) : d = d' := by
  cases d
  cases d'
  congr

/-- Dictionaries with the same keys in the same order and the same values are equal. -/
theorem ext_get? {d d' : Dict κ υ} (hkeys : d.keys = d'.keys) (hget : ∀ k, d.get? k = d'.get? k) :
    d = d' := by
  refine ext_entries ?_
  refine List.ext_getElem (by simpa [keys] using congrArg List.length hkeys) fun i hi hi' => ?_
  have hkey : d.entries[i].1 = d'.entries[i].1 := by
    have hget := congrArg (·[i]?) hkeys
    simpa [keys, hi, hi'] using hget
  have hd : d.get? d.entries[i].1 = some d.entries[i].2 :=
    get?_eq_some_iff.mpr (List.getElem_mem hi)
  have hd' : d'.get? d'.entries[i].1 = some d'.entries[i].2 :=
    get?_eq_some_iff.mpr (List.getElem_mem hi')
  rw [hget, hkey, hd'] at hd
  exact Prod.ext hkey (Option.some.inj hd).symm

/-! ## Loops that fill a dictionary -/

/-- Setting one key after the other: the last item with a key wins. -/
theorem get?_foldl_set (key : τ → κ) (value : τ → υ) (items : List τ) (d : Dict κ υ) :
    (items.foldl (fun d t => d.set (key t) (value t)) d).get? k =
      ((items.reverse.find? (key · = k)).map value).or (d.get? k) := by
  induction items using List.reverseRecOn with
  | nil => simp
  | append_singleton items t ih =>
    rw [List.foldl_append, List.foldl_cons, List.foldl_nil, get?_set, ih, List.reverse_append]
    by_cases hkey : key t = k
    · simp [hkey]
    · simp [hkey, eq_comm (a := k)]

/-- `d[k] = True` for the keys of a list. -/
theorem get?_foldl_set_true (ks : List κ) (d : Dict κ Bool) :
    (ks.foldl (fun d k => d.set k true) d).get? k = some true ↔
      k ∈ ks ∨ d.get? k = some true := by
  induction ks using List.reverseRecOn with
  | nil => simp
  | append_singleton ks k' ih =>
    rw [List.foldl_concat, get?_set, List.mem_append, List.mem_singleton]
    split_ifs with hkey
    · simp [hkey]
    · simp [hkey, ih]

/-- A key whose items all have one value. -/
theorem get?_foldl_set_of_mem {key : τ → κ} {value : τ → υ} {items : List τ} {t : τ}
    (ht : t ∈ items) (hkey : key t = k) (hvalue : ∀ u ∈ items, key u = k → value u = v) :
    (items.foldl (fun (d : Dict κ υ) t => d.set (key t) (value t)) ∅).get? k = some v := by
  rw [get?_foldl_set]
  cases hfind : items.reverse.find? (key · = k) with
  | none => exact absurd hkey (by simpa using List.find?_eq_none.mp hfind t (by simpa using ht))
  | some u =>
    have hu : key u = k := by simpa using List.find?_some hfind
    have hmem : u ∈ items := List.mem_reverse.mp (List.mem_of_find?_eq_some hfind)
    rw [Option.map_some, Option.some_or, hvalue u hmem hu]

theorem get?_foldl_set_eq_none {key : τ → κ} {value : τ → υ} {items : List τ}
    (h : ∀ t ∈ items, key t ≠ k) :
    (items.foldl (fun (d : Dict κ υ) t => d.set (key t) (value t)) ∅).get? k = none := by
  have hfind : items.reverse.find? (key · = k) = none := by
    rw [List.find?_eq_none]
    intro t ht
    simpa using h t (List.mem_reverse.mp ht)
  rw [get?_foldl_set, hfind, get?_empty, Option.map_none, Option.or_none]

/-- Items with different keys come in one after the other. -/
theorem entries_foldl_set {key : τ → κ} {value : τ → υ} {items : List τ}
    (hkeys : (items.map key).Nodup) :
    (items.foldl (fun (d : Dict κ υ) t => d.set (key t) (value t)) ∅).entries =
      items.map fun t => (key t, value t) := by
  induction items using List.reverseRecOn with
  | nil => rfl
  | append_singleton items t ih =>
    rw [List.map_append, List.nodup_append'] at hkeys
    obtain ⟨hitems, -, hdisjoint⟩ := hkeys
    have hnew : key t ∉ (items.foldl (fun (d : Dict κ υ) t => d.set (key t) (value t)) ∅).keys := by
      rw [keys, ih hitems, List.map_map]
      exact fun hmem => hdisjoint hmem (by simp)
    rw [List.foldl_append, List.foldl_cons, List.foldl_nil, entries_set_of_notMem hnew, ih hitems,
      List.map_append, List.map_singleton]

/-! ## Updates -/

/-- `{**d, **d'}`. -/
def update (d d' : Dict κ υ) : Dict κ υ := d'.entries.foldl (fun d e => d.set e.1 e.2) d

@[simp] theorem get?_update (d d' : Dict κ υ) :
    (d.update d').get? k = (d'.get? k).or (d.get? k) := by
  rw [update, get?_foldl_set Prod.fst Prod.snd]
  cases hget : d'.get? k with
  | none =>
    have hfind : d'.entries.reverse.find? (·.1 = k) = none := by
      rw [List.find?_eq_none]
      intro e he
      have hne : e.1 ≠ k := fun heq =>
        get?_eq_none_iff.mp hget (heq ▸ List.mem_map_of_mem (List.mem_reverse.mp he))
      simpa using hne
    rw [hfind, Option.map_none]
  | some v =>
    have hmem : (k, v) ∈ d'.entries.reverse := List.mem_reverse.mpr (get?_eq_some_iff.mp hget)
    obtain ⟨e, he⟩ := Option.isSome_iff_exists.mp
      (List.find?_isSome (p := fun e : κ × υ => decide (e.1 = k)).mpr ⟨(k, v), hmem, by simp⟩)
    have hkey : e.1 = k := by simpa using List.find?_some he
    have hvalue : d'.get? e.1 = some e.2 :=
      get?_eq_some_iff.mpr (List.mem_reverse.mp (List.mem_of_find?_eq_some he))
    rw [hkey, hget] at hvalue
    rw [he, Option.map_some, ← hvalue]

theorem keys_prefix_foldl_set (items : List (κ × υ)) (d : Dict κ υ) :
    d.keys <+: (items.foldl (fun d e => d.set e.1 e.2) d).keys := by
  induction items generalizing d with
  | nil => exact List.prefix_rfl
  | cons e items ih =>
    refine List.IsPrefix.trans ?_ (ih (d.set e.1 e.2))
    rw [keys_set]
    split_ifs
    · exact List.prefix_rfl
    · exact List.prefix_append _ _

theorem keys_prefix_update (d d' : Dict κ υ) : d.keys <+: (d.update d').keys :=
  keys_prefix_foldl_set _ _

theorem keys_foldl_set_of_mem {items : List (κ × υ)} (h : ∀ e ∈ items, e.1 ∈ d.keys) :
    (items.foldl (fun d e => d.set e.1 e.2) d).keys = d.keys := by
  induction items generalizing d with
  | nil => rfl
  | cons e items ih =>
    have hset : (d.set e.1 e.2).keys = d.keys := by
      rw [keys_set, if_pos (h e List.mem_cons_self)]
    rw [List.foldl_cons, ih, hset]
    exact fun e' he' => hset ▸ h e' (List.mem_cons_of_mem _ he')

theorem keys_foldl_set_of_nodup {items : List (κ × υ)}
    (h : (d.keys ++ items.map Prod.fst).Nodup) :
    (items.foldl (fun d e => d.set e.1 e.2) d).keys = d.keys ++ items.map Prod.fst := by
  induction items generalizing d with
  | nil => simp
  | cons e items ih =>
    have hnew : e.1 ∉ d.keys := fun hmem =>
      (List.nodup_append'.mp h).2.2 hmem (by simp)
    have hset : (d.set e.1 e.2).keys = d.keys ++ [e.1] := by rw [keys_set, if_neg hnew]
    rw [List.foldl_cons, ih (by simpa [hset] using h), hset, List.map_cons, List.append_assoc,
      List.singleton_append]

/-- Updating with a dictionary that begins with the same keys. -/
theorem update_eq_of_prefix {d d' : Dict κ υ} (hbegins : d.keys <+: d'.keys) :
    d.update d' = d' := by
  obtain ⟨rest, hrest⟩ := hbegins
  have hkeys : (d.update d').keys = d'.keys := by
    have hsplit : d'.entries = d'.entries.take d.keys.length ++ d'.entries.drop d.keys.length :=
      (List.take_append_drop _ _).symm
    have htake : (d'.entries.take d.keys.length).map Prod.fst = d.keys := by
      rw [List.map_take]
      exact (congrArg (List.take _) hrest.symm).trans List.take_left
    have hdrop : (d'.entries.drop d.keys.length).map Prod.fst = rest := by
      rw [List.map_drop]
      exact (congrArg (List.drop _) hrest.symm).trans List.drop_left
    have hfirst : ((d'.entries.take d.keys.length).foldl (fun d e => d.set e.1 e.2) d).keys =
        d.keys :=
      keys_foldl_set_of_mem fun e he => htake ▸ List.mem_map_of_mem he
    have hnodup : d'.keys.Nodup := d'.nodup
    rw [update, hsplit, List.foldl_append, keys_foldl_set_of_nodup, hfirst, hdrop, hrest]
    rw [hfirst, hdrop, hrest]
    exact hnodup
  refine ext_get? hkeys fun k => ?_
  rw [get?_update]
  cases hget : d'.get? k with
  | some v => rfl
  | none =>
    rw [Option.none_or]
    refine get?_eq_none_iff.mpr fun hmem => get?_eq_none_iff.mp hget ?_
    exact hrest ▸ List.mem_append_left rest hmem

/-! ## Comprehensions -/

/-- `{key(t): value(t) for t in items if key(t)}`. -/
def build (key : τ → Option κ) (value : τ → υ) (items : List τ) : Dict κ υ :=
  (items.filterMap fun t => (key t).map fun k => (k, value t)).foldl
    (fun d e => d.set e.1 e.2) ∅

/-- The last item with a key is the one in the dictionary. -/
theorem get?_build (key : τ → Option κ) (value : τ → υ) (items : List τ) :
    (build key value items).get? k = (items.reverse.find? (key · = some k)).map value := by
  rw [build, get?_foldl_set, get?_empty, Option.or_none, ← List.filterMap_reverse]
  generalize items.reverse = items
  induction items with
  | nil => rfl
  | cons t items ih =>
    cases hkey : key t with
    | none =>
      rw [List.filterMap_cons_none (by rw [hkey]; rfl), ih, List.find?_cons_of_neg (by simp [hkey])]
    | some k' =>
      rw [List.filterMap_cons_some (by rw [hkey]; rfl)]
      by_cases hk : k' = k
      · simp [hk, hkey]
      · rw [List.find?_cons_of_neg (by simpa using hk), ih,
          List.find?_cons_of_neg (by simpa [hkey] using hk)]

theorem of_get?_build {key : τ → Option κ} {value : τ → υ} {items : List τ}
    (h : (build key value items).get? k = some v) : ∃ t ∈ items, key t = some k ∧ value t = v := by
  rw [build, get?_foldl_set, get?_empty, Option.or_none, Option.map_eq_some_iff] at h
  obtain ⟨e, hfind, rfl⟩ := h
  obtain rfl : e.1 = k := by simpa using List.find?_some hfind
  have hmem := List.mem_reverse.mp (List.mem_of_find?_eq_some hfind)
  obtain ⟨t, ht, hkey⟩ := List.mem_filterMap.mp hmem
  obtain ⟨k, hk, rfl⟩ := Option.map_eq_some_iff.mp hkey
  exact ⟨t, ht, hk, rfl⟩

/-- Items with different keys are the entries. -/
theorem entries_build {key : τ → Option κ} {value : τ → υ} {items : List τ}
    (hkeys : (items.filterMap key).Nodup) :
    (build key value items).entries =
      items.filterMap fun t => (key t).map fun k => (k, value t) := by
  have hpairs : ((items.filterMap fun t => (key t).map fun k =>
    (k, value t)).map Prod.fst).Nodup := by
    have hfst : (fun t => ((key t).map fun k => (k, value t)).map Prod.fst) = key := by
      funext t
      cases key t <;> rfl
    rwa [List.map_filterMap, hfst]
  rw [build, entries_foldl_set hpairs]
  exact List.map_id' _

theorem keys_build {key : τ → Option κ} {value : τ → υ} {items : List τ}
    (hkeys : (items.filterMap key).Nodup) : (build key value items).keys = items.filterMap key := by
  rw [keys, entries_build hkeys, List.map_filterMap]
  refine List.filterMap_congr fun t _ => ?_
  cases key t <;> rfl

theorem mem_keys_build {key : τ → Option κ} {value : τ → υ} {items : List τ} :
    k ∈ (build key value items).keys ↔ ∃ t ∈ items, key t = some k := by
  rw [mem_keys_iff]
  constructor
  · rintro ⟨v, hget⟩
    obtain ⟨t, ht, hkey, -⟩ := of_get?_build hget
    exact ⟨t, ht, hkey⟩
  · rintro ⟨t, ht, hkey⟩
    have hsome : (items.reverse.find? (key · = some k)).isSome :=
      List.find?_isSome.mpr ⟨t, List.mem_reverse.mpr ht, decide_eq_true hkey⟩
    obtain ⟨t', hfind⟩ := Option.isSome_iff_exists.mp hsome
    exact ⟨value t', by rw [get?_build, hfind, Option.map_some]⟩

/-- With different keys, every item is in the dictionary. -/
theorem get?_build_of_mem {key : τ → Option κ} {value : τ → υ} {items : List τ} {t : τ}
    (hkeys : (items.filterMap key).Nodup) (ht : t ∈ items) (hk : key t = some k) :
    (build key value items).get? k = some (value t) := by
  rw [get?_eq_some_iff, entries_build hkeys]
  exact List.mem_filterMap.mpr ⟨t, ht, by rw [hk]; rfl⟩

/-- `{k: f(k, v) for k, v in d.items()}`. -/
def mapValues {ω : Type*} (f : κ → υ → ω) (d : Dict κ υ) : Dict κ ω where
  entries := d.entries.map fun e => (e.1, f e.1 e.2)
  nodup := by
    rw [List.map_map]
    exact d.nodup

omit [DecidableEq κ] in
@[simp] theorem keys_mapValues {ω : Type*} (f : κ → υ → ω) (d : Dict κ υ) :
    (d.mapValues f).keys = d.keys := by
  rw [keys, mapValues, List.map_map]
  rfl

theorem get?_mapValues {ω : Type*} (f : κ → υ → ω) (d : Dict κ υ) :
    (d.mapValues f).get? k = (d.get? k).map (f k) := by
  rw [get?, mapValues, List.find?_map, get?, Option.map_map, Option.map_map]
  have hkey : (fun e : κ × ω => decide (e.1 = k)) ∘ (fun e : κ × υ => (e.1, f e.1 e.2)) =
      fun e => decide (e.1 = k) := rfl
  rw [hkey]
  cases hfind : d.entries.find? fun e => decide (e.1 = k) with
  | none => rfl
  | some e =>
    obtain rfl : e.1 = k := by simpa using List.find?_some hfind
    rfl

/-! ## Dictionaries of sets -/

section Sets

variable [DecidableEq υ]

/-- `d.get(k, set())`: the set of a key, in some order. -/
def setAt (d : Dict κ (List υ)) (k : κ) : List υ := (d.get? k).getD []

/-- `d.setdefault(k, set()).add(v)`. -/
def addTo (d : Dict κ (List υ)) (k : κ) (v : υ) : Dict κ (List υ) := d.set k ((d.setAt k).insert v)

variable {sets : Dict κ (List υ)}

omit [DecidableEq υ] in
theorem mem_keys_of_mem_setAt (h : v ∈ sets.setAt k) : k ∈ sets.keys := by
  rw [setAt] at h
  cases hget : sets.get? k with
  | none =>
    rw [hget] at h
    exact absurd h List.not_mem_nil
  | some _ => exact mem_keys_iff.mpr ⟨_, hget⟩

theorem mem_setAt_addTo {w : υ} :
    w ∈ (sets.addTo k v).setAt k' ↔ (k' = k ∧ w = v) ∨ w ∈ sets.setAt k' := by
  rw [setAt, addTo, get?_set]
  by_cases hkey : k' = k
  · simp [hkey]
  · simp [hkey, setAt]

theorem mem_keys_foldl_addTo (pairs : List (κ × υ)) (sets : Dict κ (List υ)) :
    k ∈ (pairs.foldl (fun d e => d.addTo e.1 e.2) sets).keys ↔
      k ∈ pairs.map Prod.fst ∨ k ∈ sets.keys := by
  induction pairs generalizing sets with
  | nil => simp
  | cons e pairs ih =>
    rw [List.foldl_cons, ih, List.map_cons, List.mem_cons, mem_keys_iff, addTo]
    simp only [get?_set, mem_keys_iff]
    by_cases hkey : k = e.1 <;> simp [hkey]

/-- Adding one pair after the other. -/
theorem mem_setAt_foldl_addTo {w : υ} (pairs : List (κ × υ)) (sets : Dict κ (List υ)) :
    w ∈ (pairs.foldl (fun d e => d.addTo e.1 e.2) sets).setAt k ↔
      (k, w) ∈ pairs ∨ w ∈ sets.setAt k := by
  induction pairs generalizing sets with
  | nil => simp
  | cons e pairs ih =>
    rw [List.foldl_cons, ih, mem_setAt_addTo, List.mem_cons, Prod.ext_iff]
    tauto

/-- `d.setdefault(k, set())`, and the value of an optional member. -/
def addOptional (d : Dict κ (List υ)) (k : κ) : Option υ → Dict κ (List υ)
  | none => if (d.get? k).isSome then d else d.set k []
  | some v => d.addTo k v

theorem mem_keys_addOptional {v : Option υ} :
    k' ∈ (sets.addOptional k v).keys ↔ k' = k ∨ k' ∈ sets.keys := by
  cases v with
  | none =>
    rw [addOptional]
    split_ifs with hsome
    · refine ⟨.inr, fun h => h.elim (fun heq => ?_) id⟩
      exact mem_keys_iff.mpr (heq ▸ Option.isSome_iff_exists.mp hsome)
    · exact mem_keys_set
  | some v => exact mem_keys_set

theorem mem_setAt_addOptional {v : Option υ} {w : υ} :
    w ∈ (sets.addOptional k v).setAt k' ↔ (k' = k ∧ v = some w) ∨ w ∈ sets.setAt k' := by
  cases v with
  | none =>
    have hempty : sets.get? k = none → w ∉ sets.setAt k := by
      intro hnone
      rw [setAt, hnone]
      exact List.not_mem_nil
    rw [addOptional]
    split_ifs with hsome
    · simp
    · rw [Option.not_isSome_iff_eq_none] at hsome
      rw [setAt, get?_set]
      by_cases hkey : k' = k
      · simp [hkey, hempty hsome]
      · simp [hkey, setAt]
  | some v =>
    rw [addOptional, mem_setAt_addTo]
    simp [eq_comm]

theorem mem_keys_foldl_addOptional (pairs : List (κ × Option υ)) (sets : Dict κ (List υ)) :
    k ∈ (pairs.foldl (fun d e => d.addOptional e.1 e.2) sets).keys ↔
      (∃ e ∈ pairs, e.1 = k) ∨ k ∈ sets.keys := by
  induction pairs generalizing sets with
  | nil => simp
  | cons e pairs ih =>
    rw [List.foldl_cons, ih, mem_keys_addOptional]
    simp only [List.exists_mem_cons_iff, eq_comm (a := k), or_assoc, or_left_comm]

theorem mem_setAt_foldl_addOptional {w : υ} (pairs : List (κ × Option υ))
    (sets : Dict κ (List υ)) :
    w ∈ (pairs.foldl (fun d e => d.addOptional e.1 e.2) sets).setAt k ↔
      (k, some w) ∈ pairs ∨ w ∈ sets.setAt k := by
  induction pairs generalizing sets with
  | nil => simp
  | cons e pairs ih =>
    rw [List.foldl_cons, ih, mem_setAt_addOptional, List.mem_cons, Prod.ext_iff]
    simp only [eq_comm (a := some w)]
    tauto

theorem nodup_setAt_foldl_addTo (pairs : List (κ × υ)) {sets : Dict κ (List υ)}
    (h : ∀ k, (sets.setAt k).Nodup) (k : κ) :
    ((pairs.foldl (fun d e => d.addTo e.1 e.2) sets).setAt k).Nodup := by
  induction pairs generalizing sets with
  | nil => exact h k
  | cons e pairs ih =>
    refine ih fun k => ?_
    change (((sets.set e.1 ((sets.setAt e.1).insert e.2)).get? k).getD []).Nodup
    rw [get?_set]
    split_ifs
    · exact (h e.1).insert
    · exact h k

end Sets

/-! ## Dictionaries of lists -/

section Lists

/-- `d.get(k, [])`. -/
def listAt (d : Dict κ (List υ)) (k : κ) : List υ := (d.get? k).getD []

/-- `d.setdefault(k, []).append(v)`. -/
def appendTo (d : Dict κ (List υ)) (k : κ) (v : υ) : Dict κ (List υ) := d.set k (d.listAt k ++ [v])

/-- Appending the value of one item after the other under its key. -/
def group (key : τ → κ) (value : τ → υ) (items : List τ) : Dict κ (List υ) :=
  items.foldl (fun d t => d.appendTo (key t) (value t)) ∅

theorem listAt_appendTo {lists : Dict κ (List υ)} : (lists.appendTo k v).listAt k' =
    if k' = k then lists.listAt k ++ [v] else lists.listAt k' := by
  rw [listAt, appendTo, get?_set]
  split_ifs <;> rfl

theorem mem_listAt_appendTo {lists : Dict κ (List υ)} {w : υ} :
    w ∈ (lists.appendTo k v).listAt k' ↔ (k' = k ∧ w = v) ∨ w ∈ lists.listAt k' := by
  rw [listAt_appendTo]
  by_cases hkey : k' = k
  · simp [hkey, or_comm]
  · simp [hkey]

variable (key : τ → κ) (value : τ → υ) (items : List τ)

theorem group_concat (t : τ) :
    group key value (items ++ [t]) = (group key value items).appendTo (key t) (value t) :=
  List.foldl_concat ..

/-- Under a key are the values of its items, in their order. -/
theorem listAt_group (k : κ) :
    (group key value items).listAt k = (items.filter (key · = k)).map value := by
  induction items using List.reverseRecOn with
  | nil => rfl
  | append_singleton items t ih =>
    rw [group_concat, listAt_appendTo, List.filter_append, List.map_append, ← ih]
    by_cases hkey : key t = k
    · simp [hkey]
    · simp [hkey, Ne.symm hkey]

theorem get?_group_eq_none_iff :
    (group key value items).get? k = none ↔ ∀ t ∈ items, key t ≠ k := by
  induction items using List.reverseRecOn with
  | nil => simp [group]
  | append_singleton items t ih =>
    rw [group_concat, appendTo, get?_set]
    by_cases hkey : k = key t
    · simp [hkey]
    · rw [if_neg hkey, ih, List.forall_mem_append, List.forall_mem_singleton]
      exact (and_iff_left (Ne.symm hkey)).symm

/-- The list of a key that some item has. -/
theorem get?_group {t : τ} (ht : t ∈ items) (hkey : key t = k) :
    (group key value items).get? k = some ((items.filter (key · = k)).map value) := by
  cases hget : (group key value items).get? k with
  | none => exact absurd hkey ((get?_group_eq_none_iff key value items).mp hget t ht)
  | some values => rw [← listAt_group, listAt, hget, Option.getD_some]

theorem mem_values_group {values : List υ} (h : values ∈ (group key value items).values) :
    ∃ k, values = (items.filter (key · = k)).map value := by
  obtain ⟨k, hget⟩ := mem_values_iff.mp h
  exact ⟨k, by rw [← listAt_group, listAt, hget, Option.getD_some]⟩

end Lists

/-! ## Dictionaries of accumulators -/

section Accumulators

variable {ω : Type*} (key : τ → κ) (start : τ → υ) (add : υ → τ → υ)

/-- One item is added to the value of its key, or begins it. -/
def gather (d : Dict κ υ) (t : τ) : Dict κ υ :=
  match d.get? (key t) with
  | none => d.set (key t) (start t)
  | some v => d.set (key t) (add v t)

def gatherAll (items : List τ) : Dict κ υ := items.foldl (gather key start add) ∅

variable {key start add} (members : υ → List ω) (value : τ → ω) (items : List τ)

/-- A list in the values grows as the list of its key does. -/
theorem map_get?_gatherAll (hstart : ∀ t, members (start t) = [value t])
    (hadd : ∀ v t, members (add v t) = members v ++ [value t]) (k : κ) :
    ((gatherAll key start add items).get? k).map members = (group key value items).get? k := by
  induction items using List.reverseRecOn generalizing k with
  | nil => rfl
  | append_singleton items t ih =>
    have hgather : gatherAll key start add (items ++ [t]) =
        gather key start add (gatherAll key start add items) t := List.foldl_concat ..
    rw [hgather, gather, group_concat, appendTo, get?_set]
    have hkey := ih (key t)
    cases hget : (gatherAll key start add items).get? (key t) with
    | none =>
      rw [hget, Option.map_none] at hkey
      dsimp only
      rw [get?_set]
      split_ifs with heq
      · rw [Option.map_some, hstart, listAt, ← hkey]
        rfl
      · exact ih k
    | some v =>
      rw [hget, Option.map_some] at hkey
      dsimp only
      rw [get?_set]
      split_ifs with heq
      · rw [Option.map_some, hadd, listAt, ← hkey]
        rfl
      · exact ih k

end Accumulators

/-! ## Dictionaries of flags -/

section Flags

/-- `d[k] = d.get(k, False) or v`. -/
def setOr (d : Dict κ Bool) (k : κ) (v : Bool) : Dict κ Bool := d.set k ((d.get? k).getD false || v)

/-- A flag is the disjunction of all values that were set under its key. -/
theorem get?_foldl_setOr (pairs : List (κ × Bool)) {k : κ} :
    (pairs.foldl (fun (d : Dict κ Bool) e => d.setOr e.1 e.2) ∅).get? k =
      if ∃ v, (k, v) ∈ pairs then some (decide ((k, true) ∈ pairs)) else none := by
  induction pairs using List.reverseRecOn with
  | nil => simp
  | append_singleton pairs e ih =>
    obtain ⟨k', v⟩ := e
    rw [List.foldl_append, List.foldl_cons, List.foldl_nil, setOr, get?_set]
    by_cases hkey : k = k'
    · subst hkey
      have hnew : ∃ w, (k, w) ∈ pairs ++ [(k, v)] := ⟨v, by simp⟩
      rw [if_pos rfl, ih, if_pos hnew]
      by_cases hbefore : ∃ v, (k, v) ∈ pairs
      · rw [if_pos hbefore]
        cases v <;> simp
      · have htrue : (k, true) ∉ pairs := fun h => hbefore ⟨true, h⟩
        rw [if_neg hbefore]
        cases v <;> simp [htrue]
    · rw [if_neg hkey, ih]
      simp [hkey]

end Flags

/-! ## Dictionaries of dictionaries -/

/-- `d.setdefault(k, {})[k'] = v`. -/
def setIn {κ' : Type*} [DecidableEq κ'] (d : Dict κ (Dict κ' υ)) (k : κ) (k' : κ') (v : υ) :
    Dict κ (Dict κ' υ) :=
  d.set k (((d.get? k).getD ∅).set k' v)

/-- Setting one entry after the other: the last item with both keys wins. -/
theorem get?_foldl_setIn {κ' : Type*} [DecidableEq κ'] (outer : τ → κ) (inner : τ → κ')
    (value : τ → υ) {a : κ} {b : κ'} (items : List τ) :
    ((((items.foldl (fun (d : Dict κ (Dict κ' υ)) t => d.setIn (outer t) (inner t) (value t))
      ∅).get? a).getD ∅).get? b) =
      (items.reverse.find? fun t => outer t = a ∧ inner t = b).map value := by
  induction items using List.reverseRecOn with
  | nil => rfl
  | append_singleton items t ih =>
    rw [List.foldl_append, List.foldl_cons, List.foldl_nil, setIn, get?_set, List.reverse_append]
    by_cases houter : outer t = a
    · subst houter
      by_cases hinner : inner t = b
      · simp [hinner]
      · simp [hinner, ih, eq_comm (a := b)]
    · simp [houter, ih, eq_comm (a := a)]

end Dict

end MediaMasterr.Foundations
