import Mathlib.Algebra.GroupWithZero.Nat
import Mathlib.Algebra.Ring.Int.Defs
import Mathlib.Algebra.BigOperators.Group.List.Basic
import MediaMasterr.Foundations.Maxima

/-! # Keyed accumulators

A dictionary of accumulators, each of which takes the items that come in under its
key, and what is known of the accumulators of the parts and the one of the whole
when every item of the whole belongs to exactly one part. -/

namespace MediaMasterr.Foundations

variable {κ τ α γ : Type*}

/-- The accumulator of a list of items; none is made for no item. -/
def accumulate (step : α → τ → α) (init : α) : List τ → Option α
  | [] => none
  | t :: ts => some ((t :: ts).foldl step init)

theorem accumulate_concat (step : α → τ → α) (init : α) (ts : List τ) (t : τ) :
    accumulate step init (ts ++ [t]) = some (step ((accumulate step init ts).getD init) t) := by
  cases ts with
  | nil => rfl
  | cons t' ts =>
    rw [List.cons_append, accumulate, accumulate, Option.getD_some, ← List.cons_append,
      List.foldl_concat]

namespace Dict

variable [DecidableEq κ] (step : α → τ → α) (init : κ → α)

/-- `d.setdefault(k, init).add(t)`. -/
def feed (d : Dict κ α) (k : κ) (t : τ) : Dict κ α := d.set k (step ((d.get? k).getD (init k)) t)

/-- The accumulator of a key takes the items of that key, in order. -/
theorem get?_foldl_feed (pairs : List (κ × τ)) (k : κ) :
    (pairs.foldl (fun (d : Dict κ α) p => d.feed step init p.1 p.2) ∅).get? k =
      accumulate step (init k) ((pairs.filter (·.1 = k)).map Prod.snd) := by
  induction pairs using List.reverseRecOn with
  | nil => rfl
  | append_singleton pairs p ih =>
    obtain ⟨k', t⟩ := p
    rw [List.foldl_concat, feed, get?_set, List.filter_append, List.map_append]
    by_cases hkey : k = k'
    · subst hkey
      rw [if_pos rfl, ih]
      simp [accumulate_concat]
    · rw [if_neg hkey, ih]
      simp [Ne.symm hkey]

/-- Items that come in under several keys each. -/
theorem filter_flatMap_keys (keys : τ → List κ) {items : List τ}
    (hkeys : ∀ t ∈ items, (keys t).Nodup) (k : κ) :
    ((items.flatMap fun t => (keys t).map (·, t)).filter (·.1 = k)).map Prod.snd =
      items.filter (k ∈ keys ·) := by
  induction items with
  | nil => rfl
  | cons t items ih =>
    have htail := ih fun t' ht' => hkeys t' (List.mem_cons_of_mem _ ht')
    have hhead : (((keys t).map (·, t)).filter (·.1 = k)).map Prod.snd =
        if k ∈ keys t then [t] else [] := by
      have hnodup := hkeys t List.mem_cons_self
      generalize keys t = ks at hnodup
      induction ks with
      | nil => rfl
      | cons k' ks ihks =>
        obtain ⟨hnew, hrest⟩ := List.nodup_cons.mp hnodup
        by_cases hkey : k' = k
        · subst hkey
          simpa [hnew] using ihks hrest
        · simpa [hkey, Ne.symm hkey] using ihks hrest
    rw [List.flatMap_cons, List.filter_append, List.map_append, htail, hhead]
    by_cases hmem : k ∈ keys t <;> simp [hmem]

end Dict

/-! ## Sums over chosen items -/

theorem sum_map_filter (p : γ → Bool) (f : γ → Nat) (l : List γ) :
    ((l.filter p).map f).sum = (l.map fun a => if p a then f a else 0).sum := by
  induction l with
  | nil => rfl
  | cons a l ih => by_cases h : p a <;> simp [h, ih]

theorem sum_map_filterMap {f : γ → Option τ} {g : τ → Int} {n : γ → Nat}
    (h : ∀ a, ((f a).map g).getD 0 = n a) (l : List γ) :
    ((l.filterMap f).map g).sum = ((l.map n).sum : Nat) := by
  induction l with
  | nil => rfl
  | cons a l ih =>
    have ha := h a
    rw [List.map_cons, List.sum_cons, Int.natCast_add, ← ih, ← ha]
    cases hf : f a with
    | none => simp [hf]
    | some b => simp [hf]

/-! ## Parts and the whole -/

section Parts

variable {parts : List γ} {items : List τ} {belongs : γ → τ → Bool} {inWhole : τ → Bool}

theorem sum_map_ite_eq_countP_mul (p : γ → Bool) (n : Nat) (cs : List γ) :
    (cs.map fun c => if p c then n else 0).sum = cs.countP p * n := by
  induction cs with
  | nil => simp
  | cons c cs ih =>
    rw [List.map_cons, List.sum_cons, ih, List.countP_cons]
    by_cases hp : p c
    · simp only [hp, if_true, Nat.add_mul, Nat.one_mul]
      omega
    · simp [hp]

/-- Every item of the whole belongs to exactly one part, and no other item belongs to one. -/
def Splits (parts : List γ) (belongs : γ → τ → Bool) (inWhole : τ → Bool) (items : List τ) : Prop :=
  ∀ t ∈ items, parts.countP (belongs · t) = if inWhole t then 1 else 0

/-- Parts that are told apart by a key. -/
theorem splits_of_key [DecidableEq κ] (key : γ → κ) (partOf : τ → Option κ)
    (hkeys : (parts.map key).Nodup)
    (hbelongs : ∀ t ∈ items, ∀ c ∈ parts, belongs c t = true ↔ partOf t = some (key c))
    (hwhole : ∀ t ∈ items, inWhole t = true ↔ ∃ c ∈ parts, partOf t = some (key c)) :
    Splits parts belongs inWhole items := by
  intro t ht
  have hcount : parts.countP (belongs · t) = parts.countP fun c => partOf t = some (key c) :=
    List.countP_congr fun c hc => by rw [hbelongs t ht c hc, decide_eq_true_eq]
  rw [hcount]
  cases hpart : partOf t with
  | none =>
    have hnot : inWhole t = false := by
      rw [← Bool.not_eq_true, hwhole t ht, hpart]
      simp
    simp [hnot]
  | some k =>
    have hkey : (parts.countP fun c => some k = some (key c)) = (parts.map key).count k := by
      rw [List.count, List.countP_map]
      refine List.countP_congr fun c _ => ?_
      simp only [decide_eq_true_eq, Option.some.injEq, Function.comp, beq_iff_eq]
      exact eq_comm
    have hin : k ∈ parts.map key ↔ inWhole t = true := by
      rw [hwhole t ht, hpart, List.mem_map]
      simp [eq_comm]
    rw [hkey, hkeys.count]
    simp only [hin]

theorem Splits.exists_iff (h : Splits parts belongs inWhole items) {t : τ} (ht : t ∈ items) :
    (∃ c ∈ parts, belongs c t = true) ↔ inWhole t = true := by
  rw [← List.countP_pos_iff, h t ht]
  cases inWhole t <;> decide

/-- A sum over the items of the whole is the sum of the sums over the items of the parts. -/
theorem Splits.sum_eq (h : Splits parts belongs inWhole items) (f : τ → Nat) :
    ((items.filter inWhole).map f).sum =
      (parts.map fun c => ((items.filter (belongs c)).map f).sum).sum := by
  induction items with
  | nil => simp
  | cons t items ih =>
    have hone := h t List.mem_cons_self
    have hcons (p : τ → Bool) : (((t :: items).filter p).map f).sum =
        (if p t then f t else 0) + ((items.filter p).map f).sum := by
      by_cases hp : p t <;> simp [hp]
    simp only [hcons, List.sum_map_add, sum_map_ite_eq_countP_mul, hone,
      ih fun t' ht' => h t' (List.mem_cons_of_mem _ ht')]
    cases inWhole t <;> simp

theorem Splits.length_eq (h : Splits parts belongs inWhole items) :
    (items.filter inWhole).length =
      (parts.map fun c => (items.filter (belongs c)).length).sum := by
  simpa using h.sum_eq fun _ => 1

theorem foldr_max_le_iff {l : List Nat} {b : Nat} : l.foldr max 0 ≤ b ↔ ∀ x ∈ l, x ≤ b := by
  induction l with
  | nil => simp
  | cons x l ih => simp [ih]

/-- The largest value of the whole is the largest of those of the parts. -/
theorem Splits.max_eq (h : Splits parts belongs inWhole items) (f : τ → Nat) :
    ((items.filter inWhole).map f).foldr max 0 =
      (parts.map fun c => ((items.filter (belongs c)).map f).foldr max 0).foldr max 0 := by
  refine eq_of_forall_ge_iff fun b => ?_
  simp only [foldr_max_le_iff, List.forall_mem_map, List.mem_filter]
  constructor
  · rintro hwhole c hc t ⟨ht, hbelongs⟩
    exact hwhole t ⟨ht, (h.exists_iff ht).mp ⟨c, hc, hbelongs⟩⟩
  · rintro hparts t ⟨ht, hin⟩
    obtain ⟨c, hc, hbelongs⟩ := (h.exists_iff ht).mpr hin
    exact hparts c hc t ⟨ht, hbelongs⟩

end Parts

/-- The largest element of a union is the largest of those of its parts. -/
theorem IsMaxOf.of_parts [LinearOrder α] {parts : List γ} {s : γ → Set α} {whole : Set α}
    {o : γ → Option α} {o' : Option α} (hparts : ∀ c ∈ parts, IsMaxOf (s c) (o c))
    (hwhole : IsMaxOf whole o') (hunion : ∀ a, a ∈ whole ↔ ∃ c ∈ parts, a ∈ s c) :
    IsMaxOf {a | ∃ c ∈ parts, o c = some a} o' := by
  have hmem {c : γ} (hc : c ∈ parts) {a : α} (ha : o c = some a) : a ∈ whole := by
    have hgreatest := hparts c hc
    rw [ha] at hgreatest
    exact (hunion a).mpr ⟨c, hc, hgreatest.1⟩
  cases o' with
  | none =>
    refine Set.eq_empty_iff_forall_notMem.mpr ?_
    rintro a ⟨c, hc, ha⟩
    have hempty : whole = ∅ := hwhole
    exact (hempty ▸ hmem hc ha : a ∈ (∅ : Set α))
  | some a =>
    obtain ⟨c, hc, hac⟩ := (hunion a).mp hwhole.1
    have hgreatest : IsGreatest (s c) a :=
      ⟨hac, fun b hb => hwhole.2 ((hunion b).mpr ⟨c, hc, hb⟩)⟩
    refine ⟨⟨c, hc, (hparts c hc).unique hgreatest⟩, ?_⟩
    rintro b ⟨c', hc', hb⟩
    exact hwhole.2 (hmem hc' hb)

end MediaMasterr.Foundations
