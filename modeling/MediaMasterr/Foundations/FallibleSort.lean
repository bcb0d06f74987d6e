import Mathlib.Data.List.Sort

/-! # Sorting by comparisons that may fail

A stable sort whose comparisons may raise. While all of them succeed it is insertion
sort by a key, and what it gives is told by the elements of every key in their order;
when elements of different kinds cannot be compared, it only succeeds on one kind. -/

namespace MediaMasterr.Foundations.FallibleSort

variable {α ε : Type} {κ τ : Type*}

/-! ## The sort -/

/-- The place before the first element that is not smaller. -/
def insertM (lt : α → α → Except ε Bool) (a : α) : List α → Except ε (List α)
  | [] => .ok [a]
  | b :: bs => do
    if ← lt b a then return b :: (← insertM lt a bs)
    else return a :: b :: bs

/-- A sort that fails with the first comparison that fails. -/
def sortM (lt : α → α → Except ε Bool) : List α → Except ε (List α)
  | [] => .ok []
  | a :: as => do insertM lt a (← sortM lt as)

section Failing

variable {lt : α → α → Except ε Bool} {a : α} {as sorted : List α}

theorem bind_eq_ok {β γ : Type} {x : Except ε β} {f : β → Except ε γ} {c : γ} :
    x >>= f = .ok c ↔ ∃ b, x = .ok b ∧ f b = .ok c := by
  cases x <;> simp [bind, Except.bind]

theorem perm_of_insertM (h : insertM lt a as = .ok sorted) : sorted.Perm (a :: as) := by
  induction as generalizing sorted with
  | nil =>
    obtain rfl := Except.ok.inj h
    exact .refl _
  | cons b bs ih =>
    obtain ⟨smaller, -, h⟩ := bind_eq_ok.mp h
    cases smaller with
    | false =>
      obtain rfl := Except.ok.inj h
      exact .refl _
    | true =>
      obtain ⟨rest, hrest, h⟩ := bind_eq_ok.mp h
      obtain rfl := Except.ok.inj h
      exact ((ih hrest).cons b).trans (.swap a b bs)

theorem perm_of_sortM (h : sortM lt as = .ok sorted) : sorted.Perm as := by
  induction as generalizing sorted with
  | nil =>
    obtain rfl := Except.ok.inj h
    exact .refl _
  | cons a as ih =>
    obtain ⟨rest, hrest, h⟩ := bind_eq_ok.mp h
    exact (perm_of_insertM h).trans ((ih hrest).cons a)

/-- An element that is inserted has been compared with the first one. -/
theorem compared_of_insertM {b : α} (h : insertM lt a (b :: as) = .ok sorted) :
    ∃ smaller, lt b a = .ok smaller := by
  obtain ⟨smaller, hcompared, -⟩ := bind_eq_ok.mp h
  exact ⟨smaller, hcompared⟩

/-- Where only elements of one kind can be compared, a list that can be sorted is of one kind. -/
theorem kind_eq_of_sortM (kind : α → τ) (hkind : ∀ a b smaller, lt a b = .ok smaller → kind a = kind b)
    (h : sortM lt as = .ok sorted) : ∀ a ∈ as, ∀ b ∈ as, kind a = kind b := by
  induction as generalizing sorted with
  | nil => exact fun a ha => absurd ha List.not_mem_nil
  | cons c as ih =>
    obtain ⟨rest, hrest, h⟩ := bind_eq_ok.mp h
    have hfirst : ∀ a ∈ as, kind a = kind c := by
      intro a ha
      obtain ⟨b, bs, rfl⟩ := List.exists_cons_of_ne_nil
        (List.ne_nil_of_mem ((perm_of_sortM hrest).mem_iff.mpr ha))
      obtain ⟨smaller, hcompared⟩ := compared_of_insertM h
      have hb : b ∈ as := (perm_of_sortM hrest).mem_iff.mp List.mem_cons_self
      rw [ih hrest a ha b hb, hkind b c smaller hcompared]
    intro a ha b hb
    rcases List.mem_cons.mp ha with rfl | ha'
    · rcases List.mem_cons.mp hb with rfl | hb'
      · rfl
      · exact (hfirst b hb').symm
    · rcases List.mem_cons.mp hb with rfl | hb'
      · exact hfirst a ha'
      · exact ih hrest a ha' b hb'

end Failing

/-! ## Comparisons that succeed -/

section Keys

variable [LinearOrder κ]

/-- `x < y` of comparable values. -/
def smaller (x y : κ) : Bool := decide (x < y)

variable (key : α → κ)

/-- A stable sort by a key. -/
def sortBy (as : List α) : List α := as.insertionSort fun a b => key a ≤ key b

/-- The elements of a key, in their order. -/
def ofKey (k : κ) (as : List α) : List α := as.filter fun a => decide (key a = k)

variable {key} {lt : α → α → Except ε Bool} {as bs : List α}

instance total_key : Std.Total fun a b : α => key a ≤ key b := ⟨fun a b => le_total (key a) (key b)⟩

instance isTrans_key : IsTrans α fun a b => key a ≤ key b := ⟨fun _ _ _ => le_trans⟩

theorem pairwise_sortBy : (sortBy key as).Pairwise fun a b => key a ≤ key b :=
  List.pairwise_insertionSort _ as

theorem insertM_eq_ok {a : α} (h : ∀ b ∈ as, lt b a = .ok (smaller (key b) (key a))) :
    insertM lt a as = .ok (as.orderedInsert (fun a b => key a ≤ key b) a) := by
  induction as with
  | nil => rfl
  | cons b bs ih =>
    have hrest := ih fun b hb => h b (List.mem_cons_of_mem _ hb)
    rw [List.orderedInsert_cons, insertM, h b List.mem_cons_self, hrest, smaller]
    by_cases hlt : key b < key a
    · rw [if_neg (not_le.mpr hlt), decide_eq_true hlt]
      rfl
    · rw [if_pos (not_lt.mp hlt), decide_eq_false hlt]
      rfl

theorem sortM_eq_ok (h : ∀ a ∈ as, ∀ b ∈ as, lt a b = .ok (smaller (key a) (key b))) :
    sortM lt as = .ok (sortBy key as) := by
  induction as with
  | nil => rfl
  | cons a as ih =>
    have hrest := ih fun a ha b hb => h a (List.mem_cons_of_mem _ ha) b (List.mem_cons_of_mem _ hb)
    rw [sortM, hrest]
    refine insertM_eq_ok fun b hb => ?_
    exact h b (List.mem_cons_of_mem _ ((List.mem_insertionSort _).mp hb)) a List.mem_cons_self

theorem mem_ofKey {k : κ} {a : α} : a ∈ ofKey key k as ↔ a ∈ as ∧ key a = k := by
  rw [ofKey, List.mem_filter, decide_eq_true_iff]

theorem ofKey_append (k : κ) : ofKey key k (as ++ bs) = ofKey key k as ++ ofKey key k bs :=
  List.filter_append ..

theorem ofKey_orderedInsert (a : α) (k : κ) :
    ofKey key k (as.orderedInsert (fun a b => key a ≤ key b) a) = ofKey key k (a :: as) := by
  induction as with
  | nil => rfl
  | cons b bs ih =>
    rw [List.orderedInsert_cons]
    split_ifs with hle
    · rfl
    · have hne : ¬(key a = k ∧ key b = k) := fun h => hle (h.1.trans h.2.symm).le
      rw [ofKey] at ih ⊢
      rw [List.filter_cons, ih, ofKey, ofKey]
      by_cases ha : key a = k
      · have hb : key b ≠ k := fun hb => hne ⟨ha, hb⟩
        simp [ha, hb]
      · simp [List.filter_cons, ha]

/-- The sort is stable. -/
theorem ofKey_sortBy (k : κ) : ofKey key k (sortBy key as) = ofKey key k as := by
  induction as with
  | nil => rfl
  | cons a as ih =>
    have hsorted : sortBy key (a :: as) =
        (sortBy key as).orderedInsert (fun a b => key a ≤ key b) a := rfl
    rw [hsorted, ofKey_orderedInsert, ofKey, ofKey, List.filter_cons, List.filter_cons]
    rw [ofKey, ofKey] at ih
    rw [ih]

/-- A sorted list is told by the elements of every key in their order. -/
theorem eq_of_ofKey_eq (has : as.Pairwise fun a b => key a ≤ key b)
    (hbs : bs.Pairwise fun a b => key a ≤ key b) (h : ∀ k, ofKey key k as = ofKey key k bs) :
    as = bs := by
  induction as generalizing bs with
  | nil =>
    cases bs with
    | nil => rfl
    | cons b bs =>
      have hb : b ∈ ofKey key (key b) [] := h (key b) ▸ mem_ofKey.mpr ⟨List.mem_cons_self, rfl⟩
      exact absurd (mem_ofKey.mp hb).1 List.not_mem_nil
  | cons a as ih =>
    cases bs with
    | nil =>
      have ha : a ∈ ofKey key (key a) [] := h (key a) ▸ mem_ofKey.mpr ⟨List.mem_cons_self, rfl⟩
      exact absurd (mem_ofKey.mp ha).1 List.not_mem_nil
    | cons b bs =>
      have hle {c c' : α} {cs cs' : List α} (hcs : (c' :: cs').Pairwise fun a b => key a ≤ key b)
          (hsame : ofKey key (key c) (c :: cs) = ofKey key (key c) (c' :: cs')) : key c' ≤ key c := by
        have hmem : c ∈ ofKey key (key c) (c' :: cs') :=
          hsame ▸ mem_ofKey.mpr ⟨List.mem_cons_self, rfl⟩
        rcases List.mem_cons.mp (mem_ofKey.mp hmem).1 with rfl | hc
        · exact le_refl _
        · exact (List.pairwise_cons.mp hcs).1 c hc
      have hkeys : key a = key b := le_antisymm (hle has (h (key b)).symm) (hle hbs (h (key a)))
      have hheads := h (key a)
      simp only [ofKey, List.filter_cons, hkeys, decide_true, if_true, List.cons.injEq] at hheads
      obtain ⟨rfl, hheads⟩ := hheads
      rw [ih (List.pairwise_cons.mp has).2 (List.pairwise_cons.mp hbs).2 fun k => ?_]
      have hk := h k
      by_cases hkey : key a = k
      · rw [← hkey]
        exact hheads
      · simpa [ofKey, List.filter_cons, hkey] using hk

theorem map_sortBy {β : Type*} (f : β → α) (bs : List β) :
    (bs.insertionSort fun a b => key (f a) ≤ key (f b)).map f = sortBy key (bs.map f) :=
  List.map_insertionSort _ _ f bs fun _ _ _ _ => Iff.rfl

theorem sortBy_eq_of_ofKey_eq (h : ∀ k, ofKey key k as = ofKey key k bs) :
    sortBy key as = sortBy key bs :=
  eq_of_ofKey_eq pairwise_sortBy pairwise_sortBy fun k => by rw [ofKey_sortBy, ofKey_sortBy, h k]

end Keys

/-! ## The order of what is sorted -/

section Groups

variable {γ : Type*} [LinearOrder κ] [DecidableEq γ] {key : α → κ} {group : α → γ} {as bs : List α}

/-- The same elements, those of each group in the same order. -/
def SameGroups (group : α → γ) (bs as : List α) : Prop :=
  ∀ g, bs.filter (group · = g) = as.filter (group · = g)

theorem SameGroups.mem_iff (h : SameGroups group bs as) (a : α) : a ∈ bs ↔ a ∈ as := by
  have hmem (cs : List α) : a ∈ cs ↔ a ∈ cs.filter (group · = group a) := by simp
  rw [hmem bs, hmem as, h]

/-- One group can stand before all others, or behind them. -/
theorem sameGroups_split (group : α → γ) (as : List α) (g : γ) :
    SameGroups group (as.filter (group · = g) ++ as.filter (group · ≠ g)) as ∧
      SameGroups group (as.filter (group · ≠ g) ++ as.filter (group · = g)) as := by
  have hgroup (g' : γ) : (as.filter (group · = g)).filter (group · = g') ++
        (as.filter (group · ≠ g)).filter (group · = g') = as.filter (group · = g') ∧
      (as.filter (group · ≠ g)).filter (group · = g') ++
        (as.filter (group · = g)).filter (group · = g') = as.filter (group · = g') := by
    by_cases hg : g' = g
    · have hnone : (as.filter (group · ≠ g)).filter (group · = g') = [] :=
        List.filter_eq_nil_iff.mpr fun a ha hsame =>
          of_decide_eq_true (List.mem_filter.mp ha).2 ((of_decide_eq_true hsame).trans hg)
      rw [hnone, hg]
      simp
    · have hnone : (as.filter (group · = g)).filter (group · = g') = [] :=
        List.filter_eq_nil_iff.mpr fun a ha hsame =>
          hg ((of_decide_eq_true hsame).symm.trans (of_decide_eq_true (List.mem_filter.mp ha).2))
      have hothers : (as.filter (group · ≠ g)).filter (group · = g') = as.filter (group · = g') := by
        rw [List.filter_filter]
        refine List.filter_congr fun a _ => ?_
        by_cases hsame : group a = g' <;> simp [hsame, hg]
      rw [hnone, hothers]
      simp
  constructor <;> intro g'
  · rw [List.filter_append, (hgroup g').1]
  · rw [List.filter_append, (hgroup g').2]

/-- Elements of one key that are of one group are those of the key in the group. -/
theorem ofKey_filter_group {a : α} {k : κ} (h : ∀ c ∈ bs, key c = k → group c = group a) :
    ofKey key k (bs.filter (group · = group a)) = ofKey key k bs := by
  rw [ofKey, ofKey, List.filter_filter]
  refine List.filter_congr fun c hc => ?_
  by_cases hkey : key c = k
  · simp [hkey, h c hc hkey]
  · simp [hkey]

/-- What comes out does not depend on the order of the groups exactly when the elements of one key
are of one group. -/
theorem sortBy_anyOrder_iff :
    (∀ bs, SameGroups group bs as → sortBy key bs = sortBy key as) ↔
      ∀ a ∈ as, ∀ b ∈ as, key a = key b → group a = group b := by
  constructor
  · intro h a ha b hb hsame
    by_contra hne
    obtain ⟨hbefore, hbehind⟩ := sameGroups_split group as (group a)
    have hkeys := congrArg (ofKey key (key a)) ((h _ hbefore).trans (h _ hbehind).symm)
    rw [ofKey_sortBy, ofKey_sortBy, ofKey_append, ofKey_append] at hkeys
    -- the first element of the key is of the group of `a` in one order, and of another group in the other
    have hown : a ∈ ofKey key (key a) (as.filter (group · = group a)) := by
      simp [mem_ofKey, ha]
    have hother : b ∈ ofKey key (key a) (as.filter (group · ≠ group a)) := by
      simp [mem_ofKey, hb, hsame, Ne.symm hne]
    obtain ⟨c, cs, hc⟩ := List.exists_cons_of_ne_nil (List.ne_nil_of_mem hown)
    obtain ⟨d, ds, hd⟩ := List.exists_cons_of_ne_nil (List.ne_nil_of_mem hother)
    have hcgroup : c ∈ ofKey key (key a) (as.filter (group · = group a)) :=
      hc ▸ List.mem_cons_self
    have hdgroup : d ∈ ofKey key (key a) (as.filter (group · ≠ group a)) :=
      hd ▸ List.mem_cons_self
    rw [hc, hd] at hkeys
    have hheads : c = d := (List.cons.inj hkeys).1
    rw [mem_ofKey, List.mem_filter, decide_eq_true_iff] at hcgroup hdgroup
    exact hdgroup.1.2 (hheads ▸ hcgroup.1.2)
  · intro h bs hbs
    refine sortBy_eq_of_ofKey_eq fun k => ?_
    by_cases hk : ∃ a ∈ as, key a = k
    · obtain ⟨a, ha, hk⟩ := hk
      have hgroup : ∀ c ∈ as, key c = k → group c = group a := fun c hc hkey =>
        h c hc a ha (hkey.trans hk.symm)
      rw [← ofKey_filter_group hgroup, ← hbs (group a)]
      exact (ofKey_filter_group fun c hc => hgroup c ((hbs.mem_iff c).mp hc)).symm
    · have hnone {cs : List α} (hcs : ∀ c ∈ cs, c ∈ as) : ofKey key k cs = [] :=
        List.filter_eq_nil_iff.mpr fun c hc hkey => hk ⟨c, hcs c hc, of_decide_eq_true hkey⟩
      rw [hnone fun c hc => (hbs.mem_iff c).mp hc, hnone fun c hc => hc]

end Groups

end MediaMasterr.Foundations.FallibleSort
