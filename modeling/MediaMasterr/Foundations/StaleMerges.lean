import Mathlib.Data.List.Induction
import Mathlib.Data.List.Perm.Basic
import Mathlib.Order.Lattice

/-! # Merges that compare with what was read before

A loop that merges incoming values into a table by maximum, but compares every row with
the value that was read before the loop and writes it back at once. Of several rows of
one key the last that raises the old value wins, so the loop is a join in every order of
its rows exactly when those rows of a key agree on the value they write. -/

namespace MediaMasterr.Foundations.StaleMerges

variable {κ β : Type*} [DecidableEq κ] [SemilatticeSup β] [DecidableEq β]
  {read : κ → β} {rows direct mapped : List (κ × β)} {row : κ × β} {k : κ}

/-- One row: nothing is written when it does not change what was read. -/
def mergeRow (read written : κ → β) (row : κ × β) : κ → β :=
  if read row.1 ⊔ row.2 = read row.1 then written
  else Function.update written row.1 (read row.1 ⊔ row.2)

def mergeRows (rows : List (κ × β)) (read : κ → β) : κ → β := rows.foldl (mergeRow read) read

/-- The old values and all that came in. -/
def joined (rows : List (κ × β)) (read : κ → β) : κ → β := fun k =>
  ((rows.filter (·.1 = k)).map Prod.snd).foldl (· ⊔ ·) (read k)

/-- A row that writes. -/
def Raises (read : κ → β) (row : κ × β) : Prop := read row.1 ⊔ row.2 ≠ read row.1

/-- The rows of a key that write, write the same value. -/
def Agree (rows : List (κ × β)) (read : κ → β) : Prop :=
  ∀ a ∈ rows, ∀ b ∈ rows, a.1 = b.1 → Raises read a → Raises read b →
    read a.1 ⊔ a.2 = read b.1 ⊔ b.2

/-- No row lowers a value. -/
def Rising (rows : List (κ × β)) (read : κ → β) : Prop :=
  ∀ pre row post, rows = pre ++ row :: post →
    mergeRows pre read ≤ mergeRows (pre ++ [row]) read

omit [DecidableEq β] in
theorem joined_concat : joined (rows ++ [row]) read k =
    if row.1 = k then joined rows read k ⊔ row.2 else joined rows read k := by
  unfold joined
  split_ifs with h <;> simp [h]

omit [DecidableEq β] in
theorem joined_append : joined (direct ++ mapped) read = joined mapped (joined direct read) := by
  ext k
  simp [joined]

theorem mergeRows_concat :
    mergeRows (rows ++ [row]) read = mergeRow read (mergeRows rows read) row :=
  List.foldl_concat ..

omit [DecidableEq β] in
theorem le_joined : read k ≤ joined rows read k := by
  induction rows using List.reverseRecOn with
  | nil => exact le_refl _
  | append_singleton rows row ih =>
    rw [joined_concat]
    split_ifs
    · exact ih.trans le_sup_left
    · exact ih

omit [DecidableEq β] in
theorem le_joined_of_mem (h : row ∈ rows) : row.2 ≤ joined rows read row.1 := by
  induction rows using List.reverseRecOn with
  | nil => exact absurd h List.not_mem_nil
  | append_singleton rows last ih =>
    rw [joined_concat]
    rcases List.mem_append.mp h with h | h
    · split_ifs
      · exact (ih h).trans le_sup_left
      · exact ih h
    · obtain rfl := List.mem_singleton.mp h
      rw [if_pos rfl]
      exact le_sup_right

omit [DecidableEq β] in
theorem joined_le {b : β} (hread : read k ≤ b) (h : ∀ row ∈ rows, row.1 = k → row.2 ≤ b) :
    joined rows read k ≤ b := by
  induction rows using List.reverseRecOn with
  | nil => exact hread
  | append_singleton rows row ih =>
    have hrows := ih fun r hr => h r (List.mem_append_left _ hr)
    rw [joined_concat]
    split_ifs with hkey
    · exact sup_le hrows (h row (by simp) hkey)
    · exact hrows

omit [DecidableEq κ] [DecidableEq β] in
theorem Agree.of_perm {rows' : List (κ × β)} (h : Agree rows read) (hperm : rows'.Perm rows) :
    Agree rows' read := fun a ha b hb =>
  h a (hperm.mem_iff.mp ha) b (hperm.mem_iff.mp hb)

omit [DecidableEq κ] [DecidableEq β] in
theorem Agree.of_sublist {rows' : List (κ × β)} (h : Agree rows read) (hsub : rows'.Sublist rows) :
    Agree rows' read := fun a ha b hb => h a (hsub.subset ha) b (hsub.subset hb)

omit [DecidableEq β] in
theorem joined_perm {rows' : List (κ × β)} (hperm : rows'.Perm rows) :
    joined rows' read = joined rows read := by
  ext k
  refine le_antisymm (joined_le le_joined ?_) (joined_le le_joined ?_)
  · rintro row hrow rfl
    exact le_joined_of_mem (hperm.mem_iff.mp hrow)
  · rintro row hrow rfl
    exact le_joined_of_mem (hperm.mem_iff.mpr hrow)

/-- A loop whose writing rows agree is a join. -/
theorem Agree.mergeRows_eq (h : Agree rows read) : mergeRows rows read = joined rows read := by
  induction rows using List.reverseRecOn with
  | nil => rfl
  | append_singleton rows row ih =>
    rw [mergeRows_concat, ih (h.of_sublist (List.sublist_append_left ..)), mergeRow]
    ext k
    rw [joined_concat]
    split_ifs with hsame hkey hkey
    · subst hkey
      exact (sup_eq_left.mpr ((sup_eq_left.mp hsame).trans le_joined)).symm
    · rfl
    · subst hkey
      rw [Function.update_self]
      refine le_antisymm (sup_le_sup_right le_joined _) (sup_le ?_ le_sup_right)
      refine joined_le le_sup_left fun other hother hkey => ?_
      by_cases hraises : Raises read other
      · rw [← h other (List.mem_append_left _ hother) row (by simp) hkey hraises hsame]
        exact le_sup_right
      · have hold : other.2 ≤ read other.1 := sup_eq_left.mp (not_not.mp hraises)
        exact (hkey ▸ hold).trans le_sup_left
    · rw [Function.update_of_ne (Ne.symm hkey)]

theorem Agree.rising (h : Agree rows read) : Rising rows read := by
  rintro pre row post rfl
  have hnext : Agree (pre ++ [row]) read := h.of_sublist (by simp)
  rw [hnext.mergeRows_eq, (hnext.of_sublist (List.sublist_append_left ..)).mergeRows_eq]
  intro k
  rw [joined_concat]
  split_ifs
  · exact le_sup_left
  · exact le_refl _

/-- Rows whose values are already there change nothing. -/
theorem mergeRows_eq_self (h : ∀ row ∈ rows, row.2 ≤ read row.1) : mergeRows rows read = read := by
  induction rows using List.reverseRecOn with
  | nil => rfl
  | append_singleton rows row ih =>
    rw [mergeRows_concat, mergeRow, if_pos (sup_eq_left.mpr (h row (by simp)))]
    exact ih fun r hr => h r (List.mem_append_left _ hr)

/-- Two rows of a key that write different values lower it in one of their two orders. -/
theorem agree_of_rising (h : ∀ rows', rows'.Perm rows → Rising rows' read) : Agree rows read := by
  have hle : ∀ a ∈ rows, ∀ b ∈ rows, a.1 = b.1 → Raises read a → Raises read b →
      read a.1 ⊔ a.2 ≤ read b.1 ⊔ b.2 := by
    intro a ha b hb hkey hra hrb
    by_cases hab : a = b
    · rw [hab]
    · have hfront : rows.Perm (a :: b :: (rows.erase a).erase b) :=
        (List.perm_cons_erase ha).trans
          ((List.perm_cons_erase ((List.mem_erase_of_ne (Ne.symm hab)).mpr hb)).cons a)
      have hstep := h _ hfront.symm [a] b _ rfl b.1
      rw [mergeRows_concat] at hstep
      simp only [mergeRows, List.foldl_cons, List.foldl_nil, mergeRow] at hstep
      rw [if_neg hra, if_neg hrb, Function.update_self, ← hkey, Function.update_self] at hstep
      rwa [hkey] at hstep ⊢
  exact fun a ha b hb hkey hra hrb =>
    le_antisymm (hle a ha b hb hkey hra hrb) (hle b hb a ha hkey.symm hrb hra)

/-! ## Rows of a select

The rows that a loop goes through come in any order, and some of them have no incoming value. -/

section Selected

variable {ω τ : Type*} {f : ω → Option τ} {ws : List ω}

/-- An order of the values that are found is one of an order of the rows. -/
theorem exists_perm_filterMap {ts : List τ} (h : ts.Perm (ws.filterMap f)) :
    ∃ ws' : List ω, ws'.Perm ws ∧ ws'.filterMap f = ts := by
  induction ts generalizing ws with
  | nil => exact ⟨ws, List.Perm.refl _, h.symm.eq_nil⟩
  | cons t ts ih =>
    obtain ⟨w, hw, ht⟩ := List.mem_filterMap.mp (h.subset List.mem_cons_self)
    obtain ⟨pre, post, rfl⟩ := List.append_of_mem hw
    have hmiddle : (w :: (pre ++ post)).Perm (pre ++ w :: post) := List.perm_middle.symm
    have hcons := h.trans (hmiddle.filterMap f).symm
    rw [List.filterMap_cons_some ht] at hcons
    obtain ⟨ws', hperm, hws'⟩ := ih hcons.cons_inv
    exact ⟨w :: ws', (hperm.cons w).trans hmiddle, by rw [List.filterMap_cons_some ht, hws']⟩

variable {g : ω → Option (κ × β)} {vs : List ω}

/-- Rows without a value lower nothing. -/
theorem rising_filterMap_iff : Rising (vs.filterMap g) read ↔
    ∀ pre v post, vs = pre ++ v :: post →
      mergeRows (pre.filterMap g) read ≤ mergeRows ((pre ++ [v]).filterMap g) read := by
  constructor
  · rintro h pre v post rfl
    rw [List.filterMap_append]
    cases hv : g v with
    | none => rw [List.filterMap_cons_none hv, List.filterMap_nil, List.append_nil]
    | some row =>
      rw [List.filterMap_cons_some hv, List.filterMap_nil]
      exact h _ row (post.filterMap g) (by
        rw [List.filterMap_append, List.filterMap_cons_some hv])
  · intro h pre row post hsplit
    obtain ⟨vs₁, vs₂, rfl, rfl, hrest⟩ := List.filterMap_eq_append_iff.mp hsplit
    obtain ⟨skipped, v, vs₃, rfl, hskipped, hv, rfl⟩ := List.filterMap_eq_cons_iff.mp hrest
    have hnone : skipped.filterMap g = [] := List.filterMap_eq_nil_iff.mpr hskipped
    have hstep := h (vs₁ ++ skipped) v vs₃ (by simp)
    simpa [List.filterMap_append, hnone, List.filterMap_cons_some hv] using hstep

end Selected

/-! ## Two loops -/

/-- Two loops, the second of which reads what the first has left: neither lowers a value, in the
end there are the joins, and the same again changes nothing. -/
def Merges (direct mapped : List (κ × β)) (read : κ → β) : Prop :=
  Rising direct read ∧ Rising mapped (mergeRows direct read) ∧
    mergeRows mapped (mergeRows direct read) = joined (direct ++ mapped) read ∧
    mergeRows mapped (mergeRows direct (mergeRows mapped (mergeRows direct read))) =
      mergeRows mapped (mergeRows direct read)

/-- Two loops merge in every order of their rows when the writing rows of each agree. -/
theorem merges_iff :
    (∀ direct' mapped', direct'.Perm direct → mapped'.Perm mapped →
      Merges direct' mapped' read) ↔
    Agree direct read ∧ Agree mapped (joined direct read) := by
  constructor
  · intro h
    have hdirect : Agree direct read :=
      agree_of_rising fun direct' hperm => (h direct' mapped hperm (List.Perm.refl _)).1
    refine ⟨hdirect, agree_of_rising fun mapped' hperm => ?_⟩
    rw [← hdirect.mergeRows_eq]
    exact (h direct mapped' (List.Perm.refl _) hperm).2.1
  · rintro ⟨hdirect, hmapped⟩ direct' mapped' hdirect' hmapped'
    have hfirst := hdirect.of_perm hdirect'
    have hsecond : Agree mapped' (mergeRows direct' read) := by
      rw [hfirst.mergeRows_eq, joined_perm hdirect']
      exact hmapped.of_perm hmapped'
    have hend : mergeRows mapped' (mergeRows direct' read) = joined (direct' ++ mapped') read := by
      rw [hsecond.mergeRows_eq, hfirst.mergeRows_eq, joined_append]
    refine ⟨hfirst.rising, hsecond.rising, hend, ?_⟩
    have hagain : mergeRows direct' (joined (direct' ++ mapped') read) =
        joined (direct' ++ mapped') read :=
      mergeRows_eq_self fun row hrow => le_joined_of_mem (List.mem_append_left _ hrow)
    rw [hend, hagain]
    exact mergeRows_eq_self fun row hrow => le_joined_of_mem (List.mem_append_right _ hrow)

end MediaMasterr.Foundations.StaleMerges
