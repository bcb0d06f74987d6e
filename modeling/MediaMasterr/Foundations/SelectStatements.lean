import Mathlib.Data.List.Dedup
import Mathlib.Data.List.Sections
import MediaMasterr.Foundations.Buckets

/-! # Selections with joins, and pages of their rows

A statement selects rows of a table under inner joins, `WHERE` clauses in
three-valued logic and `DISTINCT`. A row is found once for every choice of one
joined row from each join; a count takes every choice, as `DISTINCT` then only
applies to the one number counted. Pages cut a list of rows into windows of
equal length. -/

namespace MediaMasterr.Foundations

/-- A join gives the rows that it pairs with a row of the table. -/
structure SelectStatement (α β : Type*) where
  joins : List (α → List β) := []
  clauses : List (α → Option Bool) := []
  isDistinct : Bool := false

namespace SelectStatement

variable {α β : Type*}

/-- `.where(clause)`. -/
def filter (s : SelectStatement α β) (clause : α → Option Bool) : SelectStatement α β :=
  { s with clauses := s.clauses ++ [clause] }

/-- `.join(table, on)`. -/
def join (s : SelectStatement α β) (joined : α → List β) : SelectStatement α β :=
  { s with joins := s.joins ++ [joined] }

/-- `.distinct()`. -/
def distinct (s : SelectStatement α β) : SelectStatement α β := { s with isDistinct := true }

/-- Every clause is true of the row. -/
def Meets (s : SelectStatement α β) (a : α) : Prop := ∀ clause ∈ s.clauses, clause a = some true

instance (s : SelectStatement α β) : DecidablePred s.Meets := fun _ =>
  inferInstanceAs (Decidable (∀ clause ∈ s.clauses, _))

/-- The choices of joined rows for a row. -/
def choices (s : SelectStatement α β) (a : α) : List (List β) := (s.joins.map (· a)).sections

/-- The rows that `FROM` and `WHERE` leave, each with the rows joined to it. -/
def found (s : SelectStatement α β) (table : List α) : List (α × List β) :=
  (table.filter s.Meets).flatMap fun a => (s.choices a).map (Prod.mk a)

/-- The rows of the table that are selected. -/
def rows [DecidableEq α] (s : SelectStatement α β) (table : List α) : List α :=
  if s.isDistinct then ((s.found table).map Prod.fst).dedup else (s.found table).map Prod.fst

/-- `SELECT count(*)`, also with `DISTINCT`. -/
def count (s : SelectStatement α β) (table : List α) : Nat := (s.found table).length

theorem length_sections_cons (l : List β) (L : List (List β)) :
    (l :: L).sections.length = L.sections.length * l.length := by
  simp [List.sections, List.length_flatMap, List.map_const']

theorem sections_eq_nil_iff (L : List (List β)) : L.sections = [] ↔ [] ∈ L := by
  induction L with
  | nil => simp [List.sections]
  | cons l L ih =>
    rw [← List.length_eq_zero_iff, length_sections_cons, Nat.mul_eq_zero, List.length_eq_zero_iff,
      List.length_eq_zero_iff, ih, List.mem_cons, or_comm, eq_comm]

theorem length_sections_eq_one_iff (L : List (List β)) :
    L.sections.length = 1 ↔ ∀ l ∈ L, l.length = 1 := by
  induction L with
  | nil => simp [List.sections]
  | cons l L ih =>
    rw [length_sections_cons, List.forall_mem_cons, ← ih]
    constructor
    · intro h
      exact ⟨Nat.eq_one_of_mul_eq_one_left h, Nat.eq_one_of_mul_eq_one_right h⟩
    · rintro ⟨hl, hL⟩
      rw [hl, hL]

theorem map_fst_found (s : SelectStatement α β) (table : List α) :
    (s.found table).map Prod.fst =
      (table.filter s.Meets).flatMap fun a => List.replicate (s.choices a).length a := by
  simp [found, List.map_flatMap, Function.comp_def, List.map_const']

theorem choices_eq_nil_iff (s : SelectStatement α β) (a : α) : s.choices a = [] ↔ ∃ j ∈ s.joins,
    j a = [] := by
  rw [choices, sections_eq_nil_iff, List.mem_map]

theorem choices_unique_iff (s : SelectStatement α β) (a : α) :
    (s.choices a).length ≤ 1 ↔ (∀ j ∈ s.joins, j a ≠ []) → ∀ j ∈ s.joins, (j a).length = 1 := by
  have hone : (s.choices a).length = 1 ↔ ∀ j ∈ s.joins, (j a).length = 1 := by
    rw [choices, length_sections_eq_one_iff, List.forall_mem_map]
  rw [Nat.le_one_iff_eq_zero_or_eq_one, hone, List.length_eq_zero_iff, choices_eq_nil_iff]
  constructor
  · rintro (⟨j, hj, hnil⟩ | h) hjoined
    · exact absurd hnil (hjoined j hj)
    · exact h
  · intro h
    by_cases hnil : ∃ j ∈ s.joins, j a = []
    · exact Or.inl hnil
    · exact Or.inr (h fun j hj hj' => hnil ⟨j, hj, hj'⟩)

section Rows

variable [DecidableEq α] (s : SelectStatement α β) (table : List α)

theorem dedup_rows : (s.rows table).dedup = ((s.found table).map Prod.fst).dedup := by
  unfold rows
  split_ifs
  · exact List.dedup_idem
  · rfl

theorem mem_rows_iff {a : α} :
    a ∈ s.rows table ↔ a ∈ table ∧ s.Meets a ∧ ∀ j ∈ s.joins, j a ≠ [] := by
  have hfound : a ∈ (s.found table).map Prod.fst ↔
      (a ∈ table ∧ s.Meets a) ∧ s.choices a ≠ [] := by
    simp [map_fst_found, List.mem_flatMap, List.mem_replicate, and_comm]
  rw [← List.mem_dedup, dedup_rows, List.mem_dedup, hfound, Ne, choices_eq_nil_iff, and_assoc]
  simp

/-- A count is the number of different rows exactly when no row that is selected has two rows in a
join. -/
theorem count_eq_iff (htable : table.Nodup) :
    s.count table = (s.rows table).dedup.length ↔
      ∀ a ∈ table, s.Meets a → (∀ j ∈ s.joins, j a ≠ []) → ∀ j ∈ s.joins, (j a).length = 1 := by
  have hcount : s.count table = ((s.found table).map Prod.fst).length :=
    by rw [List.length_map]; rfl
  have hnodup : s.count table = (s.rows table).dedup.length ↔
    ((s.found table).map Prod.fst).Nodup := by
    rw [hcount, dedup_rows, ← List.dedup_eq_self]
    constructor
    · intro h
      exact (List.dedup_sublist _).eq_of_length h.symm
    · intro h
      rw [h]
  have hpairwise : (table.filter s.Meets).Pairwise
      (Function.onFun List.Disjoint fun a => List.replicate (s.choices a).length a) := by
    refine (htable.filter _).imp fun {a b} hne c hc hc' => hne ?_
    rw [← List.eq_of_mem_replicate hc, List.eq_of_mem_replicate hc']
  rw [hnodup, map_fst_found, List.nodup_flatMap, and_iff_left hpairwise]
  simp only [List.mem_filter, decide_eq_true_eq, and_imp, List.nodup_replicate, choices_unique_iff]

/-- With a right count no row is listed twice. -/
theorem rows_nodup_of_count_eq (h : s.count table = (s.rows table).dedup.length) :
    (s.rows table).Nodup := by
  rw [dedup_rows, count, ← List.length_map (f := Prod.fst)] at h
  unfold rows
  split_ifs
  · exact List.nodup_dedup _
  · exact List.dedup_eq_self.mp ((List.dedup_sublist _).eq_of_length h.symm)

end Rows

end SelectStatement

/-! ## Pages -/

section Pages

variable {α : Type*}

/-- `.offset((page - 1) * perPage).limit(perPage)`. -/
def pageOf (perPage page : Nat) (rows : List α) : List α :=
  (rows.drop ((page - 1) * perPage)).take perPage

def totalPages (total perPage : Nat) : Nat := (total + perPage - 1) / perPage

theorem mem_pageOf_iff {perPage page : Nat} {rows : List α} {a : α} :
    a ∈ pageOf perPage page rows ↔
      ∃ i, (page - 1) * perPage ≤ i ∧ i < (page - 1) * perPage + perPage ∧ rows[i]? = some a := by
  rw [pageOf, List.mem_iff_getElem?]
  simp only [List.getElem?_take, List.getElem?_drop]
  constructor
  · rintro ⟨i, hi⟩
    split_ifs at hi with hlt
    exact ⟨_, Nat.le_add_right _ _, Nat.add_lt_add_left hlt _, hi⟩
  · rintro ⟨i, hle, hlt, hi⟩
    refine ⟨i - (page - 1) * perPage, ?_⟩
    rw [if_pos (by omega), Nat.add_sub_cancel' hle]
    exact hi

theorem lt_totalPages_iff {total perPage k : Nat} (hper : 0 < perPage) :
    k < totalPages total perPage ↔ k * perPage < total := by
  rw [totalPages, Nat.lt_iff_add_one_le, Nat.le_div_iff_mul_le hper, Nat.add_mul]
  omega

/-- The row at a position is on one page only, when no row is listed twice. -/
theorem existsUnique_page {perPage : Nat} {rows : List α} (hper : 0 < perPage) (hrows : rows.Nodup)
    {a : α} (ha : a ∈ rows) :
    ∃! page, (1 ≤ page ∧ page ≤ totalPages rows.length perPage) ∧ a ∈ pageOf perPage page rows := by
  obtain ⟨i, hi, rfl⟩ := List.mem_iff_getElem.mp ha
  have hmod := Nat.div_add_mod' i perPage
  have hlt := Nat.mod_lt i hper
  refine ⟨i / perPage + 1, ⟨⟨Nat.le_add_left _ _, ?_⟩, ?_⟩, ?_⟩
  · have hpage := (lt_totalPages_iff hper).mpr (show i / perPage * perPage < rows.length by omega)
    omega
  · refine mem_pageOf_iff.mpr ⟨i, ?_, ?_, List.getElem?_eq_getElem hi⟩ <;>
      rw [Nat.add_sub_cancel] <;> omega
  · rintro page ⟨⟨hpos, -⟩, hmem⟩
    obtain ⟨k, hle, hk, hget⟩ := mem_pageOf_iff.mp hmem
    obtain ⟨hlength, hget⟩ := List.getElem?_eq_some_iff.mp hget
    obtain rfl := (hrows.getElem_inj_iff).mp hget
    have hdiv : k / perPage = page - 1 := by
      rw [Nat.div_eq_iff hper]
      constructor <;> omega
    omega

theorem pageOf_ne_nil {perPage page : Nat} {rows : List α} (hper : 0 < perPage) (hpos : 1 ≤ page)
    (hpage : page ≤ totalPages rows.length perPage) : pageOf perPage page rows ≠ [] := by
  have hlt := (lt_totalPages_iff hper).mp (show page - 1 < totalPages rows.length perPage by omega)
  have hmem : rows[(page - 1) * perPage] ∈ pageOf perPage page rows :=
    mem_pageOf_iff.mpr ⟨_, Nat.le_refl _, by omega, List.getElem?_eq_getElem hlt⟩
  exact List.ne_nil_of_mem hmem

theorem flatMap_pageOf_take {perPage : Nat} (rows : List α) (n : Nat) :
    ((List.range n).flatMap fun i => pageOf perPage (i + 1) rows) = rows.take (n * perPage) := by
  induction n with
  | zero => simp
  | succ n ih =>
    rw [List.range_succ, List.flatMap_append, ih, List.flatMap_singleton, pageOf,
      Nat.add_sub_cancel, Nat.add_mul, Nat.one_mul, List.take_add]

/-- The pages one after the other are the rows. -/
theorem flatMap_pageOf {perPage : Nat} (hper : 0 < perPage) (rows : List α) :
    ((List.range (totalPages rows.length perPage)).flatMap fun i => pageOf perPage (i + 1) rows) =
      rows := by
  rw [flatMap_pageOf_take, List.take_of_length_le]
  by_contra hlt
  exact Nat.lt_irrefl _ ((lt_totalPages_iff hper).mpr (Nat.lt_of_not_le hlt))

end Pages

/-! ## Outer joins -/

section OuterJoins

variable {α β κ : Type*} [DecidableEq κ]

/-- `rows.outerjoin(table, on)`: every row with each row of the table that it meets, and alone when
there is none. -/
def outerJoin (on : α → β → Bool) (rows : List α) (table : List β) : List (α × Option β) :=
  rows.flatMap fun a =>
    match table.filter (on a) with
    | [] => [(a, none)]
    | found => found.map fun b => (a, some b)

/-- An outer join by a key of the table adds to every row the one row it meets, if any. -/
theorem outerJoin_eq_map (key : β → κ) (wanted : α → Option κ) (rows : List α) {table : List β}
    (h : (table.map key).Nodup) :
    outerJoin (fun a b => wanted a = some (key b)) rows table =
      rows.map fun a => (a, (wanted a).bind fun k => table.find? (key · = k)) := by
  rw [outerJoin, List.map_eq_flatMap]
  refine List.flatMap_congr fun a _ => ?_
  cases hwanted : wanted a with
  | none => simp
  | some k =>
    have hfound : table.filter (fun b => decide (some k = some (key b))) =
        (table.find? (key · = k)).toList := by
      rw [← filter_key_eq_toList key h]
      exact List.filter_congr fun b _ => by simp [eq_comm]
    simp only [hfound, Option.bind_some]
    cases table.find? (key · = k) <;> rfl

end OuterJoins

end MediaMasterr.Foundations
