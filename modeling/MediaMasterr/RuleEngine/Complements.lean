import MediaMasterr.Foundations.FloatOrder
import MediaMasterr.Foundations.Loops
import MediaMasterr.RuleEngine.Agreement

/-! # Negated operators

The pairs of operators that negate each other, and what `_matches_operator`
answers on the two members of a pair: complementary answers where the pair is
defined, `False` twice where it is not, and an exception on both where a value
cannot be coerced. -/

namespace MediaMasterr.RuleEngine

open MediaMasterr.Foundations

inductive OperatorPair where
  | equals
  | in
  | containsAny
  | containsAll
  | containsSubstring
  | exists
  | before
  | after
  | greaterThan
  | lessThan
  deriving DecidableEq

namespace OperatorPair

def positive : OperatorPair → String
  | equals => "equals"
  | «in» => "in"
  | containsAny => "contains_any"
  | containsAll => "contains_all"
  | containsSubstring => "contains_substring"
  | «exists» => "exists"
  | before => "before"
  | after => "after"
  | greaterThan => "greater_than"
  | lessThan => "less_than"

def negative : OperatorPair → String
  | equals => "not_equals"
  | «in» => "not_in"
  | containsAny => "not_contains_any"
  | containsAll => "not_contains_all"
  | containsSubstring => "not_contains_substring"
  | «exists» => "not_exists"
  | before => "on_or_after"
  | after => "on_or_before"
  | greaterThan => "less_than_or_equal"
  | lessThan => "greater_than_or_equal"

end OperatorPair

/-- Some value of the list is not blank. -/
def PyValue.NonEmpty (value : PyValue) : Prop := ∃ item ∈ value.asList, item.exists = true

/-- Both sides of a scalar comparison are present. -/
def BothPresent (actual expected : PyValue) : Prop :=
  actual.firstScalar.isNone = false ∧ expected.firstScalar.isNone = false

/-- Whether every value of the list can be hashed. -/
def PyValue.Hashable (value : PyValue) : Prop := ∀ item ∈ value.asList, item.hashable = true

/-- `astimezone(UTC)` returns. -/
def PyValue.UtcConvertible (value : PyValue) : Prop :=
  ∀ t, value = .datetime t → ∃ utc, t.toUtc = .ok utc

namespace PythonRuntime

variable (py : PythonRuntime)

/-- `float(n)` returns. -/
def FloatConvertible (value : PyValue) : Prop :=
  ∀ n, value = .int n → ∃ x, py.floatOfInt n = some x

section Pair

variable (field : String) (actual expected : PyValue)

/-- The values that a list operator compares are not empty: the expected ones, and for a
language or country field the actual ones too. -/
def ListDefined : Prop :=
  if field ∈ languageFields then
    (∃ codes, py.normalizedLanguageValues actual = .ok codes ∧ codes ≠ []) ∧
      ∃ codes, py.normalizedLanguageValues expected = .ok codes ∧ codes ≠ []
  else if field ∈ countryFields then
    py.normalizedCountryValues actual ≠ [] ∧ py.normalizedCountryValues expected ≠ []
  else expected.NonEmpty

/-- Both dates can be read. -/
def DatesDefined : Prop :=
  ∃ left right, py.dateValue actual.firstScalar = .ok (some left) ∧
    py.dateValue expected.firstScalar = .ok (some right)

/-- Both numbers can be read, and they are comparable. -/
def NumbersDefined : Prop :=
  ∃ left right, py.number actual.firstScalar = .ok (some left) ∧
    py.number expected.firstScalar = .ok (some right) ∧
    left.isNaN = false ∧ right.isNaN = false

/-- The evaluation of the pair is defined. -/
def Defined : OperatorPair → Prop
  | .exists => True
  | .in | .containsAny | .containsAll => py.ListDefined field actual expected
  | .containsSubstring => expected.NonEmpty
  | .equals =>
    if field ∈ multiValueTextFields then py.ListDefined field actual expected
    else BothPresent actual expected
  | .before | .after => py.DatesDefined actual expected
  | .greaterThan | .lessThan => py.NumbersDefined actual expected

/-- The list values of a language field can be hashed. -/
def ListConverts : Prop := field ∈ languageFields → actual.Hashable ∧ expected.Hashable

/-- No integer of a scalar comparison is too large for a `float`. -/
def NumbersConvert : Prop :=
  BothPresent actual expected →
    py.FloatConvertible actual.firstScalar ∧ py.FloatConvertible expected.firstScalar

/-- The values that the pair coerces can be coerced. -/
def Converts : OperatorPair → Prop
  | .exists => field ∈ languageFields → actual.Hashable
  | .in | .containsAny | .containsAll => ListConverts field actual expected
  | .containsSubstring => True
  | .equals =>
    if field ∈ multiValueTextFields then ListConverts field actual expected
    else field ≠ "media.path" → py.NumbersConvert actual expected
  | .before | .after =>
    actual.firstScalar.UtcConvertible ∧ expected.firstScalar.UtcConvertible
  | .greaterThan | .lessThan => py.NumbersConvert actual expected

/-- The two members of the pair never both return `True`; exactly one does where the pair is
defined, and elsewhere both return `False`. -/
structure Complementary (pair : OperatorPair) : Prop where
  notBoth : ¬(py.matchesOperator field actual pair.positive expected = .ok true ∧
    py.matchesOperator field actual pair.negative expected = .ok true)
  exactlyOne : py.Defined field actual expected pair →
    Xor (py.matchesOperator field actual pair.positive expected = .ok true)
      (py.matchesOperator field actual pair.negative expected = .ok true)
  neither : ¬py.Defined field actual expected pair →
    py.matchesOperator field actual pair.positive expected = .ok false ∧
      py.matchesOperator field actual pair.negative expected = .ok false

end Pair

/-- The answers of the two members, by whether the values can be coerced and whether the
evaluation is defined. -/
structure PairAnswers (converts defined : Prop) (positive negative : Except PyError Bool) :
    Prop where
  complement : converts → defined → ∃ b, positive = .ok b ∧ negative = .ok !b
  neither : converts → ¬defined → positive = .ok false ∧ negative = .ok false
  raise : ¬converts → (∃ err, positive = .error err) ∧ ∃ err, negative = .error err

variable {py} {field : String} {actual expected : PyValue}

theorem complementary_iff_of_pairAnswers {pair : OperatorPair}
    (h : PairAnswers (py.Converts field actual expected pair)
      (py.Defined field actual expected pair)
      (py.matchesOperator field actual pair.positive expected)
      (py.matchesOperator field actual pair.negative expected)) :
    py.Complementary field actual expected pair ↔ py.Converts field actual expected pair := by
  constructor
  · intro hcomplementary
    by_contra hraise
    obtain ⟨⟨err, hpositive⟩, err', hnegative⟩ := h.raise hraise
    by_cases hdefined : py.Defined field actual expected pair
    · have hxor := hcomplementary.exactlyOne hdefined
      rw [hpositive, hnegative] at hxor
      simp [Xor] at hxor
    · have hneither := (hcomplementary.neither hdefined).1
      rw [hpositive] at hneither
      cases hneither
  · intro hconverts
    by_cases hdefined : py.Defined field actual expected pair
    · obtain ⟨b, hpositive, hnegative⟩ := h.complement hconverts hdefined
      refine ⟨?_, fun _ => ?_, fun hnot => absurd hdefined hnot⟩
      · rw [hpositive, hnegative]
        cases b <;> simp
      · rw [hpositive, hnegative]
        cases b <;> simp [Xor]
    · obtain ⟨hpositive, hnegative⟩ := h.neither hconverts hdefined
      refine ⟨?_, fun hyes => absurd hyes hdefined, fun _ => ⟨hpositive, hnegative⟩⟩
      rw [hpositive]
      simp

/-! ## Coercions -/

theorem number_returns_iff {value : PyValue} :
    (∃ x, py.number value = .ok x) ↔ py.FloatConvertible value := by
  cases value with
  | int n => cases hfloat : py.floatOfInt n <;> simp [number, FloatConvertible, hfloat]
  | _ => simp [number, FloatConvertible]

variable (py) in
theorem dateValue_returns_iff {value : PyValue} :
    (∃ d, py.dateValue value = .ok d) ↔ value.UtcConvertible := by
  cases value with
  | datetime t => cases hutc :
    t.toUtc <;> simp [dateValue, PyValue.UtcConvertible, hutc, Except.map]
  | str s =>
    simp only [dateValue, PyValue.UtcConvertible]
    split_ifs with hblank
    · simp
    · cases py.dateFromIsoformat (PythonText.strip s) <;> simp
  | _ => simp [dateValue, PyValue.UtcConvertible]

variable (py) in
theorem normalizeLanguage_returns_iff (value : PyValue) :
    (∃ code, py.normalizeLanguage value = .ok code) ↔ value.hashable = true := by
  unfold normalizeLanguage
  by_cases hhash : value.hashable = true
  · simp only [hhash, Bool.not_true, Bool.false_eq_true, if_false, iff_true]
    repeat' split
    all_goals exact ⟨_, rfl⟩
  · simp [hhash]

variable (py) in
theorem normalizedLanguageValues_returns_iff {value : PyValue} :
    (∃ codes, py.normalizedLanguageValues value = .ok codes) ↔ value.Hashable := by
  have hcodes : (∃ codes, value.asList.mapM py.normalizeLanguage = .ok codes) ↔ value.Hashable := by
    rw [Loops.mapM_eq_ok_iff]
    simp only [normalizeLanguage_returns_iff, PyValue.Hashable]
  rw [← hcodes, normalizedLanguageValues]
  cases value.asList.mapM py.normalizeLanguage <;> simp [bind, Except.bind, pure, Except.pure]

/-! ## The answers of a pair -/

theorem nonEmpty_iff {value : PyValue} :
    value.NonEmpty ↔ value.asList.filter PyValue.exists ≠ [] := by
  simp [PyValue.NonEmpty, List.filter_eq_nil_iff]

variable (py actual expected) in
/-- A path operator is defined on every list of expected paths that is not empty. -/
theorem matchesPathList_pair {positive negative : String}
    (hverdict : ∀ hasAny hasAll,
      listVerdict negative hasAny hasAll = !listVerdict positive hasAny hasAll) :
    (expected.NonEmpty → py.matchesPathList actual negative expected =
        !py.matchesPathList actual positive expected) ∧
      (¬expected.NonEmpty → py.matchesPathList actual positive expected = false ∧
        py.matchesPathList actual negative expected = false) := by
  rw [nonEmpty_iff]
  unfold matchesPathList
  constructor
  · intro hexpected
    simp [hexpected, hverdict]
  · intro hexpected
    simp only [ne_eq, not_not] at hexpected
    simp [hexpected]

theorem listValues_returns_iff {value : PyValue} :
    (∃ values, py.listValues field value = .ok values) ↔
      (field ∈ languageFields → value.Hashable) := by
  unfold listValues
  split_ifs with hlanguage hcountry
  · simp [hlanguage, normalizedLanguageValues_returns_iff]
  · simp [hlanguage]
  · simp [hlanguage]

/-- The two value sets of a list operator, and when its evaluation is defined on them. -/
theorem listDefined_iff {actualValues expectedValues : List String}
    (hactual : py.listValues field actual = .ok actualValues)
    (hexpected : py.listValues field expected = .ok expectedValues) :
    py.ListDefined field actual expected ↔
      ¬(field ∈ failClosedListFields ∧ (actualValues = [] ∨ expectedValues = [])) ∧
        expectedValues ≠ [] := by
  unfold ListDefined
  unfold listValues at hactual hexpected
  split_ifs at hactual hexpected ⊢ with hlanguage hcountry
  · have hfail : field ∈ failClosedListFields := List.mem_append_left _ hlanguage
    simp [hactual, hexpected, hfail]
  · have hfail : field ∈ failClosedListFields := List.mem_append_right _ hcountry
    rw [Except.ok.injEq] at hactual hexpected
    simp [hactual, hexpected, hfail]
  · have hfail : field ∉ failClosedListFields := by
      rw [failClosedListFields, List.mem_append]
      tauto
    rw [Except.ok.injEq] at hexpected
    rw [nonEmpty_iff, ← hexpected]
    simp [hfail]

/-- Complementary verdicts on lists: the same values are compared for both operators. -/
theorem matchesListOperator_pairAnswers {positive negative : String}
    (hverdict : ∀ hasAny hasAll,
      listVerdict negative hasAny hasAll = !listVerdict positive hasAny hasAll) :
    PairAnswers (ListConverts field actual expected) (py.ListDefined field actual expected)
      (py.matchesListOperator field actual positive expected)
      (py.matchesListOperator field actual negative expected) := by
  unfold matchesListOperator
  by_cases hpath : field = "media.path"
  · subst hpath
    have hdefined : py.ListDefined "media.path" actual expected ↔ expected.NonEmpty := by
      simp [ListDefined, languageFields, countryFields]
    have hconverts : ListConverts "media.path" actual expected := by
      simp [ListConverts, languageFields]
    obtain ⟨hcomplement, hneither⟩ := matchesPathList_pair py actual expected hverdict
    simp only [if_true, hdefined]
    refine ⟨fun _ hne => ⟨_, rfl, congrArg Except.ok (hcomplement hne)⟩, fun _ hempty => ?_,
      fun hnot => absurd hconverts hnot⟩
    rw [(hneither hempty).1, (hneither hempty).2]
    exact ⟨rfl, rfl⟩
  · have hconverts : ListConverts field actual expected ↔
        (∃ values, py.listValues field actual = .ok values) ∧
          ∃ values, py.listValues field expected = .ok values := by
      rw [listValues_returns_iff, listValues_returns_iff, ListConverts]
      tauto
    rw [hconverts]
    simp only [hpath, if_false]
    cases hactual : py.listValues field actual with
    | error err => constructor <;> simp [bind, Except.bind]
    | ok actualValues =>
      cases hexpected : py.listValues field expected with
      | error err => constructor <;> simp [bind, Except.bind]
      | ok expectedValues =>
        rw [listDefined_iff hactual hexpected]
        simp only [bind, Except.bind, pure, Except.pure]
        split_ifs with hfail hempty
        · constructor <;> simp [hfail]
        · constructor <;> simp [hempty]
        · exact ⟨fun _ _ => ⟨_, rfl, congrArg Except.ok (hverdict _ _)⟩,
            fun _ hnot => absurd ⟨hfail, hempty⟩ hnot, by simp⟩

theorem matchesSubstring_pairAnswers :
    PairAnswers True expected.NonEmpty
      (.ok (py.matchesSubstring actual "contains_substring" expected))
      (.ok (py.matchesSubstring actual "not_contains_substring" expected)) := by
  rw [nonEmpty_iff]
  unfold matchesSubstring
  constructor
  · intro _ hexpected
    simp [hexpected]
  · intro _ hexpected
    simp only [ne_eq, not_not] at hexpected
    simp [hexpected]
  · simp

/-- Dates are totally ordered. -/
theorem matchesTemporal_pairAnswers {positive negative : String}
    (hpair : positive = "before" ∧ negative = "on_or_after" ∨
      positive = "after" ∧ negative = "on_or_before") :
    PairAnswers (actual.firstScalar.UtcConvertible ∧ expected.firstScalar.UtcConvertible)
      (py.DatesDefined actual expected) (py.matchesTemporal actual positive expected)
      (py.matchesTemporal actual negative expected) := by
  rw [← dateValue_returns_iff py, ← dateValue_returns_iff py]
  unfold matchesTemporal DatesDefined
  cases hleft : py.dateValue actual.firstScalar with
  | error err => constructor <;> simp [bind, Except.bind]
  | ok left =>
    cases hright : py.dateValue expected.firstScalar with
    | error err => constructor <;> simp [bind, Except.bind]
    | ok right =>
      cases left with
      | none => constructor <;> simp [bind, Except.bind, pure, Except.pure]
      | some left =>
        cases right with
        | none => constructor <;> simp [bind, Except.bind, pure, Except.pure]
        | some right =>
          constructor
          · rintro - -
            have hswap (m n : Nat) : decide (n ≤ m) = !decide (m < n) := by
              rw [← decide_not]
              exact decide_eq_decide.mpr not_lt.symm
            obtain ⟨rfl, rfl⟩ | ⟨rfl, rfl⟩ := hpair
            · exact ⟨decide (left < right), by simp [bind, Except.bind, pure, Except.pure],
                by simp [bind, Except.bind, pure, Except.pure, hswap]⟩
            · exact ⟨decide (right < left), by simp [bind, Except.bind, pure, Except.pure],
                by simp [bind, Except.bind, pure, Except.pure, hswap]⟩
          · simp
          · simp

theorem scalarEquals_returns_iff {left right : PyValue} :
    (∃ b, py.scalarEquals left right = .ok b) ↔
      py.FloatConvertible left ∧ py.FloatConvertible right := by
  rw [← number_returns_iff, ← number_returns_iff]
  unfold scalarEquals
  cases py.number left with
  | error err => simp [bind, Except.bind]
  | ok l =>
    cases py.number right with
    | error err => simp [bind, Except.bind]
    | ok r => cases l <;> cases r <;> simp [bind, Except.bind, pure, Except.pure]

/-- Text and numbers are equal or not, once both sides are present and convert. -/
theorem matchesScalar_equals_pairAnswers :
    PairAnswers (field ≠ "media.path" → py.NumbersConvert actual expected)
      (BothPresent actual expected) (py.matchesScalar field actual "equals" expected)
      (py.matchesScalar field actual "not_equals" expected) := by
  unfold matchesScalar NumbersConvert
  by_cases hpresent : BothPresent actual expected
  · have habsent : ¬(actual.firstScalar.isNone = true ∨ expected.firstScalar.isNone = true) := by
      rw [hpresent.1, hpresent.2]
      simp
    simp only [habsent, if_false, if_true, hpresent, forall_const]
    by_cases hpath : field = "media.path"
    · constructor <;> simp [hpath]
    · rw [← scalarEquals_returns_iff]
      cases hequals : py.scalarEquals actual.firstScalar expected.firstScalar with
      | error err => constructor <;> simp [hpath, Except.map]
      | ok b => constructor <;> simp [hpath, Except.map]
  · have habsent : actual.firstScalar.isNone = true ∨ expected.firstScalar.isNone = true := by
      unfold BothPresent at hpresent
      simpa only [not_and_or, Bool.not_eq_false] using hpresent
    constructor <;> simp [habsent, hpresent]

/-- Two numbers that are not NaN are in order or not; with a NaN no ordering operator holds. -/
theorem matchesOrder_pairAnswers {left right : PyValue} {positive negative : String}
    (hpair : positive = "greater_than" ∧ negative = "less_than_or_equal" ∨
      positive = "less_than" ∧ negative = "greater_than_or_equal") :
    PairAnswers (py.FloatConvertible left ∧ py.FloatConvertible right)
      (∃ l r, py.number left = .ok (some l) ∧ py.number right = .ok (some r) ∧
        l.isNaN = false ∧ r.isNaN = false)
      (py.matchesOrder left positive right) (py.matchesOrder left negative right) := by
  rw [← number_returns_iff, ← number_returns_iff]
  unfold matchesOrder
  cases hleft : py.number left with
  | error err => constructor <;> simp [bind, Except.bind]
  | ok leftNumber =>
    cases hright : py.number right with
    | error err => constructor <;> simp [bind, Except.bind]
    | ok rightNumber =>
      cases leftNumber with
      | none => constructor <;> simp [bind, Except.bind, pure, Except.pure]
      | some l =>
        cases rightNumber with
        | none => constructor <;> simp [bind, Except.bind, pure, Except.pure]
        | some r =>
          simp only [Except.ok.injEq, Option.some.injEq, exists_and_left, exists_eq_left']
          constructor
          · rintro - ⟨hl, hr⟩
            have hswap {x y : Float} (hx : x.isNaN = false) (hy : y.isNaN = false) :
                decide (y ≤ x) = !decide (x < y) := by
              rw [← decide_not]
              exact decide_eq_decide.mpr
                (not_iff_comm.mp (FloatOrder.lt_iff_not_le hx hy).symm).symm
            obtain ⟨rfl, rfl⟩ | ⟨rfl, rfl⟩ := hpair
            · exact ⟨decide (r < l), by simp [bind, Except.bind, pure, Except.pure],
                by simp [bind, Except.bind, pure, Except.pure, hswap hr hl]⟩
            · exact ⟨decide (l < r), by simp [bind, Except.bind, pure, Except.pure],
                by simp [bind, Except.bind, pure, Except.pure, hswap hl hr]⟩
          · rintro - hnan
            have hnan : l.isNaN = true ∨ r.isNaN = true := by
              simpa only [not_and_or, Bool.not_eq_false] using hnan
            have hlt := FloatOrder.not_lt_of_isNaN hnan
            have hgt := FloatOrder.not_lt_of_isNaN hnan.symm
            have hle := FloatOrder.not_le_of_isNaN hnan
            have hge := FloatOrder.not_le_of_isNaN hnan.symm
            obtain ⟨rfl, rfl⟩ | ⟨rfl, rfl⟩ := hpair <;>
              simp [bind, Except.bind, pure, Except.pure, hlt, hgt, hle, hge]
          · simp

theorem matchesScalar_order_pairAnswers {positive negative : String}
    (hpair : positive = "greater_than" ∧ negative = "less_than_or_equal" ∨
      positive = "less_than" ∧ negative = "greater_than_or_equal") :
    PairAnswers (py.NumbersConvert actual expected) (py.NumbersDefined actual expected)
      (py.matchesScalar field actual positive expected)
      (py.matchesScalar field actual negative expected) := by
  have hscalar {operator : String} (hne : operator ≠ "equals") (hne' : operator ≠ "not_equals") :
      py.matchesScalar field actual operator expected =
        if actual.firstScalar.isNone ∨ expected.firstScalar.isNone then .ok false
        else py.matchesOrder actual.firstScalar operator expected.firstScalar := by
    simp only [matchesScalar, hne, hne', if_false]
  rw [hscalar (by obtain ⟨rfl, _⟩ | ⟨rfl, _⟩ := hpair <;> decide)
      (by obtain ⟨rfl, _⟩ | ⟨rfl, _⟩ := hpair <;> decide),
    hscalar (by obtain ⟨_, rfl⟩ | ⟨_, rfl⟩ := hpair <;> decide)
      (by obtain ⟨_, rfl⟩ | ⟨_, rfl⟩ := hpair <;> decide)]
  unfold NumbersConvert NumbersDefined
  by_cases hpresent : BothPresent actual expected
  · have habsent : ¬(actual.firstScalar.isNone = true ∨ expected.firstScalar.isNone = true) := by
      rw [hpresent.1, hpresent.2]
      simp
    simp only [habsent, if_false, hpresent, forall_const]
    exact matchesOrder_pairAnswers hpair
  · have habsent : actual.firstScalar.isNone = true ∨ expected.firstScalar.isNone = true := by
      unfold BothPresent at hpresent
      simpa only [not_and_or, Bool.not_eq_false] using hpresent
    have hundefined : ¬∃ l r, py.number actual.firstScalar = .ok (some l) ∧
        py.number expected.firstScalar = .ok (some r) ∧ l.isNaN = false ∧ r.isNaN = false := by
      rintro ⟨l, r, hl, hr, _⟩
      obtain h | h := habsent
      · cases hvalue : actual.firstScalar <;> simp_all [PyValue.isNone, number]
      · cases hvalue : expected.firstScalar <;> simp_all [PyValue.isNone, number]
    rw [if_pos habsent, if_pos habsent]
    exact ⟨fun _ h => absurd h hundefined, fun _ _ => ⟨rfl, rfl⟩,
      fun h => absurd (fun hp => absurd hp hpresent) h⟩

/-- The pair whose members the list operators are. -/
theorem listVerdict_pair {pair : OperatorPair}
    (hpair : pair = .in ∨ pair = .containsAny ∨ pair = .containsAll) (hasAny hasAll : Bool) :
    listVerdict pair.negative hasAny hasAll = !listVerdict pair.positive hasAny hasAll := by
  obtain rfl | rfl | rfl :=
    hpair <;> simp [listVerdict, OperatorPair.positive, OperatorPair.negative]

/-! ## Dispatch -/

section Dispatch

variable {operator : String} (havailable : actual.isUnavailable = false)

include havailable

theorem matchesOperator_list
    (h : operator = "in" ∨ operator = "not_in" ∨ operator = "contains_any" ∨
      operator = "not_contains_any" ∨ operator = "contains_all" ∨ operator = "not_contains_all") :
    py.matchesOperator field actual operator expected =
      py.matchesListOperator field actual operator expected := by
  obtain rfl | rfl | rfl | rfl | rfl | rfl := h <;>
    simp [matchesOperator, havailable, listOperators]

theorem matchesOperator_substring
    (h : operator = "contains_substring" ∨ operator = "not_contains_substring") :
    py.matchesOperator field actual operator expected =
      .ok (py.matchesSubstring actual operator expected) := by
  obtain rfl | rfl := h <;>
    simp [matchesOperator, havailable, listOperators, tagSubstringOperators]

theorem matchesOperator_temporal (h : operator ∈ temporalOperators) :
    py.matchesOperator field actual operator expected =
      py.matchesTemporal actual operator expected := by
  simp only [temporalOperators, List.mem_cons, List.not_mem_nil, or_false] at h
  obtain rfl | rfl | rfl | rfl := h <;>
    simp [matchesOperator, havailable, listOperators, tagSubstringOperators, temporalOperators]

theorem matchesOperator_order
    (h : operator = "greater_than" ∨ operator = "greater_than_or_equal" ∨ operator = "less_than" ∨
      operator = "less_than_or_equal") :
    py.matchesOperator field actual operator expected =
      py.matchesScalar field actual operator expected := by
  obtain rfl | rfl | rfl | rfl := h <;>
    simp [matchesOperator, havailable, listOperators, tagSubstringOperators, temporalOperators]

theorem matchesOperator_equals : py.matchesOperator field actual "equals" expected =
    if field ∈ multiValueTextFields then py.matchesListOperator field actual "contains_any" expected
    else py.matchesScalar field actual "equals" expected := by
  simp [matchesOperator, havailable, listOperators, tagSubstringOperators, temporalOperators]

theorem matchesOperator_notEquals : py.matchesOperator field actual "not_equals" expected =
    if field ∈ multiValueTextFields then
      py.matchesListOperator field actual "not_contains_any" expected
    else py.matchesScalar field actual "not_equals" expected := by
  simp [matchesOperator, havailable, listOperators, tagSubstringOperators, temporalOperators]

theorem matchesOperator_exists_pairAnswers :
    PairAnswers (field ∈ languageFields → actual.Hashable) True
      (py.matchesOperator field actual "exists" expected)
      (py.matchesOperator field actual "not_exists" expected) := by
  by_cases hlanguage : field ∈ languageFields
  · rw [← normalizedLanguageValues_returns_iff py]
    cases hcodes : py.normalizedLanguageValues actual with
    | error err => constructor <;> simp [matchesOperator, havailable, hlanguage, hcodes, Except.map]
    | ok codes =>
      constructor <;> simp [matchesOperator, havailable, hlanguage, hcodes, Except.map, em]
  · constructor <;> simp [matchesOperator, havailable, hlanguage]

theorem matchesOperator_pairAnswers (pair : OperatorPair) :
    PairAnswers (py.Converts field actual expected pair) (py.Defined field actual expected pair)
      (py.matchesOperator field actual pair.positive expected)
      (py.matchesOperator field actual pair.negative expected) := by
  cases pair with
  | equals =>
    simp only [OperatorPair.positive, OperatorPair.negative, Converts, Defined]
    rw [matchesOperator_equals havailable, matchesOperator_notEquals havailable]
    split_ifs
    · exact matchesListOperator_pairAnswers (listVerdict_pair (.inr (.inl rfl)))
    · exact matchesScalar_equals_pairAnswers
  | «in» =>
    rw [matchesOperator_list havailable (by simp [OperatorPair.positive]),
      matchesOperator_list havailable (by simp [OperatorPair.negative])]
    exact matchesListOperator_pairAnswers (listVerdict_pair (.inl rfl))
  | containsAny =>
    rw [matchesOperator_list havailable (by simp [OperatorPair.positive]),
      matchesOperator_list havailable (by simp [OperatorPair.negative])]
    exact matchesListOperator_pairAnswers (listVerdict_pair (.inr (.inl rfl)))
  | containsAll =>
    rw [matchesOperator_list havailable (by simp [OperatorPair.positive]),
      matchesOperator_list havailable (by simp [OperatorPair.negative])]
    exact matchesListOperator_pairAnswers (listVerdict_pair (.inr (.inr rfl)))
  | containsSubstring =>
    rw [matchesOperator_substring havailable (by simp [OperatorPair.positive]),
      matchesOperator_substring havailable (by simp [OperatorPair.negative])]
    exact matchesSubstring_pairAnswers
  | «exists» => exact matchesOperator_exists_pairAnswers havailable
  | before =>
    rw [matchesOperator_temporal havailable (by simp [OperatorPair.positive, temporalOperators]),
      matchesOperator_temporal havailable (by simp [OperatorPair.negative, temporalOperators])]
    exact matchesTemporal_pairAnswers (.inl ⟨rfl, rfl⟩)
  | after =>
    rw [matchesOperator_temporal havailable (by simp [OperatorPair.positive, temporalOperators]),
      matchesOperator_temporal havailable (by simp [OperatorPair.negative, temporalOperators])]
    exact matchesTemporal_pairAnswers (.inr ⟨rfl, rfl⟩)
  | greaterThan =>
    rw [matchesOperator_order havailable (by simp [OperatorPair.positive]),
      matchesOperator_order havailable (by simp [OperatorPair.negative])]
    exact matchesScalar_order_pairAnswers (.inl ⟨rfl, rfl⟩)
  | lessThan =>
    rw [matchesOperator_order havailable (by simp [OperatorPair.positive]),
      matchesOperator_order havailable (by simp [OperatorPair.negative])]
    exact matchesScalar_order_pairAnswers (.inr ⟨rfl, rfl⟩)

end Dispatch

/-- The operators of a pair are complements on an available value exactly when the values that
the pair coerces can be coerced. -/
theorem complementary_iff_converts (py : PythonRuntime) (field : String) (actual expected : PyValue)
    (pair : OperatorPair) (havailable : actual.isUnavailable = false) :
    py.Complementary field actual expected pair ↔ py.Converts field actual expected pair :=
  complementary_iff_of_pairAnswers (matchesOperator_pairAnswers havailable pair)

theorem complementary_iff_converts_fivePlays :
    plainRuntime.Complementary "playback.play_count" (.int fivePlays) (.int fivePlays) .lessThan ↔
      plainRuntime.Converts "playback.play_count" (.int fivePlays) (.int fivePlays) .lessThan :=
  complementary_iff_converts plainRuntime _ _ _ .lessThan rfl

/-- Five plays against `10 ** 400` plays: both orderings raise. -/
theorem not_complementary_hugeNumber :
    ¬plainRuntime.Complementary "playback.play_count" (.int fivePlays) (.int hugeNumber)
      .greaterThan := by
  rw [complementary_iff_of_pairAnswers (matchesOperator_pairAnswers rfl .greaterThan)]
  intro hconverts
  obtain ⟨x, hx⟩ := (hconverts ⟨rfl, rfl⟩).2 hugeNumber rfl
  have hnone : plainRuntime.floatOfInt hugeNumber = none := by decide +kernel
  rw [hnone] at hx
  cases hx

end PythonRuntime

end MediaMasterr.RuleEngine
