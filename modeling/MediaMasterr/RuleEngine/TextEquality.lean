import Mathlib.Data.List.ReduceOption
import MediaMasterr.RuleEngine.Complements

/-! # Equality of texts

`equals e` and `in [e]` on texts: the scalar branch compares numbers before
texts and normalises a path once, the list branch compares texts only and
normalises a path twice. -/

namespace MediaMasterr.RuleEngine

open MediaMasterr.Foundations

namespace PythonRuntime

variable (py : PythonRuntime)

/-- What the code relies on of the interpreter's texts. -/
structure Lawful : Prop extends py.toCaseTables.Lawful where
  str_str : ∀ s, py.str (.str s) = s

/-- A text as a path, before its letters are lowered. -/
def pathText (s : String) (stripEndingSlash : Bool) : String :=
  let slashed := PythonText.replaceChar '\\' '/' (PythonText.strip s)
  if stripEndingSlash then PythonText.rstrip '/' slashed else slashed

section Texts

variable (field actual expected : String)

/-- The components of the expected path begin those of the actual one. -/
def PathBelow : Prop :=
  let actualPath := py.normalizeFpath (.str actual) false true
  let expectedPath := py.normalizeFpath (.str expected) true true
  actualPath ≠ "" ∧ expectedPath ≠ "" ∧
    expectedPath.toList.splitOn '/' <+: actualPath.toList.splitOn '/'

/-- Two texts of a field are equal: as paths, as languages, as country codes, or as texts without
regard to case and outer blanks. -/
def SameText : Prop :=
  if field = "media.path" then py.PathBelow actual expected
  else if field ∈ languageFields then
    ∃ code, py.normalizeLanguage (.str actual) = .ok (some code) ∧
      py.normalizeLanguage (.str expected) = .ok (some code)
  else if field ∈ countryFields then
    py.upper (PythonText.strip actual) = py.upper (PythonText.strip expected)
  else py.lower (PythonText.strip actual) = py.lower (PythonText.strip expected)

/-- The expected path, without its last slashes, does not end in a blank; texts of a field with
one value that both read as numbers are equal as numbers exactly when they are as texts. -/
def ReadsAlike : Prop :=
  if field = "media.path" then
    PythonText.strip (pathText expected true) = pathText expected true
  else
    field ∉ multiValueTextFields → ∀ x y, py.floatOfStr actual = some x →
      py.floatOfStr expected = some y →
        ((x == y) = true ↔ py.lower (PythonText.strip actual) = py.lower
          (PythonText.strip expected))

end Texts

variable {py} {field actual expected : String}

/-! ## Paths -/

theorem normalizeFpath_str (hpy : py.Lawful) (s : String) (stripEndingSlash : Bool) :
    py.normalizeFpath (.str s) stripEndingSlash true = py.lower (pathText s stripEndingSlash) := by
  have hempty : PythonText.strip s = "" → py.lower (pathText s stripEndingSlash) = "" := by
    intro hblank
    rw [hpy.lower_eq_empty, pathText, hblank]
    cases stripEndingSlash <;> rfl
  by_cases htruthy : s = ""
  · rw [hempty (by rw [htruthy]; rfl)]
    simp [normalizeFpath, PyValue.truthy, htruthy]
  · by_cases hblank : PythonText.strip s = ""
    · rw [hempty hblank]
      simp [normalizeFpath, hpy.str_str, hblank]
    · simp [normalizeFpath, PyValue.truthy, htruthy, hpy.str_str, hblank, pathText]

theorem strip_pathText (s : String) : PythonText.strip (pathText s false) = pathText s false := by
  have hslashes : PythonText.isSpace '\\' = false ∧ PythonText.isSpace '/' = false := by decide
  simp [pathText, PythonText.strip_replaceChar hslashes.1 hslashes.2]

theorem backslash_notMem_pathText (s : String) (stripEndingSlash : Bool) :
    '\\' ∉ (pathText s stripEndingSlash).toList := by
  have hslashed := PythonText.notMem_replaceChar (show '/' ≠ '\\' by decide) (PythonText.strip s)
  cases stripEndingSlash with
  | false => exact hslashed
  | true => exact PythonText.notMem_rstrip hslashed

/-- A normalised path that does not end in a blank is not changed by another normalisation. -/
theorem normalizeFpath_idem (hpy : py.Lawful) (s : String) (stripEndingSlash : Bool)
    (hstrip : PythonText.strip (pathText s stripEndingSlash) = pathText s stripEndingSlash) :
    py.normalizeFpath (.str
      (py.normalizeFpath (.str s) stripEndingSlash true)) stripEndingSlash true =
      py.normalizeFpath (.str s) stripEndingSlash true := by
  rw [normalizeFpath_str hpy s]
  generalize hn : py.lower (pathText s stripEndingSlash) = n
  have hblank : PythonText.strip n = n := by rw [← hn, hpy.strip_lower, hstrip]
  have hslash : PythonText.replaceChar '\\' '/' n = n := by
    apply PythonText.replaceChar_eq_self
    rw [← hn]
    exact fun hmem => backslash_notMem_pathText s stripEndingSlash (hpy.backslash_lower _ hmem)
  have hlower : py.lower n = n := by rw [← hn, hpy.lower_lower]
  rw [normalizeFpath_str hpy, pathText, hblank, hslash]
  cases stripEndingSlash with
  | false => exact hlower
  | true =>
    have hrstrip : PythonText.rstrip '/' n = n := by
      rw [← hn, hpy.rstrip_lower, pathText, if_pos rfl, PythonText.rstrip_rstrip]
    rw [if_pos rfl, hrstrip, hlower]

theorem matchesPathPrefix_iff :
    py.matchesPathPrefix (.str actual) (.str expected) = true ↔ py.PathBelow actual expected := by
  have hseparator (s : String) : (s ++ "/").toList = s.toList ++ ['/'] := by simp
  simp only [matchesPathPrefix, PathBelow, PythonText.splitOn_prefix_iff]
  split_ifs with hempty
  · simp only [false_iff]
    tauto
  · rw [Bool.or_eq_true, beq_iff_eq, PythonText.startsWith, List.isPrefixOf_iff_prefix, hseparator,
      String.toList_inj]
    tauto

/-- On a path that stays the same when it is normalised again, both branches agree. -/
theorem matchesPathList_singleton (hpy : py.Lawful) (hexpected : PythonText.strip expected ≠ "")
    (hreads : PythonText.strip (pathText expected true) = pathText expected true) :
    py.matchesPathList (.str actual) "in" (.list [.str expected]) =
      py.matchesPathPrefix (.str actual) (.str expected) := by
  have hagain : py.matchesPathPrefix (.str (py.normalizeFpath (.str actual) false true))
      (.str (py.normalizeFpath (.str expected) true true)) =
        py.matchesPathPrefix (.str actual) (.str expected) := by
    rw [matchesPathPrefix, matchesPathPrefix, normalizeFpath_idem hpy _ _ (strip_pathText _),
      normalizeFpath_idem hpy _ _ hreads]
  have hexists : (PyValue.str expected).exists = true := bne_iff_ne.mpr hexpected
  by_cases hactual : PythonText.strip actual = ""
  · have hempty : py.normalizeFpath (.str actual) false true = "" := by
      simp [normalizeFpath, hpy.str_str, hactual]
    have hmissing : (PyValue.str actual).exists = false := bne_eq_false_iff_eq.mpr hactual
    simp [matchesPathList, matchesPathPrefix, PyValue.asList, hexists, hmissing, hempty,
      listVerdict]
  · have hpresent : (PyValue.str actual).exists = true := bne_iff_ne.mpr hactual
    simp [matchesPathList, PyValue.asList, hexists, hpresent, listVerdict, hagain]

/-! ## Lists -/

theorem listValues_singleton (value : String) :
    py.listValues field (.list [.str value]) = py.listValues field (.str value) := rfl

theorem matchesListOperator_singleton (operator : String) (hpath : field ≠ "media.path") :
    py.matchesListOperator field (.str actual) operator (.list [.str expected]) =
      py.matchesListOperator field (.str actual) operator (.str expected) := by
  rw [matchesListOperator, matchesListOperator, if_neg hpath, if_neg hpath, listValues_singleton]

/-- The only value that a text gives to a list operator, if it gives one. -/
def textValue (py : PythonRuntime) (field text : String) : Option String :=
  if field ∈ languageFields then
    match py.normalizeLanguage (.str text) with
    | .ok code => code
    | .error _ => none
  else if field ∈ countryFields then
    if PythonText.strip text = "" then none else some (py.upper (PythonText.strip text))
  else if PythonText.strip text = "" then none
  else some (py.lower (PythonText.strip text))

theorem str_or_empty (hpy : py.Lawful) (text : String) :
    (if (PyValue.str text).truthy then py.str (.str text) else "") = text := by
  by_cases htruthy : text = "" <;> simp [PyValue.truthy, htruthy, hpy.str_str]

theorem listValues_str (hpy : py.Lawful) (text : String) :
    py.listValues field (.str text) = .ok (py.textValue field text).toList := by
  unfold listValues textValue
  split_ifs with hlanguage hcountry hblank hblank
  · obtain ⟨code, hcode⟩ := (normalizeLanguage_returns_iff py (.str text)).mpr rfl
    cases code <;>
      simp [normalizedLanguageValues, PyValue.asList, hcode, bind, Except.bind, pure, Except.pure]
  · simp [normalizedCountryValues, PyValue.asList, str_or_empty hpy, hblank, hpy.upper_eq_empty]
  · simp [normalizedCountryValues, PyValue.asList, str_or_empty hpy, hblank, hpy.upper_eq_empty]
  · simp [PyValue.asList, PyValue.exists, hblank]
  · have hexists : (PyValue.str text).exists = true := bne_iff_ne.mpr hblank
    simp [PyValue.asList, hexists, normalize, hpy.str_str]

theorem sameText_iff_textValue (hpy : py.Lawful) (hpath : field ≠ "media.path")
    (hexpected : PythonText.strip expected ≠ "") :
    py.SameText field actual expected ↔
      ∃ v, py.textValue field actual = some v ∧ py.textValue field expected = some v := by
  unfold SameText textValue
  rw [if_neg hpath]
  split_ifs with hlanguage hcountry hactual hactual
  · obtain ⟨code, hcode⟩ := (normalizeLanguage_returns_iff py (.str actual)).mpr rfl
    obtain ⟨code', hcode'⟩ :=
      (normalizeLanguage_returns_iff py (.str expected)).mpr rfl
    simp [hcode, hcode']
  · have hne : py.upper "" ≠ py.upper (PythonText.strip expected) := by
      rw [(hpy.upper_eq_empty "").mpr rfl]
      exact fun h => hexpected ((hpy.upper_eq_empty _).mp h.symm)
    simp [hactual, hne]
  · simp [eq_comm]
  · have hne : py.lower "" ≠ py.lower (PythonText.strip expected) := by
      rw [(hpy.lower_eq_empty "").mpr rfl]
      exact fun h => hexpected ((hpy.lower_eq_empty _).mp h.symm)
    simp [hactual, hne]
  · simp [eq_comm]

variable (actual) in
/-- Membership of a text in a list with one text. -/
theorem matchesListOperator_str (hpy : py.Lawful) (hpath : field ≠ "media.path")
    (hexpected : PythonText.strip expected ≠ "") {operator : String}
    (hoperator : operator = "in" ∨ operator = "contains_any") :
    ∃ b, py.matchesListOperator field (.str actual) operator (.str expected) = .ok b ∧
      (b = true ↔ py.SameText field actual expected) := by
  rw [sameText_iff_textValue hpy hpath hexpected]
  have hverdict (hasAny hasAll : Bool) : listVerdict operator hasAny hasAll = hasAny :=
    if_pos hoperator
  simp only [matchesListOperator, if_neg hpath, listValues_str hpy, bind, Except.bind, pure,
    Except.pure, hverdict]
  cases py.textValue field actual with
  | none => split_ifs <;> simp
  | some v =>
    cases py.textValue field expected with
    | none => split_ifs <;> simp
    | some w => simp [eq_comm]

/-! ## Scalars -/

theorem scalarEquals_str (hpy : py.Lawful) (hpath : field ≠ "media.path")
    (hmulti : field ∉ multiValueTextFields) (hreads : py.ReadsAlike field actual expected) :
    ∃ b, py.scalarEquals (.str actual) (.str expected) = .ok b ∧
      (b = true ↔ py.SameText field actual expected) := by
  have hlanguage : field ∉ languageFields := by
    simp only [multiValueTextFields, languageFields, List.mem_cons, List.not_mem_nil] at hmulti ⊢
    tauto
  have hcountry : field ∉ countryFields := by
    simp only [multiValueTextFields, countryFields, List.mem_cons, List.not_mem_nil] at hmulti ⊢
    tauto
  rw [SameText, if_neg hpath, if_neg hlanguage, if_neg hcountry]
  rw [ReadsAlike, if_neg hpath] at hreads
  have hreads := hreads hmulti
  simp only [scalarEquals, number, bind, Except.bind, pure, Except.pure]
  cases hx : py.floatOfStr actual with
  | none => simp [normalize, hpy.str_str]
  | some x =>
    cases hy : py.floatOfStr expected with
    | none => simp [normalize, hpy.str_str]
    | some y => simpa using hreads x y hx hy

/-- On every field, and so on every text field, `equals e` and `in [e]` agree on texts that read
alike, and hold exactly for equal texts. -/
theorem equals_agrees_in_singleton (py : PythonRuntime) (hpy : py.Lawful)
    (field actual expected : String) (hexpected : PythonText.strip expected ≠ "")
    (hreads : py.ReadsAlike field actual expected) :
    ∃ b, py.matchesOperator field (.str actual) "equals" (.str expected) = .ok b ∧
      py.matchesOperator field (.str actual) "in" (.list [.str expected]) = .ok b ∧
      (b = true ↔ py.SameText field actual expected) := by
  rw [matchesOperator_equals rfl, matchesOperator_list rfl (.inl rfl)]
  by_cases hpath : field = "media.path"
  · subst hpath
    have hmulti : "media.path" ∉ multiValueTextFields := by decide
    rw [ReadsAlike, if_pos rfl] at hreads
    refine ⟨py.matchesPathPrefix (.str actual) (.str expected), ?_, ?_, ?_⟩
    · rw [if_neg hmulti]
      simp [matchesScalar, PyValue.firstScalar, PyValue.isNone]
    · rw [matchesListOperator, if_pos rfl, matchesPathList_singleton hpy hexpected hreads]
    · rw [SameText, if_pos rfl, matchesPathPrefix_iff]
  · rw [matchesListOperator_singleton "in" hpath]
    obtain ⟨b, hin, hb⟩ := matchesListOperator_str actual hpy hpath hexpected
      (.inl (rfl : "in" = "in"))
    refine ⟨b, ?_, hin, hb⟩
    split_ifs with hmulti
    · obtain ⟨b', hany, hb'⟩ := matchesListOperator_str actual hpy hpath hexpected
        (.inr (rfl : "contains_any" = "contains_any"))
      rw [hany, Bool.eq_iff_iff.mpr (hb'.trans hb.symm)]
    · obtain ⟨b', hequals, hb'⟩ := scalarEquals_str hpy hpath hmulti hreads
      have hscalar : py.matchesScalar field (.str actual) "equals" (.str expected) =
          py.scalarEquals (.str actual) (.str expected) := by
        simp [matchesScalar, PyValue.firstScalar, PyValue.isNone, hpath]
      rw [hscalar, hequals, Bool.eq_iff_iff.mpr (hb'.trans hb.symm)]

/-! ## Numbers, languages, country codes and blanks -/

/-- The interpreter on the texts below. -/
def textRuntime : PythonRuntime :=
  { plainRuntime with
    upper := fun s => if s = "ß" then "SS" else plainRuntime.upper s
    floatOfStr := fun s => if s = "1" ∨ s = "1.0" then some 1.0 else none
    languageMatch := fun s => if s = "en" ∨ s = "eng" then some "eng" else none }

theorem plainRuntime_lawful : plainRuntime.Lawful where
  lower_eq_empty := PythonText.map_eq_empty Char.toLower
  upper_eq_empty := PythonText.map_eq_empty Char.toUpper
  lower_lower := PythonText.asciiLower_asciiLower
  strip_lower := PythonText.strip_asciiLower
  rstrip_lower := PythonText.rstrip_asciiLower (by decide)
  backslash_lower := PythonText.mem_of_mem_asciiLower (by decide)
  str_str _ := rfl

theorem equals_agrees_in_singleton_title :
    ∃ b, plainRuntime.matchesOperator "media.title" (.str " Alien") "equals" (.str "ALIEN ") =
      .ok b ∧
      plainRuntime.matchesOperator "media.title" (.str " Alien") "in" (.list [.str "ALIEN "]) =
        .ok b ∧
      (b = true ↔ plainRuntime.SameText "media.title" " Alien" "ALIEN ") :=
  equals_agrees_in_singleton plainRuntime plainRuntime_lawful "media.title" " Alien" "ALIEN "
    (by decide) (fun _ _ _ (h : none = some _) => by cases h)

/-- `equals e` is `in [e]`, and texts are equal when they are the same without regard to case and
outer blanks; of paths, when one is below the other one. -/
def TextClaim (py : PythonRuntime) (field actual expected : String) : Prop :=
  py.matchesOperator field (.str actual) "equals" (.str expected) =
      py.matchesOperator field (.str actual) "in" (.list [.str expected]) ∧
    (py.matchesOperator field (.str actual) "equals" (.str expected) = .ok true ↔
      if field = "media.path" then py.PathBelow actual expected
      else py.lower (PythonText.strip actual) = py.lower (PythonText.strip expected))

theorem not_textClaim :
    ¬textRuntime.TextClaim "media.title" "1" "1.0" ∧
      ¬textRuntime.TextClaim "media.path" "/movies/a" "/movies /" ∧
      ¬textRuntime.TextClaim "audio.languages" "en" "eng" ∧
      ¬textRuntime.TextClaim "tmdb.origin_country" "ß" "ss" := by
  refine ⟨?_, ?_, ?_, ?_⟩
  · rintro ⟨hagree, -⟩
    have hequals : textRuntime.matchesOperator "media.title" (.str "1") "equals" (.str "1.0") =
        .ok true := by decide +kernel
    have hin : textRuntime.matchesOperator "media.title" (.str "1") "in" (.list [.str "1.0"]) =
        .ok false := by decide +kernel
    rw [hequals, hin] at hagree
    cases hagree
  · rintro ⟨hagree, -⟩
    have hequals : textRuntime.matchesOperator "media.path" (.str "/movies/a") "equals"
        (.str "/movies /") = .ok false := by decide +kernel
    have hin : textRuntime.matchesOperator "media.path" (.str "/movies/a") "in"
        (.list [.str "/movies /"]) = .ok true := by decide +kernel
    rw [hequals, hin] at hagree
    cases hagree
  · rintro ⟨-, hsame⟩
    have hequals : textRuntime.matchesOperator "audio.languages" (.str "en") "equals" (.str "eng") =
        .ok true := by decide +kernel
    rw [if_neg (by decide)] at hsame
    exact absurd (hsame.mp hequals) (by decide +kernel)
  · rintro ⟨-, hsame⟩
    have hequals : textRuntime.matchesOperator "tmdb.origin_country" (.str "ß") "equals"
        (.str "ss") = .ok true := by decide +kernel
    rw [if_neg (by decide)] at hsame
    exact absurd (hsame.mp hequals) (by decide +kernel)

end PythonRuntime

end MediaMasterr.RuleEngine
