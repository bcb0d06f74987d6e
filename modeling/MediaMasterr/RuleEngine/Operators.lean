import MediaMasterr.RuleEngine.Values

/-! # Condition operators

`_matches_operator`, `_matches_list_operator` and the path, regex and text
comparisons under them. Each returns in `Except PyError`: the coercions they
apply to the two values can raise. -/

namespace MediaMasterr.RuleEngine

open MediaMasterr.Foundations

def listOperators : List String :=
  ["in", "not_in", "contains_any", "not_contains_any", "contains_all", "not_contains_all",
    "matches_any_regex"]

def tagSubstringOperators : List String := ["contains_substring", "not_contains_substring"]

def languageFields : List String :=
  ["audio.languages", "subtitle.languages", "tmdb.original_language"]

def countryFields : List String := ["tmdb.origin_country"]

def failClosedListFields : List String := languageFields ++ countryFields

def multiValueTextFields : List String :=
  ["arr.tags", "arr.movie_ids", "arr.series_ids", "favorites.usernames", "video.codec_family",
    "audio.codec_family", "audio.languages", "subtitle.languages", "tmdb.original_language",
    "tmdb.origin_country", "playback.usernames"]

def temporalOperators : List String := ["before", "on_or_before", "after", "on_or_after"]

namespace PythonRuntime

variable (py : PythonRuntime)

/-- `_matches_path_prefix`. -/
def matchesPathPrefix (actual expected : PyValue) : Bool :=
  let actualPath := py.normalizeFpath actual false true
  let expectedPath := py.normalizeFpath expected true true
  if actualPath = "" ∨ expectedPath = "" then false
  else actualPath == expectedPath || PythonText.startsWith actualPath (expectedPath ++ "/")

/-- The loop of `_matches_any_regex` over the patterns: one that does not compile is
skipped on `re.error` only. -/
def searchAnyRegex (values : List String) : List PyValue → Except PyError Bool
  | [] => .ok false
  | pattern :: patterns =>
    match py.reCompile (py.str pattern) with
    | .error .reError => searchAnyRegex values patterns
    | .error e => .error e
    | .ok search => if values.any search then .ok true else searchAnyRegex values patterns

/-- `_matches_any_regex`. -/
def matchesAnyRegex (values patterns : List PyValue) : Except PyError Bool :=
  py.searchAnyRegex ((values.filter PyValue.exists).map fun v => py.normalizeFpath v false true)
    patterns

/-- The verdict of a list operator from `has_any` and `has_all`. -/
def listVerdict (operator : String) (hasAny hasAll : Bool) : Bool :=
  if operator = "in" ∨ operator = "contains_any" then hasAny
  else if operator = "not_in" ∨ operator = "not_contains_any" then !hasAny
  else if operator = "contains_all" then hasAll
  else if operator = "not_contains_all" then !hasAll
  else false

/-- The path branch of `_matches_list_operator`: the normalised paths are strings, and
`_matches_path_prefix` normalises them once more. -/
def matchesPathList (actual : PyValue) (operator : String) (expected : PyValue) : Bool :=
  let actualPaths := (actual.asList.filter PyValue.exists).map fun v =>
    PyValue.str (py.normalizeFpath v false true)
  let expectedPaths := (expected.asList.filter PyValue.exists).map fun v =>
    PyValue.str (py.normalizeFpath v true true)
  if expectedPaths.isEmpty then false
  else
    let hasAny := actualPaths.any fun a => expectedPaths.any fun e => py.matchesPathPrefix a e
    let hasAll := expectedPaths.all fun e => actualPaths.any fun a => py.matchesPathPrefix a e
    listVerdict operator hasAny hasAll

/-- The value set that `_matches_list_operator` compares for a field. -/
def listValues (field : String) (value : PyValue) : Except PyError (List String) :=
  if field ∈ languageFields then py.normalizedLanguageValues value
  else if field ∈ countryFields then .ok (py.normalizedCountryValues value)
  else .ok ((value.asList.filter PyValue.exists).map py.normalize)

/-- `_matches_list_operator`. -/
def matchesListOperator (field : String) (actual : PyValue) (operator : String)
    (expected : PyValue) : Except PyError Bool :=
  if field = "media.path" then .ok (py.matchesPathList actual operator expected)
  else do
    let actualValues ← py.listValues field actual
    let expectedValues ← py.listValues field expected
    if field ∈ failClosedListFields ∧ (actualValues = [] ∨ expectedValues = []) then
      return false
    if expectedValues = [] then
      return false
    let hasAny := actualValues.any (· ∈ expectedValues)
    let hasAll := expectedValues.all (· ∈ actualValues)
    return listVerdict operator hasAny hasAll

/-- The substring branch of `_matches_operator`. -/
def matchesSubstring (actual : PyValue) (operator : String) (expected : PyValue) : Bool :=
  let needles := (expected.asList.filter PyValue.exists).map py.normalize
  if needles.isEmpty then false
  else
    let haystacks := (actual.asList.filter PyValue.exists).map py.normalize
    let found := haystacks.any fun haystack => needles.any (PythonText.contains haystack)
    if operator = "contains_substring" then found else !found

/-- The temporal branch of `_matches_operator`. -/
def matchesTemporal (actual : PyValue) (operator : String) (expected : PyValue) :
    Except PyError Bool := do
  let leftDate ← py.dateValue actual.firstScalar
  let rightDate ← py.dateValue expected.firstScalar
  match leftDate, rightDate with
  | some left, some right =>
    if operator = "before" then return decide (left < right)
    if operator = "on_or_before" then return decide (left ≤ right)
    if operator = "after" then return decide (right < left)
    return decide (right ≤ left)
  | _, _ => return false

/-- `left == right` of the `equals` branches: numbers when both sides convert, else
normalised text. -/
def scalarEquals (left right : PyValue) : Except PyError Bool := do
  let leftNumber ← py.number left
  let rightNumber ← py.number right
  match leftNumber, rightNumber with
  | some l, some r => return l == r
  | _, _ => return py.normalize left == py.normalize right

/-- The ordering operators on the two numbers. -/
def matchesOrder (left : PyValue) (operator : String) (right : PyValue) :
    Except PyError Bool := do
  let leftNumber ← py.number left
  let rightNumber ← py.number right
  match leftNumber, rightNumber with
  | some l, some r =>
    if operator = "greater_than" then return decide (l > r)
    if operator = "greater_than_or_equal" then return decide (l ≥ r)
    if operator = "less_than" then return decide (l < r)
    if operator = "less_than_or_equal" then return decide (l ≤ r)
    return false
  | _, _ => return false

/-- The scalar branches that end `_matches_operator`. -/
def matchesScalar (field : String) (actual : PyValue) (operator : String)
    (expected : PyValue) : Except PyError Bool :=
  let left := actual.firstScalar
  let right := expected.firstScalar
  if left.isNone ∨ right.isNone then .ok false
  else if operator = "equals" then
    if field = "media.path" then .ok (py.matchesPathPrefix left right)
    else py.scalarEquals left right
  else if operator = "not_equals" then
    if field = "media.path" then .ok (!py.matchesPathPrefix left right)
    else (py.scalarEquals left right).map not
  else py.matchesOrder left operator right

/-- `_matches_operator`. -/
def matchesOperator (field : String) (actual : PyValue) (operator : String)
    (expected : PyValue) : Except PyError Bool :=
  if actual.isUnavailable then .ok false
  else if operator = "exists" then
    if field ∈ languageFields then
      (py.normalizedLanguageValues actual).map fun values => !values.isEmpty
    else .ok actual.exists
  else if operator = "not_exists" then
    if field ∈ languageFields then
      (py.normalizedLanguageValues actual).map fun values => values.isEmpty
    else .ok !actual.exists
  else if operator = "is_true" then .ok (actual matches .bool true)
  else if operator = "is_false" then .ok (actual matches .bool false)
  else if operator = "matches_any_regex" then
    py.matchesAnyRegex actual.asList expected.asList
  else if operator ∈ listOperators then py.matchesListOperator field actual operator expected
  else if operator ∈ tagSubstringOperators then
    .ok (py.matchesSubstring actual operator expected)
  else if field ∈ multiValueTextFields ∧ (operator = "equals" ∨ operator = "not_equals") then
    let listOperator := if operator = "equals" then "contains_any" else "not_contains_any"
    py.matchesListOperator field actual listOperator expected
  else if operator ∈ temporalOperators then py.matchesTemporal actual operator expected
  else py.matchesScalar field actual operator expected

end PythonRuntime

end MediaMasterr.RuleEngine
