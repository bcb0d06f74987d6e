import MediaMasterr.Candidates.Collectors
import MediaMasterr.RuleEngine.LibraryScope
import MediaMasterr.RuleEngine.TextEquality

/-! # Path validation

A rule is saved only when its path and filename criteria match indexed media. The values
that the criteria are checked on are the paths of versions and of series roots, and their
last segments; the rule engine evaluates a condition on the values of its target. -/

namespace MediaMasterr.Rules

open MediaMasterr.Database MediaMasterr.Foundations MediaMasterr.RuleEngine
open MediaMasterr.Candidates (RuleItem)

/-! ## What the rule engine reads -/

/-- `s.rsplit("/", 1)[-1]`. -/
def lastSegment (s : String) : String :=
  String.ofList (s.toList.reverse.takeWhile (· ≠ '/')).reverse

section Contexts

variable (py : PythonRuntime)

/-- `_path_basename`. -/
def pathBasename (path : Option String) : Option String :=
  let normalized := py.normalizeFpath (.str (path.getD "")) false false
  if normalized = "" then none
  else some (PythonText.strip (lastSegment normalized)) |>.filter (· ≠ "")

/-- A column that is kept as a list without its empty value. -/
def optionalText (text : Option String) : PyValue :=
  .list ((text.filter (· ≠ "")).toList.map .str)

variable (db : Tables) (fileName : Nat → Option String)

/-- `series.service_refs`. -/
def serviceRefs (series : Series) : List SeriesServiceRef :=
  db.seriesServiceRefs.filter (·.seriesId = series.id)

/-- The libraries of a series. -/
def refLibraries (series : Series) : PyValue :=
  .list (((serviceRefs db series).filter (·.libraryId ≠ "")).map fun ref => .str ref.libraryId)

/-- The paths of a series. -/
def refPaths (series : Series) : List String :=
  (serviceRefs db series).filterMap fun ref => ref.path.filter (· ≠ "")

/-- The three fields of `_build_context` that a path condition is about; the column `file_name` of
the versions is given by their keys. -/
def pathContext : RuleItem → Context
  | .movieVersion _ version => fun field =>
    if field = "library.id" then .list [.str version.libraryId]
    else if field = "media.path" then optionalText version.path
    else if field = "media.file_name" then
      optionalText (((fileName version.id).filter (· ≠ "")).or (pathBasename py version.path))
    else .none
  | .series series => fun field =>
    if field = "library.id" then refLibraries db series
    else if field = "media.path" then .list ((refPaths db series).map .str)
    else if field = "media.file_name" then
      .list (((serviceRefs db series).filterMap fun ref => pathBasename py ref.path).map .str)
    else .none
  | .season series season => fun field =>
    if field = "library.id" then refLibraries db series
    else if field = "media.path" then .list ((refPaths db series).map .str)
    else if field = "media.file_name" then optionalText (pathBasename py season.path)
    else .none
  | .episode series _ episode => fun field =>
    if field = "library.id" then refLibraries db series
    else if field = "media.path" then optionalText episode.path
    else if field = "media.file_name" then optionalText (pathBasename py episode.path)
    else .none

end Contexts

/-! ## Criteria -/

structure PathCriterion where
  field : String
  operator : String
  value : String
  deriving DecidableEq, Repr

structure InvalidPathCriterion where
  criterion : PathCriterion
  reason : String
  deriving DecidableEq, Repr

def pathIncludeOperators : List String := ["equals", "in", "contains_any", "contains_all"]

def pathRegexOperator : String := "matches_any_regex"

/-- `_index_media_path_values`. -/
structure IndexedValues where
  paths : List String := []
  fileNames : List String := []
  deriving DecidableEq, Repr

/-- `indexed_values.get(field, set())`. -/
def IndexedValues.get (values : IndexedValues) (field : String) : List String :=
  if field = "media.path" then values.paths
  else if field = "media.file_name" then values.fileNames
  else []

/-- `_collect_media_paths`: without libraries, those of all. -/
def collectMediaPaths (db : Tables) (mediaType : MediaType) (libraryIds : Option (List String)) :
    List String :=
  let inScope (libraryId : String) : Bool :=
    match libraryIds with
    | none | some [] => true
    | some ids => libraryId ∈ ids
  match mediaType with
  | .movie =>
    (db.movieVersions.filter fun version => inScope version.libraryId).filterMap fun version =>
      version.path.filter (· ≠ "")
  | .series =>
    (db.seriesServiceRefs.filter fun ref => inScope ref.libraryId).filterMap fun ref =>
      ref.path.filter (· ≠ "")

/-! ## Targets -/

section Targets

variable (db : Tables)

def IsTarget : RuleItem → Prop
  | .movieVersion movie version =>
    movie ∈ db.movies ∧ version ∈ db.movieVersions ∧ version.movieId = movie.id
  | .series series => series ∈ db.series
  | .season series season =>
    series ∈ db.series ∧ season ∈ db.seasons ∧ season.seriesId = series.id
  | .episode series season episode =>
    series ∈ db.series ∧ season ∈ db.seasons ∧ season.seriesId = series.id ∧
      episode ∈ db.episodes ∧ episode.seasonId = season.id

/-- `_media_type_for_target`, by the scope of the target. -/
def itemMediaType : RuleItem → MediaType
  | .movieVersion _ _ => .movie
  | .series _ | .season _ _ | .episode _ _ _ => .series

def itemLibraryIds : RuleItem → List String
  | .movieVersion _ version => [version.libraryId]
  | .series series | .season series _ | .episode series _ _ =>
    (serviceRefs db series).map (·.libraryId)

def InLibraryScope (libraryIds : Option (List String)) (item : RuleItem) : Prop :=
  ∀ ids, libraryIds = some ids → ids ≠ [] → ∃ libraryId ∈ itemLibraryIds db item, libraryId ∈ ids

end Targets

section Criteria

variable (py : PythonRuntime)

/-- `_normalize_path_criterion`. -/
def normalizePathCriterion (field operator value : String) : Option PathCriterion :=
  let normalizedField := PythonText.strip field
  let normalizedOperator := py.lower (PythonText.strip operator)
  let normalizedValue := PythonText.strip value
  if normalizedField ≠ "media.path" ∧ normalizedField ≠ "media.file_name" then none
  else if normalizedOperator = "" then none
  else if normalizedValue = "" then none
  else some ⟨normalizedField, normalizedOperator, normalizedValue⟩

def indexMediaPathValues (mediaPaths : List String) : IndexedValues :=
  let normalized := (mediaPaths.map fun path => py.normalizeFpath (.str path) false true).filter
    (· ≠ "")
  { paths := normalized
    fileNames := (normalized.map fun path => PythonText.strip (lastSegment path)).filter (· ≠ "") }

/-- `_normalize_criterion_value`. -/
def normalizeCriterionValue (field value : String) : String :=
  if field = "media.path" then py.normalizeFpath (.str value) false true
  else py.lower (PythonText.strip value)

/-- `_matches_path_prefix` of the validation. -/
def matchesPathPrefix (candidate expected : String) : Bool :=
  let expectedPrefix := py.normalizeFpath (.str expected) true true
  let normalizedCandidate := py.normalizeFpath (.str candidate) false true
  if expectedPrefix = "" ∨ normalizedCandidate = "" then false
  else normalizedCandidate == expectedPrefix ||
    PythonText.startsWith normalizedCandidate (expectedPrefix ++ "/")

/-- One round of `_evaluate_path_criteria`: the reason for which the criterion is invalid. -/
def criterionFailure (values : IndexedValues) (criterion : PathCriterion) :
    Except PyError (Option String) :=
  let candidates := values.get criterion.field
  if criterion.operator ∉ pathRegexOperator :: pathIncludeOperators then .ok none
  else if criterion.operator = pathRegexOperator then
    match py.reCompile criterion.value with
    | .error .reError => .ok (some "invalid_regex")
    | .error e => .error e
    | .ok search => .ok (if candidates.any search then none else some "no_match")
  else
    let expected := normalizeCriterionValue py criterion.field criterion.value
    let hasMatch := if criterion.field = "media.path" then
        candidates.any fun candidate => matchesPathPrefix py candidate expected
      else candidates.any (· == expected)
    .ok (if hasMatch then none else some "no_match")

/-- `_evaluate_path_criteria`. -/
def evaluatePathCriteria (values : IndexedValues) : List PathCriterion →
    Except PyError (List PathCriterion × List InvalidPathCriterion)
  | [] => .ok ([], [])
  | criterion :: criteria => do
    let failure ← criterionFailure py values criterion
    let (valid, invalid) ← evaluatePathCriteria values criteria
    return match failure with
      | none => (criterion :: valid, invalid)
      | some reason => (valid, ⟨criterion, reason⟩ :: invalid)

end Criteria

/-! ## What validation and evaluation agree on -/

section Agreement

variable (py : PythonRuntime)

/-- The condition holds of the context, and one of its values holds by itself. -/
def MatchesValue (ctx : Context) (field operator : String) (expected value : PyValue) : Prop :=
  py.matchesOperator field (ctx field) operator expected = .ok true ∧ value ∈ expected.asList ∧
    py.matchesOperator field (ctx field) operator (.list [value]) = .ok true

def Accepts (values : IndexedValues) (criterion : PathCriterion) : Prop :=
  evaluatePathCriteria py values [criterion] = .ok ([criterion], [])

/-- A value of a condition that holds of a target in the library scope is accepted. -/
def AcceptsMatch (db : Tables) (fileName : Nat → Option String) (libraryIds : Option (List String))
    (item : RuleItem) (field operator : String) (expected value : PyValue) : Prop :=
  IsTarget db item → InLibraryScope db libraryIds item →
    MatchesValue py (pathContext py db fileName item) field operator expected value →
      ∀ criterion, normalizePathCriterion py field operator (py.str value) = some criterion →
        Accepts py
          (indexMediaPathValues py (collectMediaPaths db (itemMediaType item) libraryIds)) criterion

/-- The value under which a media path is indexed for a field. -/
def indexedValue (field path : String) : String :=
  let normalized := py.normalizeFpath (.str path) false true
  if field = "media.path" then normalized else PythonText.strip (lastSegment normalized)

/-- The comparison of the rule engine with a single value, in which nothing is normalised twice. -/
def comparison (criterion : PathCriterion) : String :=
  if criterion.operator = pathRegexOperator then pathRegexOperator
  else if criterion.field = "media.path" then "equals"
  else "in"

/-- The rule engine finds that the value of an indexed path matches the criterion. -/
def MatchesIndexed (criterion : PathCriterion) (path : String) : Prop :=
  py.matchesOperator criterion.field (.str (indexedValue py criterion.field path))
    (comparison criterion) (.str criterion.value) = .ok true

/-- What path criteria rely on of the interpreter's texts: lowering keeps the last segment. -/
structure SegmentTexts : Prop where
  lawful : py.Lawful
  lower_lastSegment : ∀ s, lastSegment (py.lower s) = py.lower (lastSegment s)
  lower_operator : ∀ operator ∈ pathRegexOperator :: pathIncludeOperators,
    py.lower (PythonText.strip operator) = operator

end Agreement

section Indexed

variable {py : PythonRuntime} {criterion : PathCriterion} {path : String} {values : IndexedValues}

theorem notMem_strip {c : Char} {s : String} (h : c ∉ s.toList) :
    c ∉ (PythonText.strip s).toList := by
  rw [PythonText.strip, String.toList_ofList, PythonText.rstripWhere_eq]
  exact fun hmem => h ((List.dropWhile_suffix _).subset ((List.rdropWhile_prefix _ _).subset hmem))

theorem notMem_lastSegment {c : Char} {s : String} (h : c ∉ s.toList) :
    c ∉ (lastSegment s).toList := by
  rw [lastSegment, String.toList_ofList, List.mem_reverse]
  exact fun hmem => h (List.mem_reverse.mp ((List.takeWhile_prefix _).subset hmem))

/-- A text that is lowered, without outer blanks and backslashes, is a normalised path. -/
theorem normalizeFpath_lower (hpy : py.Lawful) {w : String} (hstrip : PythonText.strip w = w)
    (hslash : '\\' ∉ w.toList) : py.normalizeFpath (.str (py.lower w)) false true = py.lower w := by
  rw [PythonRuntime.normalizeFpath_str hpy, PythonRuntime.pathText, hpy.strip_lower, hstrip,
    if_neg Bool.false_ne_true,
    PythonText.replaceChar_eq_self fun hmem => hslash (hpy.backslash_lower w hmem), hpy.lower_lower]

/-- An indexed value is lowered, without outer blanks and backslashes. -/
theorem indexedValue_eq_lower (hpy : SegmentTexts py) (field path : String) :
    ∃ w, indexedValue py field path = py.lower w ∧ PythonText.strip w = w ∧ '\\' ∉ w.toList := by
  have hslash := PythonRuntime.backslash_notMem_pathText path false
  unfold indexedValue
  dsimp only
  rw [PythonRuntime.normalizeFpath_str hpy.lawful]
  split_ifs
  · exact ⟨_, rfl, PythonRuntime.strip_pathText path, hslash⟩
  · refine ⟨PythonText.strip (lastSegment (PythonRuntime.pathText path false)), ?_,
      PythonText.strip_strip _, notMem_strip (notMem_lastSegment hslash)⟩
    rw [hpy.lower_lastSegment, hpy.lawful.strip_lower]

theorem mem_index_get (hfield : criterion.field ∈ pathFields) {v : String} {paths : List String} :
    v ∈ (indexMediaPathValues py paths).get criterion.field ↔
      ∃ path ∈ paths, indexedValue py criterion.field path = v ∧ v ≠ "" := by
  have hempty : PythonText.strip (lastSegment "") = "" := by decide
  have hne : ¬"media.file_name" = "media.path" := by decide
  simp only [pathFields, List.mem_cons, List.not_mem_nil, or_false] at hfield
  rcases hfield with heq | heq
  · simp only [heq, IndexedValues.get, indexMediaPathValues, indexedValue, if_true, List.mem_filter,
      List.mem_map, decide_eq_true_eq]
    exact ⟨fun ⟨⟨path, hpath, hv⟩, hne⟩ => ⟨path, hpath, hv, hne⟩,
      fun ⟨path, hpath, hv, hne⟩ => ⟨⟨path, hpath, hv⟩, hne⟩⟩
  · simp only [heq, hne, if_false, if_true, IndexedValues.get, indexMediaPathValues, indexedValue,
      List.mem_filter, List.mem_map, decide_eq_true_eq]
    constructor
    · rintro ⟨⟨n, ⟨⟨path, hpath, rfl⟩, -⟩, hv⟩, hv'⟩
      exact ⟨path, hpath, hv, hv'⟩
    · rintro ⟨path, hpath, rfl, hv'⟩
      refine ⟨⟨_, ⟨⟨path, hpath, rfl⟩, fun hblank => hv' ?_⟩, rfl⟩, hv'⟩
      rw [hblank, hempty]

/-! ## The two matchers -/

section Matchers

variable (hpy : SegmentTexts py)

include hpy

/-- A text that is normalised as a path before its last slashes are taken off is normalised once. -/
theorem normalizeFpath_normalizeFpath (s : String) :
    py.normalizeFpath (.str (py.normalizeFpath (.str s) false true)) true true =
      py.normalizeFpath (.str s) true true := by
  have hslash := PythonRuntime.backslash_notMem_pathText s false
  have hagain : PythonRuntime.pathText (py.lower (PythonRuntime.pathText s false)) true =
      py.lower (PythonRuntime.pathText s true) := by
    rw [PythonRuntime.pathText, hpy.lawful.strip_lower, PythonRuntime.strip_pathText,
      PythonText.replaceChar_eq_self fun hmem => hslash (hpy.lawful.backslash_lower _ hmem),
      if_pos rfl, hpy.lawful.rstrip_lower]
    rfl
  simp only [PythonRuntime.normalizeFpath_str hpy.lawful, hagain, hpy.lawful.lower_lower]

theorem matchesPathPrefix_eq (candidate expected : String) :
    matchesPathPrefix py candidate (py.normalizeFpath (.str expected) false true) =
      py.matchesPathPrefix (.str candidate) (.str expected) := by
  rw [matchesPathPrefix, PythonRuntime.matchesPathPrefix, normalizeFpath_normalizeFpath hpy]
  simp only [or_comm]

/-- A regular expression is searched in an indexed value as it is. -/
theorem matchesIndexed_regex (hregex : criterion.operator = pathRegexOperator) :
    MatchesIndexed py criterion path ↔ indexedValue py criterion.field path ≠ "" ∧
      ∃ search, py.reCompile criterion.value = .ok search ∧
        search (indexedValue py criterion.field path) = true := by
  obtain ⟨w, hw, hstrip, hslash⟩ := indexedValue_eq_lower hpy criterion.field path
  have hmatch : MatchesIndexed py criterion path ↔
      py.matchesAnyRegex [.str (indexedValue py criterion.field path)] [.str criterion.value] =
        .ok true := by
    simp [MatchesIndexed, comparison, hregex, PythonRuntime.matchesOperator, pathRegexOperator,
      PyValue.isUnavailable, PyValue.asList]
  have hhaystacks : ([PyValue.str (py.lower w)].filter PyValue.exists).map
      (fun v => py.normalizeFpath v false true) = if py.lower w = "" then [] else [py.lower w] := by
    have hexists : (PyValue.str (py.lower w)).exists = (py.lower w != "") := by
      rw [PyValue.exists, hpy.lawful.strip_lower, hstrip]
    split_ifs with hempty
    · rw [List.filter_singleton, hexists, hempty]
      rfl
    · rw [List.filter_singleton, hexists, bne_iff_ne.mpr hempty, cond_true, List.map_singleton,
        normalizeFpath_lower hpy.lawful hstrip hslash]
  rw [hmatch, hw, PythonRuntime.matchesAnyRegex, hhaystacks, PythonRuntime.searchAnyRegex,
    hpy.lawful.str_str]
  cases py.reCompile criterion.value with
  | error err => cases err <;> simp [PythonRuntime.searchAnyRegex]
  | ok search => split_ifs with hempty <;> simp [PythonRuntime.searchAnyRegex, hempty]

omit hpy in
theorem matchesIndexed_path (hregex : criterion.operator ≠ pathRegexOperator)
    (hpath : criterion.field = "media.path") :
    MatchesIndexed py criterion path ↔
      py.matchesPathPrefix (.str (indexedValue py criterion.field path)) (.str criterion.value) =
        true := by
  have hmulti : "media.path" ∉ multiValueTextFields := by decide
  rw [MatchesIndexed, comparison, if_neg hregex, if_pos hpath, hpath,
    PythonRuntime.matchesOperator_equals rfl, if_neg hmulti]
  simp [PythonRuntime.matchesScalar, PyValue.firstScalar, PyValue.isNone]

theorem matchesIndexed_fileName (hregex : criterion.operator ≠ pathRegexOperator)
    (hname : criterion.field = "media.file_name") (hvalue : PythonText.strip criterion.value ≠ "") :
    MatchesIndexed py criterion path ↔
      indexedValue py criterion.field path = py.lower (PythonText.strip criterion.value) := by
  have hpath : "media.file_name" ≠ "media.path" := by decide
  have hlanguage : "media.file_name" ∉ languageFields := by decide
  have hcountry : "media.file_name" ∉ countryFields := by decide
  obtain ⟨w, hw, hstrip, -⟩ := indexedValue_eq_lower hpy criterion.field path
  obtain ⟨b, hb, hiff⟩ := PythonRuntime.matchesListOperator_str
    (indexedValue py criterion.field path) hpy.lawful hpath hvalue (.inl (rfl : "in" = "in"))
  rw [PythonRuntime.SameText, if_neg hpath, if_neg hlanguage, if_neg hcountry, hw,
    hpy.lawful.strip_lower, hstrip, hpy.lawful.lower_lower] at hiff
  rw [MatchesIndexed, comparison, if_neg hregex, if_neg (hname ▸ hpath), hname,
    PythonRuntime.matchesOperator_list rfl (.inl rfl), ← hname]
  rw [← hname] at hb
  rw [hb, hw, ← hiff, Except.ok.injEq]

end Matchers

theorem accepts_iff_criterionFailure :
    Accepts py values criterion ↔ criterionFailure py values criterion = .ok none := by
  rw [Accepts, evaluatePathCriteria, evaluatePathCriteria]
  cases hfailure : criterionFailure py values criterion with
  | error err => simp [bind, Except.bind]
  | ok failure =>
    cases failure <;> simp [bind, Except.bind, pure, Except.pure]

/-- A criterion is accepted exactly when the rule engine finds it on an indexed path. -/
theorem accepts_index_iff (hpy : SegmentTexts py) (hfield : criterion.field ∈ pathFields)
    (hoperator : criterion.operator ∈ pathRegexOperator :: pathIncludeOperators)
    (hvalue : PythonText.strip criterion.value ≠ "") (paths : List String) :
    Accepts py (indexMediaPathValues py paths) criterion ↔
      ∃ path ∈ paths, MatchesIndexed py criterion path := by
  have hcandidates (p : String → Bool) :
      ((indexMediaPathValues py paths).get criterion.field).any p = true ↔
        ∃ path ∈ paths, indexedValue py criterion.field path ≠ "" ∧
          p (indexedValue py criterion.field path) = true := by
    simp only [List.any_eq_true, mem_index_get hfield]
    constructor
    · rintro ⟨v, ⟨path, hpath, rfl, hne⟩, hp⟩
      exact ⟨path, hpath, hne, hp⟩
    · rintro ⟨path, hpath, hne, hp⟩
      exact ⟨_, ⟨path, hpath, rfl, hne⟩, hp⟩
  rw [accepts_iff_criterionFailure, criterionFailure]
  dsimp only
  rw [if_neg (not_not.mpr hoperator)]
  by_cases hregex : criterion.operator = pathRegexOperator
  · rw [if_pos hregex]
    simp only [matchesIndexed_regex hpy hregex]
    cases hcompile : py.reCompile criterion.value with
    | error err => cases err <;> simp
    | ok search => simp [hcandidates]
  · rw [if_neg hregex]
    by_cases hpath : criterion.field = "media.path"
    · have hnonempty (path : String) (h : py.matchesPathPrefix
          (.str (indexedValue py criterion.field path)) (.str criterion.value) = true) :
          indexedValue py criterion.field path ≠ "" := by
        intro hempty
        rw [hempty] at h
        cases h
      simp only [matchesIndexed_path hregex hpath, normalizeCriterionValue, if_pos hpath,
        matchesPathPrefix_eq hpy, ite_eq_left_iff, reduceCtorEq, imp_false, not_not,
        Except.ok.injEq, hcandidates]
      exact ⟨fun ⟨path, hmem, _, hmatch⟩ => ⟨path, hmem, hmatch⟩,
        fun ⟨path, hmem, hmatch⟩ => ⟨path, hmem, hnonempty path hmatch, hmatch⟩⟩
    · have hname : criterion.field = "media.file_name" := by
        simpa [pathFields, hpath] using hfield
      have hnonempty : py.lower (PythonText.strip criterion.value) ≠ "" :=
        fun hempty => hvalue ((hpy.lawful.lower_eq_empty _).mp hempty)
      simp only [matchesIndexed_fileName hpy hregex hname hvalue, normalizeCriterionValue,
        if_neg hpath, ite_eq_left_iff, reduceCtorEq, imp_false, not_not, Except.ok.injEq,
        hcandidates, beq_iff_eq]
      exact ⟨fun ⟨path, hmem, _, hmatch⟩ => ⟨path, hmem, hmatch⟩,
        fun ⟨path, hmem, hmatch⟩ => ⟨path, hmem, hmatch ▸ hnonempty, hmatch⟩⟩

end Indexed

section Agreement

variable {py : PythonRuntime} {field operator text : String} {criterion : PathCriterion}

theorem normalizePathCriterion_eq_some (hpy : SegmentTexts py) (hfield : field ∈ pathFields)
    (hoperator : operator ∈ pathRegexOperator :: pathIncludeOperators)
    (h : normalizePathCriterion py field operator text = some criterion) :
    criterion = ⟨field, operator, PythonText.strip text⟩ ∧ PythonText.strip text ≠ "" := by
  have hstrip : PythonText.strip field = field := by
    simp only [pathFields, List.mem_cons, List.not_mem_nil, or_false] at hfield
    rcases hfield with rfl | rfl <;> decide
  unfold normalizePathCriterion at h
  simp only [hstrip, hpy.lower_operator _ hoperator] at h
  split_ifs at h with _ _ hvalue
  exact ⟨(Option.some.inj h).symm, hvalue⟩

/-- A value of a path or filename condition that holds of a target is accepted exactly when the
rule engine finds it on one of the paths that are collected. -/
theorem acceptsMatch_iff (hpy : SegmentTexts py) (hfield : field ∈ pathFields)
    (hoperator : operator ∈ pathRegexOperator :: pathIncludeOperators) (db : Tables)
    (fileName : Nat → Option String) (libraryIds : Option (List String)) (item : RuleItem)
    (expected value : PyValue) :
    AcceptsMatch py db fileName libraryIds item field operator expected value ↔
      (IsTarget db item → InLibraryScope db libraryIds item →
        MatchesValue py (pathContext py db fileName item) field operator expected value →
          ∀ criterion, normalizePathCriterion py field operator (py.str value) = some criterion →
            ∃ path ∈ collectMediaPaths db (itemMediaType item) libraryIds,
              MatchesIndexed py criterion path) := by
  refine imp_congr_right fun _ => imp_congr_right fun _ => imp_congr_right fun _ =>
    forall_congr' fun criterion => imp_congr_right fun hcriterion => ?_
  obtain ⟨rfl, hvalue⟩ := normalizePathCriterion_eq_some hpy hfield hoperator hcriterion
  exact accepts_index_iff hpy hfield hoperator (by rwa [PythonText.strip_strip]) _

/-! ## Paths that validation reads -/

section OwnPaths

variable {paths : List String}

theorem matchesPathPrefix_normalizeFpath (hpy : SegmentTexts py) (path : String) :
    py.matchesPathPrefix (.str (py.normalizeFpath (.str path) false true)) (.str text) =
      py.matchesPathPrefix (.str path) (.str text) := by
  rw [PythonRuntime.matchesPathPrefix, PythonRuntime.matchesPathPrefix,
    PythonRuntime.normalizeFpath_idem hpy.lawful _ _ (PythonRuntime.strip_pathText _)]

/-- A list operator on paths, with one text that stays the same when it is normalised again. -/
theorem exists_of_matchesPathList (hpy : SegmentTexts py)
    (hexists : (PyValue.str text).exists = true)
    (htail : PythonText.strip (PythonRuntime.pathText text true) = PythonRuntime.pathText text true)
    (h : py.matchesPathList (.list (paths.map .str)) operator (.list [.str text]) = true)
    (hoperator : operator = "in" ∨ operator = "contains_any" ∨ operator = "contains_all") :
    ∃ path ∈ paths, py.matchesPathPrefix (.str path) (.str text) = true := by
  have hagain (path : String) :
      py.matchesPathPrefix (.str (py.normalizeFpath (.str path) false true))
        (.str (py.normalizeFpath (.str text) true true)) =
          py.matchesPathPrefix (.str path) (.str text) := by
    rw [PythonRuntime.matchesPathPrefix, PythonRuntime.matchesPathPrefix,
      PythonRuntime.normalizeFpath_idem hpy.lawful _ _ (PythonRuntime.strip_pathText _),
      PythonRuntime.normalizeFpath_idem hpy.lawful _ _ htail]
  have hany : ((paths.map PyValue.str).filter PyValue.exists).any (fun path =>
      py.matchesPathPrefix (.str (py.normalizeFpath path false true))
        (.str (py.normalizeFpath (.str text) true true))) = true := by
    rcases hoperator with rfl | rfl | rfl <;>
      simpa [PythonRuntime.matchesPathList, PyValue.asList, hexists, PythonRuntime.listVerdict]
        using h
  obtain ⟨value, hvalue, hmatch⟩ := List.any_eq_true.mp hany
  obtain ⟨path, hpath, rfl⟩ := List.mem_map.mp (List.mem_of_mem_filter hvalue)
  exact ⟨path, hpath, (hagain path).symm.trans hmatch⟩

theorem exists_of_equals
    (h : py.matchesOperator "media.path" (.list (paths.map .str)) "equals" (.list [.str text]) =
      .ok true) :
    ∃ path ∈ paths, py.matchesPathPrefix (.str path) (.str text) = true := by
  have hmulti : "media.path" ∉ multiValueTextFields := by decide
  rw [PythonRuntime.matchesOperator_equals rfl, if_neg hmulti] at h
  cases paths with
  | nil => simp [PythonRuntime.matchesScalar, PyValue.firstScalar, PyValue.isNone] at h
  | cons path paths =>
    have hfirst : py.matchesPathPrefix (.str path) (.str text) = true := by
      simpa [PythonRuntime.matchesScalar, PyValue.firstScalar, PyValue.isNone] using h
    exact ⟨path, List.mem_cons_self, hfirst⟩

theorem normalizeFpath_ne_empty (hpy : SegmentTexts py) {path : String}
    (hexists : (PyValue.str path).exists = true) :
    py.normalizeFpath (.str path) false true ≠ "" := by
  rw [PythonRuntime.normalizeFpath_str hpy.lawful]
  intro hempty
  have hblank := (PythonText.map_eq_empty _ _).mp ((hpy.lawful.lower_eq_empty _).mp hempty)
  exact bne_iff_ne.mp hexists hblank

theorem exists_of_matchesAnyRegex (hpy : SegmentTexts py)
    (h : py.matchesAnyRegex (paths.map .str) [.str text] = .ok true) :
    ∃ path ∈ paths, MatchesIndexed py ⟨"media.path", pathRegexOperator, text⟩ path := by
  rw [PythonRuntime.matchesAnyRegex, PythonRuntime.searchAnyRegex, hpy.lawful.str_str] at h
  cases hcompile : py.reCompile text with
  | error err => cases err <;> simp [hcompile, PythonRuntime.searchAnyRegex] at h
  | ok search =>
    simp only [hcompile, PythonRuntime.searchAnyRegex] at h
    split_ifs at h with hany
    · obtain ⟨v, hv, hmatch⟩ := List.any_eq_true.mp hany
      obtain ⟨value, hvalue, rfl⟩ := List.mem_map.mp hv
      obtain ⟨hmem, hexists⟩ := List.mem_filter.mp hvalue
      obtain ⟨path, hpath, rfl⟩ := List.mem_map.mp hmem
      exact ⟨path, hpath, (matchesIndexed_regex hpy rfl).mpr
        ⟨normalizeFpath_ne_empty hpy hexists, search, hcompile, hmatch⟩⟩
    · simp at h

/-- A path condition that holds of paths of the index is found on one of them, when its text is not
changed by `strip`, with and without its last slashes. -/
theorem exists_matchesIndexed (hpy : SegmentTexts py)
    (hoperator : operator ∈ pathRegexOperator :: pathIncludeOperators) (hne : text ≠ "")
    (hstrip : PythonText.strip text = text)
    (htail : PythonText.strip (PythonRuntime.pathText text true) = PythonRuntime.pathText text true)
    (h : py.matchesOperator "media.path" (.list (paths.map .str)) operator (.list [.str text]) =
      .ok true) :
    ∃ path ∈ paths, MatchesIndexed py ⟨"media.path", operator, text⟩ path := by
  have hexists : (PyValue.str text).exists = true := by
    rw [PyValue.exists, hstrip]
    exact bne_iff_ne.mpr hne
  by_cases hregex : operator = pathRegexOperator
  · subst hregex
    exact exists_of_matchesAnyRegex hpy h
  · have hmatch : ∃ path ∈ paths, py.matchesPathPrefix (.str path) (.str text) = true := by
      simp only [pathIncludeOperators, List.mem_cons, List.not_mem_nil, or_false, hregex,
        false_or] at hoperator
      rcases hoperator with rfl | hlist
      · exact exists_of_equals h
      · have hlist' : operator = "in" ∨ operator = "not_in" ∨ operator = "contains_any" ∨
            operator = "not_contains_any" ∨ operator = "contains_all" ∨
              operator = "not_contains_all" := by
          rcases hlist with h | h | h
          · exact .inl h
          · exact .inr (.inr (.inl h))
          · exact .inr (.inr (.inr (.inr (.inl h))))
        rw [PythonRuntime.matchesOperator_list rfl hlist', PythonRuntime.matchesListOperator,
          if_pos rfl] at h
        exact exists_of_matchesPathList hpy hexists htail (Except.ok.inj h) hlist
    obtain ⟨path, hpath, hbegins⟩ := hmatch
    refine ⟨path, hpath, (matchesIndexed_path hregex rfl).mpr ?_⟩
    rw [indexedValue, if_pos rfl, matchesPathPrefix_normalizeFpath hpy]
    exact hbegins

/-- A target all of whose paths are collected: its path conditions are accepted. -/
theorem acceptsMatch_of_collected (hpy : SegmentTexts py)
    (hoperator : operator ∈ pathRegexOperator :: pathIncludeOperators)
    (hstrip : PythonText.strip text = text)
    (htail : PythonText.strip (PythonRuntime.pathText text true) = PythonRuntime.pathText text true)
    {db : Tables} {fileName : Nat → Option String} {libraryIds : Option (List String)}
    {item : RuleItem}
    (hcontext : pathContext py db fileName item "media.path" = .list (paths.map .str))
    (hcollected : InLibraryScope db libraryIds item →
      ∀ path ∈ paths, path ∈ collectMediaPaths db (itemMediaType item) libraryIds)
    (expected : PyValue) :
    AcceptsMatch py db fileName libraryIds item "media.path" operator expected (.str text) := by
  rintro - hscope ⟨-, -, hvalue⟩ criterion hcriterion
  have hfield : "media.path" ∈ pathFields := by decide
  obtain ⟨rfl, hne⟩ := normalizePathCriterion_eq_some hpy hfield hoperator hcriterion
  rw [hpy.lawful.str_str, hstrip] at hne
  rw [hpy.lawful.str_str, hstrip, accepts_index_iff hpy hfield hoperator (by rwa [hstrip])]
  rw [hcontext] at hvalue
  obtain ⟨path, hpath, hmatch⟩ := exists_matchesIndexed hpy hoperator hne hstrip htail hvalue
  exact ⟨path, hcollected hscope path hpath, hmatch⟩

/-- The path of a version is collected. -/
theorem acceptsMatch_movieVersion (hpy : SegmentTexts py)
    (hoperator : operator ∈ pathRegexOperator :: pathIncludeOperators)
    (hstrip : PythonText.strip text = text)
    (htail : PythonText.strip (PythonRuntime.pathText text true) = PythonRuntime.pathText text true)
    {db : Tables} (fileName : Nat → Option String) (libraryIds : Option (List String))
    {movie : Movie} {version : MovieVersion} (hversion : version ∈ db.movieVersions)
    (expected : PyValue) :
    AcceptsMatch py db fileName libraryIds (.movieVersion movie version) "media.path" operator
      expected (.str text) := by
  have hcontext : pathContext py db fileName (.movieVersion movie version) "media.path" =
      .list ((version.path.filter (· ≠ "")).toList.map .str) := rfl
  refine acceptsMatch_of_collected hpy hoperator hstrip htail hcontext
    (fun hscope path hpath => ?_) expected
  refine List.mem_filterMap.mpr ⟨version, List.mem_filter.mpr ⟨hversion, ?_⟩,
    Option.mem_toList.mp hpath⟩
  cases libraryIds with
  | none => rfl
  | some ids =>
    cases ids with
    | nil => rfl
    | cons first ids =>
      obtain ⟨libraryId, hlibrary, hmem⟩ := hscope _ rfl (List.cons_ne_nil _ _)
      obtain rfl := List.mem_singleton.mp hlibrary
      exact decide_eq_true hmem

end OwnPaths

end Agreement

/-! ## A movie and an episode -/

section Library

open PythonRuntime (plainRuntime plainRuntime_lawful)

theorem plainRuntime_segmentTexts : SegmentTexts plainRuntime where
  lawful := plainRuntime_lawful
  lower_lastSegment s := by
    have hslash : ((fun c : Char => decide (c ≠ '/')) ∘ Char.toLower) = fun c => decide (c ≠ '/') :=
      funext fun c => by
        simp only [Function.comp_apply, ne_eq, PythonText.toLower_eq_iff (show '/'.toNat < 65 ∨
          90 < '/'.toNat ∧ '/'.toNat < 97 by decide)]
    change lastSegment (PythonText.asciiLower s) = PythonText.asciiLower (lastSegment s)
    simp only [lastSegment, PythonText.asciiLower, String.toList_ofList, ← List.map_reverse,
      List.takeWhile_map, hslash]
  lower_operator := by decide +kernel

def film : Movie :=
  { id := 1, tmdbId := 11, title := "Film" }

def filmVersion : MovieVersion :=
  { id := 1, movieId := 1, service := .plex, serviceItemId := "m", serviceMediaId := "m-1",
    libraryId := "movies", path := some "/movies/Film/Film.mkv" }

def showSeries : Series :=
  { id := 1, tmdbId := 21, title := "Show" }

def firstSeason : Season :=
  { id := 1, seriesId := 1, seasonNumber := 1 }

def pilot : Episode :=
  { id := 1, seasonId := 1, episodeNumber := 1, path := some "/tv/Show/Season 1/Show S01E01.mkv" }

/-- A movie, and a series with an episode in a folder of its season. -/
def library : Tables :=
  { movies := [film]
    movieVersions := [filmVersion]
    series := [showSeries]
    seriesServiceRefs := [⟨1, 1, .plex, "s", "shows", some "/tv/Show"⟩]
    seasons := [firstSeason]
    episodes := [pilot] }

theorem acceptsMatch_iff_film :
    AcceptsMatch plainRuntime library (fun _ => none) (some ["movies"])
        (.movieVersion film filmVersion) "media.path" "contains_any" (.list [.str "/Movies/"])
        (.str "/Movies/") ↔
      (IsTarget library (.movieVersion film filmVersion) →
        InLibraryScope library (some ["movies"]) (.movieVersion film filmVersion) →
          MatchesValue plainRuntime
              (pathContext plainRuntime library (fun _ => none) (.movieVersion film filmVersion))
              "media.path" "contains_any" (.list [.str "/Movies/"]) (.str "/Movies/") →
            ∀ criterion, normalizePathCriterion plainRuntime "media.path" "contains_any"
                (plainRuntime.str (.str "/Movies/")) = some criterion →
              ∃ path ∈ collectMediaPaths library .movie (some ["movies"]),
                MatchesIndexed plainRuntime criterion path) :=
  acceptsMatch_iff plainRuntime_segmentTexts (by decide) (by decide) library (fun _ => none)
    (some ["movies"]) (.movieVersion film filmVersion) (.list [.str "/Movies/"]) (.str "/Movies/")

/-- The path of the version is accepted for the folder that it is in. -/
theorem acceptsMatch_movieVersion_film :
    AcceptsMatch plainRuntime library (fun _ => none) (some ["movies"])
      (.movieVersion film filmVersion) "media.path" "contains_any" (.list [.str "/Movies/"])
      (.str "/Movies/") :=
  acceptsMatch_movieVersion plainRuntime_segmentTexts (by decide) (by decide) (by decide +kernel)
    (fun _ => none) (some ["movies"]) (List.mem_singleton_self _) (.list [.str "/Movies/"])

/-- The file name of an episode is not one of the names of the series folders. -/
theorem not_acceptsMatch_pilot :
    ¬AcceptsMatch plainRuntime library (fun _ => none) (some ["shows"])
      (.episode showSeries firstSeason pilot) "media.file_name" "contains_any"
      (.list [.str "Show S01E01.mkv"]) (.str "Show S01E01.mkv") := by
  intro h
  have htarget : IsTarget library (.episode showSeries firstSeason pilot) :=
    ⟨List.mem_singleton_self _, List.mem_singleton_self _, rfl, List.mem_singleton_self _, rfl⟩
  have hscope : InLibraryScope library (some ["shows"])
      (.episode showSeries firstSeason pilot) := by
    intro ids hids _
    obtain rfl := Option.some.inj hids
    exact ⟨"shows", List.mem_singleton_self _, List.mem_singleton_self _⟩
  have haccepted := h htarget hscope
    ⟨by decide +kernel, List.mem_singleton_self _, by decide +kernel⟩
    ⟨"media.file_name", "contains_any", "Show S01E01.mkv"⟩ (by decide +kernel)
  have hrefused : evaluatePathCriteria plainRuntime
      (indexMediaPathValues plainRuntime (collectMediaPaths library .series (some ["shows"])))
      [⟨"media.file_name", "contains_any", "Show S01E01.mkv"⟩] =
        .ok ([], [⟨⟨"media.file_name", "contains_any", "Show S01E01.mkv"⟩, "no_match"⟩]) := by
    rfl
  rw [Accepts] at haccepted
  cases hrefused.symm.trans haccepted

end Library

end MediaMasterr.Rules
