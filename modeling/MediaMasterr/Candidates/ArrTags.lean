import Mathlib.Data.List.Sort
import MediaMasterr.Foundations.Dict
import MediaMasterr.RuleEngine.Evaluation
import MediaMasterr.Deletion.Services

/-! # Arr tag refresh

`_refresh_arr_tags_for_rules`: before the rules run, the labels that their
`arr.tags` conditions name are taken off the rows whose instances answered, and
put back where an instance still has them. -/

namespace MediaMasterr.Candidates

open MediaMasterr.Foundations MediaMasterr.Database MediaMasterr.RuleEngine

/-! ## The labels that rules name -/

/-- A rule with the root of its definition, when that is an object. -/
structure DefinedRule where
  rule : ReclaimRule
  root : Option RuleNode

def targetMovieVersion : String := "movie_version"

def targetSeries : String := "series"

def validTargetScopes : List String := [targetMovieVersion, targetSeries, "season", "episode"]

/-- `normalize_rule_target`. -/
def normalizeRuleTarget (rule : ReclaimRule) : String :=
  match rule.targetScope.filter (· ∈ validTargetScopes) with
  | some scope => scope
  | none => if rule.mediaType = .movie then targetMovieVersion else targetSeries

/-- A condition node, as the evaluators read it. -/
structure Condition where
  operator : Option PyValue
  value : PyValue

mutual

/-- `_iter_condition_nodes` for one field. -/
def iterConditionNodes (py : PythonRuntime) (field : String) : RuleNode → List Condition
  | .scalar => []
  | .object type _ children nodeField operator value =>
    if type.isStr "condition" then
      if py.strEntry nodeField = field then [⟨operator, value⟩] else []
    else
      match children with
      | none => []
      | some nodes => iterChildren py field nodes

def iterChildren (py : PythonRuntime) (field : String) : List RuleNode → List Condition
  | [] => []
  | node :: nodes => iterConditionNodes py field node ++ iterChildren py field nodes

end

/-- `collect_rule_conditions`. -/
def collectRuleConditions (py : PythonRuntime) (field : String) (rule : DefinedRule) :
    List Condition :=
  match rule.root with
  | none => []
  | some root => iterConditionNodes py field root

/-- `value if isinstance(value, list) else [value]`. -/
def conditionValues : PyValue → List PyValue
  | .list items => items
  | value => [value]

/-- `_collect_arr_tag_labels`. -/
def collectArrTagLabels (py : PythonRuntime) (rules : List DefinedRule) : List String :=
  let conditions := rules.flatMap (collectRuleConditions py "arr.tags")
  ((conditions.flatMap fun condition => conditionValues condition.value).filterMap fun v =>
    if !v.isNone ∧ PythonText.strip (py.str v) ≠ "" then some (py.normalize v)
    else none).eraseDups

/-! ## What the instances answer -/

structure ArrTag where
  id : Nat
  label : String
  deriving DecidableEq, Repr

structure ArrItem where
  id : Nat
  tags : List Nat
  deriving DecidableEq, Repr

/-- The items and the tag catalog of an instance. -/
structure ArrLibrary where
  items : List ArrItem := []
  tags : List ArrTag := []
  deriving DecidableEq, Repr

/-- A row of the Arr refs of one media type. -/
structure ArrRefRow where
  arrId : Nat
  dbId : Nat
  configId : Nat
  deriving DecidableEq, Repr

section Refresh

variable (py : PythonRuntime) (wantedLabels : List String)

/-- `str(label).strip().lower()`. -/
def normalizeLabel (label : String) : String := py.lower (PythonText.strip label)

/-- `tag_id_to_label`. -/
def tagIdToLabel (tags : List ArrTag) : Dict Nat String :=
  Dict.build (fun tag : ArrTag => if normalizeLabel py tag.label = "" then none else some tag.id)
    (fun tag => normalizeLabel py tag.label) tags

/-- `_collect_arr_item_ids_by_label`, as the pairs of its dictionary. -/
def collectArrItemIdsByLabel (library : ArrLibrary) : List (String × Nat) :=
  let labels := tagIdToLabel py library.tags
  library.items.flatMap fun item =>
    item.tags.filterMap fun tagId =>
      ((labels.get? tagId).filter (· ∈ wantedLabels)).map fun label => (label, item.id)

/-- `arr_to_db_by_config`. -/
def arrToDbByConfig (rows : List ArrRefRow) : Dict Nat (Dict Nat Nat) :=
  rows.foldl (fun d row => d.setIn row.configId row.arrId row.dbId) ∅

-- The configurations that are asked, their answers, and the refs; no answer where a fetch raises.
variable (configs : List Nat) (fetch : Nat → Option ArrLibrary) (rows : List ArrRefRow)

/-- What one configuration adds: a database id and a label for every item that is known. -/
def labelAdditionsOf (config : Nat) : List (Nat × String) :=
  match fetch config with
  | none => []
  | some library =>
    (collectArrItemIdsByLabel py wantedLabels library).filterMap fun (label, arrId) =>
      (((arrToDbByConfig rows).get? config).bind (·.get? arrId)).map fun dbId => (dbId, label)

/-- `movie_label_additions` and `series_label_additions`. -/
def labelAdditions : Dict Nat (List String) :=
  (configs.flatMap (labelAdditionsOf py wantedLabels fetch rows)).foldl
    (fun d e => d.addTo e.1 e.2) ∅

/-- The database ids with a ref of one of these configurations. -/
def dbIdsOf (configs : List Nat) : List Nat :=
  ((arrToDbByConfig rows).entries.filter (·.1 ∈ configs)).flatMap fun entry => entry.2.values

/-- `refreshable_db_movie_ids` and `refreshable_db_series_ids`. -/
def refreshableDbIds : List Nat :=
  let successful := configs.filter fun config => (fetch config).isSome
  let failed := configs.filter fun config => (fetch config).isNone
  (dbIdsOf rows successful).filter (· ∉ dbIdsOf rows failed)

/-- The tags of a row after the refresh. -/
def refreshTags (dbId : Nat) (arrTags : Option (List String)) : Option (List String) :=
  if dbId ∈ refreshableDbIds configs fetch rows then
    let current := (arrTags.getD []).filter (· ∉ wantedLabels)
    let added := (labelAdditions py wantedLabels configs fetch rows).setAt dbId
    some ((current ++ added).eraseDups.insertionSort (· ≤ ·))
  else arrTags

end Refresh

/-- The answers of the instances in a refresh, by configuration. -/
structure TagFetches where
  radarr : Nat → Option ArrLibrary := fun _ => none
  sonarr : Nat → Option ArrLibrary := fun _ => none

section Job

variable (py : PythonRuntime) (services : Deletion.Services) (fetches : TagFetches)

/-- The rules whose target is a movie version. -/
def movieRules (rules : List DefinedRule) : List DefinedRule :=
  rules.filter fun r => normalizeRuleTarget r.rule = targetMovieVersion

def seriesRules (rules : List DefinedRule) : List DefinedRule :=
  rules.filter fun r => normalizeRuleTarget r.rule ≠ targetMovieVersion

def movieRefRows (db : Tables) : List ArrRefRow :=
  db.movieArrRefs.map fun ref => ⟨ref.arrMovieId, ref.movieId, ref.serviceConfigId⟩

def seriesRefRows (db : Tables) : List ArrRefRow :=
  db.seriesArrRefs.map fun ref => ⟨ref.arrSeriesId, ref.seriesId, ref.serviceConfigId⟩

/-- The Radarr part: the movies after the refresh. -/
def refreshMovieTags (db : Tables) (labels : List String) : List Movie :=
  if labels.isEmpty then db.movies
  else db.movies.map fun movie =>
    { movie with
      arrTags := refreshTags py labels (services.radarrClientsOrMain.map Prod.fst) fetches.radarr
        (movieRefRows db) movie.id movie.arrTags }

/-- The Sonarr part: the series after the refresh. -/
def refreshSeriesTags (db : Tables) (labels : List String) : List Series :=
  if labels.isEmpty then db.series
  else db.series.map fun series =>
    { series with
      arrTags := refreshTags py labels (services.sonarrClientsOrMain.map Prod.fst) fetches.sonarr
        (seriesRefRows db) series.id series.arrTags }

/-- `_refresh_arr_tags_for_rules`. -/
def refreshArrTagsForRules (db : Tables) (rules : List DefinedRule) : Tables :=
  { db with
    movies := refreshMovieTags py services fetches db (collectArrTagLabels py (movieRules rules))
    series := refreshSeriesTags py services fetches db
      (collectArrTagLabels py (seriesRules rules)) }

end Job

end MediaMasterr.Candidates
