import MediaMasterr.RuleEngine.Evaluation

/-! # Rule definitions

`validate_rule_definition`, which a definition has to pass before it is saved, and the
walk over its conditions that the other checks share. -/

namespace MediaMasterr.RuleEngine

open MediaMasterr.Foundations

/-! ## Fields and operators -/

def valuelessOperators : List String :=
  ["exists", "not_exists", "is_true", "is_false"]

def numericFields : List String :=
  ["media.size", "media.year", "media.days_since_added", "arr.days_since_file_added",
    "seerr.days_since_last_requested", "watch.view_count", "watch.days_since_last_watched",
    "playback.play_count", "playback.total_duration_minutes", "playback.longest_duration_minutes",
    "playback.unique_user_count", "playback.days_since_last_activity", "favorites.user_count",
    "episode.position_by_air_date", "season.position_by_air_date",
    "collection.days_since_latest_sibling_watched", "media_server.user_rating",
    "tmdb.days_since_release", "tmdb.days_since_first_air_date", "tmdb.days_since_last_air_date",
    "season.days_since_air_date", "season.season_number", "season.episode_count",
    "season.watched_percent", "season.seasons_from_latest", "episode.number",
    "episode.season_number", "episode.days_since_air_date", "tmdb.popularity", "tmdb.vote_average",
    "tmdb.vote_count", "tmdb.runtime_minutes", "imdb.rating", "imdb.vote_count", "anilist.score",
    "anilist.popularity", "anilist.favourites", "rottentomatoes.tomato_meter",
    "rottentomatoes.tomato_vote_count", "rottentomatoes.popcorn_meter",
    "rottentomatoes.popcorn_vote_count", "metacritic.metascore", "metacritic.vote_count",
    "metacritic.user_score", "metacritic.user_vote_count", "trakt.rating", "trakt.vote_count",
    "letterboxd.score", "letterboxd.vote_count", "video.width", "video.height", "audio.channels",
    "audio.track_count", "audio.bitrate_kbps", "subtitle.track_count", "video.bitrate_kbps",
    "video.bit_depth", "movie.version_count", "series.tmdb_season_count",
    "series.library_season_count", "media.duration", "disk.free_bytes", "disk.free_percent"]

def textFields : List String :=
  ["tmdb.collection_name", "tmdb.genres", "media.title", "tmdb.original_language",
    "tmdb.origin_country", "media_server.collections", "media.container", "series.status",
    "sonarr.series_status", "video.codec_family", "audio.codec_family", "video.resolution",
    "audio.languages", "subtitle.languages", "video.color_space", "video.color_transfer",
    "video.color_primaries", "arr.tags", "arr.movie_ids", "arr.series_ids", "favorites.usernames",
    "seerr.requested_by_user_ids", "playback.usernames"]

def booleanFields : List String :=
  ["tmdb.in_collection", "video.hdr", "video.dolby_vision", "subtitle.has_forced",
    "season.fully_watched", "season.is_latest_season", "watch.never_watched", "favorites.exists",
    "playback.has_activity", "arr.monitored", "sonarr.latest_season_has_unaired_episodes",
    "sonarr.latest_season_has_finale", "seerr.requested", "seerr.requester_has_watched"]

def temporalFields : List String :=
  ["watch.last_viewed_at", "collection.latest_sibling_watched_at", "playback.last_activity_at",
    "tmdb.release_date", "tmdb.first_air_date", "tmdb.last_air_date", "season.air_date",
    "episode.air_date", "seerr.last_requested_at"]

def pathFields : List String :=
  ["media.path", "media.file_name"]

def numericOperators : List String :=
  ["equals", "not_equals", "greater_than", "greater_than_or_equal", "less_than",
    "less_than_or_equal", "exists", "not_exists"]

def textOperators : List String :=
  ["equals", "not_equals", "in", "not_in", "contains_any", "not_contains_any", "contains_all",
    "not_contains_all", "exists", "not_exists"]

def libraryOperators : List String :=
  ["in", "not_in", "contains_any", "not_contains_any", "contains_all", "not_contains_all", "exists",
    "not_exists"]

def booleanOperators : List String :=
  ["is_true", "is_false", "exists", "not_exists"]

def seerrRequesterIdOperators : List String :=
  ["in", "not_in", "contains_any", "not_contains_any", "contains_all", "not_contains_all", "exists",
    "not_exists"]

def multiValueTextOperators : List String :=
  ["contains_any", "not_contains_any", "contains_all", "not_contains_all", "exists", "not_exists"]

def temporalFieldOperators : List String :=
  ["exists", "not_exists", "before", "on_or_before", "after", "on_or_after"]

def libraryFields : List String := ["library.id"]

/-- The keys of `OPERATOR_LABELS`. -/
def labelledOperators : List String :=
  ["equals", "not_equals", "greater_than", "greater_than_or_equal", "less_than",
    "less_than_or_equal", "before", "on_or_before", "after", "on_or_after", "in", "not_in",
    "contains_any", "not_contains_any", "contains_all", "not_contains_all", "contains_substring",
    "not_contains_substring", "exists", "not_exists", "is_true", "is_false", "matches_any_regex"]

/-- `FIELD_ALLOWED_OPERATORS.get(field)`: the later entries of the table come first. The fields
with a label are those of the table. -/
def fieldAllowedOperators (field : String) : Option (List String) :=
  if field = "arr.tags" then some (textOperators ++ tagSubstringOperators)
  else if field ∈ ["seerr.requested_by_user_ids", "arr.movie_ids", "arr.series_ids"] then
    some seerrRequesterIdOperators
  else if field ∈ ["tmdb.genres", "media_server.collections", "playback.usernames",
      "favorites.usernames"] then some multiValueTextOperators
  else if field ∈ pathFields then some (textOperators ++ ["matches_any_regex"])
  else if field ∈ temporalFields then some temporalFieldOperators
  else if field ∈ booleanFields then some booleanOperators
  else if field ∈ libraryFields then some libraryOperators
  else if field ∈ textFields then some textOperators
  else if field ∈ numericFields then some numericOperators
  else none

/-! ## Conditions -/

/-- A condition as the checks read it. -/
structure ConditionNode where
  field : Option PyValue
  operator : Option PyValue
  value : PyValue

mutual

/-- `_iter_condition_nodes`, for all fields. -/
def RuleNode.conditionNodes : RuleNode → List ConditionNode
  | .scalar => []
  | .object type _ children field operator value =>
    if type.isStr "condition" then [⟨field, operator, value⟩]
    else
      match children with
      | none => []
      | some nodes => conditionNodesOf nodes

def conditionNodesOf : List RuleNode → List ConditionNode
  | [] => []
  | node :: nodes => node.conditionNodes ++ conditionNodesOf nodes

end

theorem conditionNodes_condition {type value : PyValue} {op field operator : Option PyValue}
    {children : Option (List RuleNode)} (h : type.isStr "condition" = true) :
    (RuleNode.object type op children field operator value).conditionNodes =
      [⟨field, operator, value⟩] := by
  cases children <;> simp [RuleNode.conditionNodes, h]

theorem conditionNodes_group {type value : PyValue} {op field operator : Option PyValue}
    {nodes : List RuleNode} (h : type.isStr "group" = true) :
    (RuleNode.object type op (some nodes) field operator value).conditionNodes =
      conditionNodesOf nodes := by
  have hcondition : type.isStr "condition" = false := by
    cases type <;> simp_all [PyValue.isStr]
  simp [RuleNode.conditionNodes, hcondition]

/-- A definition: a JSON object, with the nodes under its keys. -/
abbrev RuleDefinition := List (String × RuleNode)

/-- The root of a definition that `_has_valid_definition` accepts. -/
def RuleDefinition.root? (definition : RuleDefinition) : Option RuleNode :=
  (definition.lookup "root").filter RuleNode.isDict

namespace PythonRuntime

variable (py : PythonRuntime)

/-- `collect_rule_conditions`. -/
def collectRuleConditions (definition : RuleDefinition) (field : Option String) :
    List ConditionNode :=
  match definition.root? with
  | none => []
  | some root =>
    root.conditionNodes.filter fun c => field.all fun name => py.strEntry c.field == name

/-- `_normalize_condition_values`. -/
def normalizeConditionValues (value : PyValue) : List String :=
  let values := match value with
    | .list items => items
    | item => [item]
  ((values.filter (!·.isNone)).map fun item => PythonText.strip (py.str item)).filter (· ≠ "")

/-! ## Validation -/

/-- The part of `_validate_node` about a condition. A node does not tell a missing value from
`null`, so the check for the key is left out. -/
def validateCondition (field operator : Option PyValue) (value : PyValue) : Except String Unit :=
  let name := py.strEntry field
  let operatorName := py.strEntry operator
  match fieldAllowedOperators name with
  | none => .error ("Unsupported rule field: " ++ py.str (field.getD .none))
  | some allowed =>
    if operatorName ∉ labelledOperators then
      .error ("Unsupported rule operator: " ++ py.str (operator.getD .none))
    else if operatorName ∉ allowed then
      .error ("Unsupported rule operator '" ++ operatorName ++ "' for field '" ++ name ++ "'")
    -- some value is not blank
    else if name = "library.id" ∧ operatorName ∈ listOperators ∧
        (py.normalizeConditionValues value).isEmpty then
      .error "Library conditions require at least one library id"
    else .ok ()

mutual

/-- `_validate_node`. -/
def validateNode : RuleNode → Except String Unit
  | .scalar => .error "Rule group child must be an object"
  | .object type op children field operator value =>
    if type.isStr "group" then
      if py.lower (py.strEntry op) ∉ ["and", "or"] then
        .error "Rule group operator must be AND or OR"
      else
        match children with
        | none | some [] => .error "Rule group must include at least one condition"
        | some (node :: nodes) => do
          validateNode node
          validateNodes nodes
    else if !type.isStr "condition" then .error "Rule node must be a group or condition"
    else py.validateCondition field operator value

def validateNodes : List RuleNode → Except String Unit
  | [] => .ok ()
  | node :: nodes => do
    validateNode node
    validateNodes nodes

end

/-- `validate_rule_definition` without a target scope; with one it refuses the fields that the
scope does not have as well. -/
def validateRuleDefinition : Option RuleDefinition → Except String Unit
  | none | some [] => .error "Rule definition is required"
  | some definition =>
    match definition.root? with
    | none => .error "Rule definition must include a root group"
    | some root => py.validateNode root

/-! ## What is accepted -/

section Accepted

variable {py}

mutual

theorem validateCondition_of_validateNode (node : RuleNode) (h : py.validateNode node = .ok ()) :
    ∀ c ∈ node.conditionNodes, py.validateCondition c.field c.operator c.value = .ok () := by
  match node with
  | .scalar => cases h
  | .object type op children field operator value =>
    by_cases hgroup : type.isStr "group" = true
    · cases children with
      | none =>
        simp only [validateNode, hgroup, if_true] at h
        split_ifs at h
      | some nodes =>
        rw [conditionNodes_group hgroup]
        cases nodes with
        | nil =>
          simp only [validateNode, hgroup, if_true] at h
          split_ifs at h
        | cons node nodes =>
          simp only [validateNode, hgroup, if_true] at h
          split_ifs at h
          exact validateCondition_of_validateNodes (node :: nodes) h
    · by_cases htype : type.isStr "condition" = true
      · rw [conditionNodes_condition htype]
        refine List.forall_mem_singleton.mpr ?_
        rcases children with _ | _ | ⟨_, _⟩ <;> simpa [validateNode, hgroup, htype] using h
      · rcases children with _ | _ | ⟨_, _⟩ <;> simp [validateNode, hgroup, htype] at h

theorem validateCondition_of_validateNodes (nodes : List RuleNode)
    (h : py.validateNodes nodes = .ok ()) :
    ∀ c ∈ conditionNodesOf nodes, py.validateCondition c.field c.operator c.value = .ok () := by
  match nodes with
  | [] => exact fun _ hc => absurd hc List.not_mem_nil
  | node :: nodes =>
    rw [conditionNodesOf, List.forall_mem_append]
    rw [validateNodes] at h
    cases hnode : py.validateNode node with
    | error err =>
      rw [hnode] at h
      cases h
    | ok u =>
      rw [hnode] at h
      exact ⟨validateCondition_of_validateNode node hnode,
        validateCondition_of_validateNodes nodes h⟩

end

/-- The operator of an accepted condition is one of those of its field. -/
theorem allowed_of_validateCondition {field operator : Option PyValue} {value : PyValue}
    (h : py.validateCondition field operator value = .ok ()) :
    ∃ allowed, fieldAllowedOperators (py.strEntry field) = some allowed ∧
      py.strEntry operator ∈ allowed := by
  unfold validateCondition at h
  dsimp only at h
  cases hallowed : fieldAllowedOperators (py.strEntry field) with
  | none =>
    rw [hallowed] at h
    cases h
  | some allowed =>
    rw [hallowed] at h
    dsimp only at h
    split_ifs at h with _ hmem
    exact ⟨allowed, rfl, hmem⟩

/-- The conditions of an accepted definition are accepted. -/
theorem validateCondition_of_validateRuleDefinition {definition : RuleDefinition}
    {root : RuleNode} (h : py.validateRuleDefinition (some definition) = .ok ())
    (hroot : definition.root? = some root) {c : ConditionNode} (hc : c ∈ root.conditionNodes) :
    py.validateCondition c.field c.operator c.value = .ok () := by
  have hnode : py.validateNode root = .ok () := by
    cases definition with
    | nil => cases h
    | cons entry entries =>
      simp only [validateRuleDefinition, hroot] at h
      exact h
  exact validateCondition_of_validateNode root hnode c hc

end Accepted

end PythonRuntime

end MediaMasterr.RuleEngine
