import MediaMasterr.Candidates.ArrTags
import MediaMasterr.Foundations.BestScore
import MediaMasterr.Foundations.ThreeValued

/-! # Sonarr rule data

`_activate_sonarr_rule_data_for_rules`: what Sonarr knows of the latest season of
a series. The statistics of the series lists decide some rules; the episodes of
the latest season are fetched only for the series on which a rule is still
undecided. -/

namespace MediaMasterr.Candidates

open MediaMasterr.Foundations MediaMasterr.Database MediaMasterr.RuleEngine

def sonarrStatusField : String := "sonarr.series_status"

def sonarrUnairedField : String := "sonarr.latest_season_has_unaired_episodes"

def sonarrFinaleField : String := "sonarr.latest_season_has_finale"

/-! ## What Sonarr answers -/

/-- A season of a series list; `nextAiring` of its statistics, when these are a mapping. -/
structure SonarrSeasonItem where
  seasonNumber : Int
  nextAiring : Option PyValue := none

structure SonarrSeriesItem where
  id : Option Nat
  status : PyValue := .none
  seasons : List SonarrSeasonItem := []

/-- The entries of an episode that are read. -/
structure SonarrEpisodeItem where
  seasonNumber : PyValue
  airDateUtc : PyValue := .none
  finaleType : PyValue := .none

/-- The interpreter, with `int` on texts. -/
structure SonarrRuntime extends PythonRuntime where
  intOfStr : String → Option Int

/-- The clients of the configurations, the answers that they give, and the current time in
microseconds since year 1; no answer where a fetch raises. -/
structure SonarrWorld where
  clients : List (Nat × Nat) := []
  getAllSeries : Nat → Option (List SonarrSeriesItem) := fun _ => none
  getEpisodes : Nat → Nat → Int → Option (List SonarrEpisodeItem) := fun _ _ _ => none
  now : Int := 0

/-- `_SonarrRefRuleState`; a value that is not known is `RULE_VALUE_UNAVAILABLE`. -/
structure SonarrRefRuleState where
  configId : Nat
  arrSeriesId : Nat
  latestSeasonNumber : Option Int := none
  hasUnairedEpisodes : Option Bool := none
  hasFinale : Option Bool := none
  seriesStatus : Option String := none
  deriving DecidableEq, Repr

/-! ## Values of a series -/

/-- The values of the three Sonarr fields of a series. -/
structure SonarrValues where
  hasUnairedEpisodes : Option Bool := none
  hasFinale : Option Bool := none
  seriesStatus : Option String := none
  deriving DecidableEq, Repr

/-- `_aggregate_sonarr_ref_field`. -/
def aggregateSonarrRefField (values : List (Option Bool)) : Option Bool :=
  if values.any fun value => value = some true then some true
  else if values ≠ [] ∧ values.all fun value => value = some false then some false
  else none

section Runtime

variable (py : SonarrRuntime) (w : SonarrWorld)

/-- `_aggregate_sonarr_status`. -/
def aggregateSonarrStatus (statuses : List (Option String)) : Option String :=
  if statuses = [] ∨ none ∈ statuses then none
  else
    let normalized := ((statuses.reduceOption.filter (· ≠ "")).map fun status =>
      py.lower (PythonText.strip status)).eraseDups
    match normalized with
    | [status] => some status
    | _ => none

/-- `_sonarr_values_by_series`, for one series. -/
def sonarrValues (states : List SonarrRefRuleState) : SonarrValues where
  hasUnairedEpisodes := aggregateSonarrRefField (states.map SonarrRefRuleState.hasUnairedEpisodes)
  hasFinale := aggregateSonarrRefField (states.map SonarrRefRuleState.hasFinale)
  seriesStatus := aggregateSonarrStatus py (states.map SonarrRefRuleState.seriesStatus)

/-! ## Reading the answers -/

/-- The point in time of a datetime, as `ensure_utc` reads it. -/
def utcMicros (t : PyDateTime) : Int := (t.micros : Int) - t.utcOffset.getD 0

/-- `_parse_sonarr_datetime`. -/
def parseSonarrDatetime : PyValue → Option Int
  | .datetime t => some (utcMicros t)
  | .str s =>
    if PythonText.strip s = "" then none
    else
      (py.datetimeFromIsoformat
        (PythonRuntime.dateValue.isoWithOffset (PythonText.strip s))).map utcMicros
  | _ => none

/-- The value is a time after now. -/
def isLater (value : PyValue) : Bool := (parseSonarrDatetime py value).any (w.now < ·)

/-- `_sonarr_episode_season_number`. -/
def sonarrEpisodeSeasonNumber (episode : SonarrEpisodeItem) : Option Int :=
  match episode.seasonNumber with
  | .bool b => some (if b then 1 else 0)
  | .int n => some n.val
  | .str s => py.intOfStr s
  | _ => none

/-- `str(value or "")`. -/
def strOrEmpty (value : PyValue) : String := if value.truthy then py.str value else ""

/-- The clients by configuration: a main client without a configuration serves all of them. -/
def effectiveClients (rows : List ArrRefRow) : List (Nat × Nat) :=
  match w.clients with
  | [(0, client)] => (rows.map ArrRefRow.configId).eraseDups.map fun config => (config, client)
  | clients => clients

/-- The series of a ref in the list of its instance. -/
def sonarrSeriesOf (rows : List ArrRefRow) (row : ArrRefRow) : Option SonarrSeriesItem :=
  ((effectiveClients w rows).lookup row.configId).bind fun client =>
    (w.getAllSeries client).bind fun items =>
      (Dict.build SonarrSeriesItem.id id items).get? row.arrId

/-- `max(regular_seasons, key=season_number)`, the first one among equals. -/
def latestSeason (series : SonarrSeriesItem) : Option SonarrSeasonItem :=
  (bestFrom SonarrSeasonItem.seasonNumber 0 series.seasons).1

/-- `raw_status.lower()`, when there is a status. -/
def statusOf (series : SonarrSeriesItem) : Option String :=
  let rawStatus := PythonText.strip (strOrEmpty py series.status)
  if rawStatus = "" then none else some (py.lower rawStatus)

/-- The statistics of the season report an airing after now. -/
def airsLater (season : SonarrSeasonItem) : Bool := season.nextAiring.any (isLater py w)

/-- The state of a ref before any episode is fetched. -/
def initialState (rows : List ArrRefRow) (row : ArrRefRow) : SonarrRefRuleState :=
  let series := sonarrSeriesOf w rows row
  let season := series.bind latestSeason
  { configId := row.configId
    arrSeriesId := row.arrId
    latestSeasonNumber := season.map SonarrSeasonItem.seasonNumber
    hasUnairedEpisodes := if season.any (airsLater py w) then some true else none
    seriesStatus := series.bind (statusOf py) }

/-- The episodes of the season `n` among those that were fetched. -/
def episodesOfSeason (n : Int) (episodes : List SonarrEpisodeItem) : List SonarrEpisodeItem :=
  episodes.filter fun episode => sonarrEpisodeSeasonNumber py episode = some n ∧ 0 < n

/-- The fetched episodes of the latest season of a ref. -/
def fetchedEpisodes (rows : List ArrRefRow) (state : SonarrRefRuleState) :
    Option (List SonarrEpisodeItem) :=
  state.latestSeasonNumber.bind fun n =>
    ((effectiveClients w rows).lookup state.configId).bind fun client =>
      (w.getEpisodes client state.arrSeriesId n).map (episodesOfSeason py n)

/-- `finaleType` is that of a season or series. -/
def isFinale (episode : SonarrEpisodeItem) : Bool :=
  py.lower (PythonText.strip (strOrEmpty py episode.finaleType)) ∈ ["season", "series"]

/-- `load_latest_season`. -/
def loadLatestSeason (rows : List ArrRefRow) (state : SonarrRefRuleState) : SonarrRefRuleState :=
  match fetchedEpisodes py w rows state with
  | none | some [] => state
  | some episodes =>
    { state with
      hasUnairedEpisodes := some (episodes.any fun episode => isLater py w episode.airDateUtc)
      hasFinale := some (episodes.any (isFinale py)) }

/-! ## Rules -/

/-- The value of a Boolean Sonarr field in a rule context. -/
def booleanValue : Option Bool → PyValue
  | none => .unavailable
  | some b => .bool b

def statusValue : Option String → PyValue
  | none => .unavailable
  | some status => .str status

/-- The context of a series: the Sonarr fields come from the active resolver. -/
def seriesContext (base : Context) (values : SonarrValues) : Context := fun field =>
  if field = sonarrUnairedField then booleanValue values.hasUnairedEpisodes
  else if field = sonarrFinaleField then booleanValue values.hasFinale
  else if field = sonarrStatusField then statusValue values.seriesStatus
  else base field

/-- `evaluate_advanced_rule_state` of a rule on a series, with the other fields of the context. -/
def evaluateSeriesRuleState (base : DefinedRule → Context) (values : SonarrValues)
    (rule : DefinedRule) : Except PyError (Option Bool) :=
  match rule.root with
  | none => .ok (some false)
  | some root => py.evaluateNodeState (seriesContext (base rule) values) root

/-- The rules with a condition on one of the Sonarr fields. -/
def sonarrRules (rules : List DefinedRule) : List DefinedRule :=
  (seriesRules rules).filter fun rule =>
    [sonarrStatusField, sonarrUnairedField, sonarrFinaleField].any fun field =>
      !(collectRuleConditions py.toPythonRuntime field rule).isEmpty

/-- The series rules with a condition on the episodes of the latest season. -/
def episodeStateRules (rules : List DefinedRule) : List DefinedRule :=
  (sonarrRules py rules).filter fun rule =>
    normalizeRuleTarget rule.rule = targetSeries ∧
      [sonarrUnairedField, sonarrFinaleField].any fun field =>
        !(collectRuleConditions py.toPythonRuntime field rule).isEmpty

def statusRules (rules : List DefinedRule) : List DefinedRule :=
  (sonarrRules py rules).filter fun rule =>
    !(collectRuleConditions py.toPythonRuntime sonarrStatusField rule).isEmpty

/-- Some rule is undecided on the series. -/
def anyUndecided (base : DefinedRule → Context) (values : SonarrValues) :
    List DefinedRule → Except PyError Bool
  | [] => .ok false
  | rule :: rules => do
    let state ← evaluateSeriesRuleState py base values rule
    if state = none then return true
    anyUndecided base values rules

/-! ## The fetch -/

-- The contexts of the series without the Sonarr fields, and the refs of the series.
variable (base : DefinedRule → Nat → Context) (rows : List ArrRefRow)

/-- The values of a series, from the states of its refs. -/
def valuesOf (state : ArrRefRow → SonarrRefRuleState) (seriesId : Nat) : SonarrValues :=
  sonarrValues py ((rows.filter (·.dbId = seriesId)).map state)

/-- `partial_values`. -/
def partialValues (seriesId : Nat) : SonarrValues :=
  valuesOf py rows (initialState py w rows) seriesId

/-- `needed_series_ids`. -/
def neededSeriesIds (rules : List DefinedRule) : List Nat → Except PyError (List Nat)
  | [] => .ok []
  | seriesId :: seriesIds => do
    let undecided ← anyUndecided py (fun rule => base rule seriesId)
      (partialValues py w rows seriesId) (episodeStateRules py rules)
    let needed ← neededSeriesIds rules seriesIds
    return if undecided then seriesId :: needed else needed

/-- `final_values`, when the episodes of these series are fetched. -/
def fetchedValues (needed : List Nat) (seriesId : Nat) : SonarrValues :=
  valuesOf py rows (fun row =>
    if row.dbId ∈ needed then loadLatestSeason py w rows (initialState py w rows row)
    else initialState py w rows row) seriesId

/-- The result of the activation: the values that are active at its end, the series with
unavailable data and the protections of rules to keep. -/
structure SonarrRuleDataResult where
  values : Nat → SonarrValues
  unavailableSeriesIds : List Nat
  preserveProtectionKeys : List (Nat × Nat)

/-- `normalize_rule_outcome(rule) == "protect"`. -/
def isProtectRule (rule : DefinedRule) : Bool := rule.rule.outcome == some "protect"

/-- The rules whose state on a series is still unavailable. -/
def undecidedRules (base : DefinedRule → Context) (values : SonarrValues) :
    List DefinedRule → Except PyError (List DefinedRule)
  | [] => .ok []
  | rule :: rules => do
    let state ← evaluateSeriesRuleState py base values rule
    let undecided ← undecidedRules base values rules
    return if state = none then rule :: undecided else undecided

/-- The rules that lack data of one series: the undecided ones, and all status rules where the
status is not known. -/
def lackingRules (rules : List DefinedRule) (values : Nat → SonarrValues) (seriesId : Nat) :
    Except PyError (List DefinedRule) := do
  let undecided ← undecidedRules py (fun rule => base rule seriesId) (values seriesId)
    (episodeStateRules py rules)
  return undecided ++ if (values seriesId).seriesStatus = none then statusRules py rules else []

/-- The series that lack data, with the rules that lack it. -/
def lackingSeries (rules : List DefinedRule) (values : Nat → SonarrValues) :
    List Nat → Except PyError (List (Nat × List DefinedRule))
  | [] => .ok []
  | seriesId :: seriesIds => do
    let lacking ← lackingRules py base rules values seriesId
    let rest ← lackingSeries rules values seriesIds
    return if lacking = [] then rest else (seriesId, lacking) :: rest

/-- The series that are not removed. -/
def presentSeriesIds (db : Tables) : List Nat :=
  (db.series.filter fun series => series.removedAt.isNone).map Series.id

/-- The refs of the series that are not removed. -/
def presentRefRows (db : Tables) : List ArrRefRow :=
  (seriesRefRows db).filter (·.dbId ∈ presentSeriesIds db)

/-- `_activate_sonarr_rule_data_for_rules`, without the texts of errors; `preserved` are the keys of
the watch inventory. -/
def activateSonarrRuleDataForRules (db : Tables) (preserved : List (Nat × Nat))
    (rules : List DefinedRule) : Except PyError SonarrRuleDataResult :=
  if (sonarrRules py rules).isEmpty then .ok ⟨fun _ => {}, [], preserved⟩
  else do
    let rows := presentRefRows db
    let needed ← neededSeriesIds py w base rows rules (presentSeriesIds db)
    let values := fetchedValues py w rows needed
    let lacking ← lackingSeries py base rules values (presentSeriesIds db)
    return ⟨values, lacking.map Prod.fst, preserved ++ lacking.flatMap fun entry =>
      (entry.2.filter isProtectRule).map fun rule => (rule.rule.id, entry.1)⟩

end Runtime

end MediaMasterr.Candidates
