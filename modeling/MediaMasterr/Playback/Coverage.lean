import Mathlib.Data.List.Dedup
import MediaMasterr.Foundations.Doubles
import MediaMasterr.Playback.History

/-! # Playback coverage

`load_playback_rule_snapshot`: which rule targets have playback data, and how many of
the current ones have none. The targets with data are gathered from the current rows,
but also from retained aggregates and supplemental matches, which can name a target
that is gone; the count of the targets without data subtracts them all the same. -/

namespace MediaMasterr.Playback

open MediaMasterr.Foundations MediaMasterr.Database

/-! ## Refresh results and tables -/

structure PlaybackProviderStatus where
  configId : Nat
  provider : Service
  observedService : Service
  available : Bool
  error : Option String := none
  importedEvents : Nat := 0
  deriving DecidableEq, Repr

structure PlaybackRefreshResult where
  statuses : List PlaybackProviderStatus := []

namespace PlaybackRefreshResult

variable (result : PlaybackRefreshResult)

def availableServices : List Service :=
  ((result.statuses.filter (·.available)).map (·.observedService)).dedup

def errors : List String := (result.statuses.filterMap (·.error)).filter (· ≠ "")

def hasConfiguredProvider : Bool := result.statuses ≠ []

end PlaybackRefreshResult

structure SupplementalMediaMatch where
  sourceService : Service
  movieId : Option Nat := none
  seriesId : Option Nat := none
  seasonId : Option Nat := none
  deriving DecidableEq, Repr

/-- The tables that the snapshot reads beside the media tables. -/
structure CoverageTables where
  aggregates : List PlaybackHistoryAggregate := []
  supplementalMatches : List SupplementalMediaMatch := []

/-! ## Rows of media that are not removed -/

section

variable (db : Tables)

def currentVersions : List (MovieVersion × Movie) :=
  (joinOn MovieVersion.movieId Movie.id db.movieVersions db.movies).filter (·.2.removedAt.isNone)

def currentSeries : List Series := db.series.filter (·.removedAt.isNone)

def currentSeriesRefs : List (SeriesServiceRef × Series) :=
  (joinOn SeriesServiceRef.seriesId Series.id db.seriesServiceRefs db.series).filter
    (·.2.removedAt.isNone)

def currentSeasons : List (Season × Series) :=
  (joinOn Season.seriesId Series.id db.seasons db.series).filter (·.2.removedAt.isNone)

def currentEpisodes : List ((Episode × Season) × Series) :=
  (identityRows db).filter (·.2.removedAt.isNone)

/-- The targets of the media that are not removed. -/
def currentTargets : List PlaybackTargetKey :=
  ((currentVersions db).map (fun row => ("movie_version", row.1.id)) ++
    (currentSeries db).map (fun s => ("series", s.id)) ++
    (currentSeasons db).map (fun row => ("season", row.1.id)) ++
    (currentEpisodes db).map fun row => ("episode", row.1.1.id)).dedup

end

/-- The columns in which the media servers have an id of a season. -/
def seasonIds (s : Season) : List (Service × Option String) :=
  [(.plex, s.plexSeasonRatingKey), (.jellyfin, s.jellyfinSeasonId), (.emby, s.embySeasonId)]

def episodeIds (e : Episode) : List (Service × Option String) :=
  [(.plex, e.plexRatingKey), (.jellyfin, e.jellyfinEpisodeId), (.emby, e.embyEpisodeId)]

/-- Some available service has an id of the row. -/
def hasIdOf (services : List Service) (ids : List (Service × Option String)) : Bool :=
  ids.any fun id => id.1 ∈ services ∧ id.2.isSome

/-- The services that have a nonempty id of the row. -/
def servicesWithId (ids : List (Service × Option String)) : List Service :=
  (ids.filter fun id => id.2.any (· ≠ "")).map Prod.fst

/-! ## The snapshot -/

structure PlaybackValues where
  hasActivity : Bool := false
  playCount : Nat := 0
  totalDurationMinutes : ℚ := 0
  longestDurationMinutes : ℚ := 0
  uniqueUserCount : Nat := 0
  usernames : Option (List String) := some []
  lastActivityAt : Option Nat := none
  daysSinceLastActivity : Option Int := none

/-- `_aggregate_values`; a quotient is the nearest double, and times are in microseconds. -/
def aggregateValues (now : Int) (row : PlaybackHistoryAggregate) : PlaybackValues where
  hasActivity := 0 < row.playCount
  playCount := row.playCount
  totalDurationMinutes := Doubles.round (row.totalDurationSeconds / 60)
  longestDurationMinutes := Doubles.round (row.longestDurationSeconds / 60)
  uniqueUserCount := row.uniqueUserCount
  usernames :=
    if row.usernamesComplete ∨ row.usernames ≠ [] then some row.usernames else none
  lastActivityAt := row.lastActivityAt
  daysSinceLastActivity := row.lastActivityAt.map fun t => (now - t) / 86400000000

structure PlaybackRuleSnapshot where
  valuesByTarget : Dict PlaybackTargetKey PlaybackValues
  availableTargets : List PlaybackTargetKey
  targetCounts : Dict String Nat
  errors : List String
  hasConfiguredProvider : Bool
  providerStatuses : List PlaybackProviderStatus
  unavailableReasons : Dict String (Dict String Nat)
  unavailableTargetSamples : Dict String (List Nat)

/-- `unavailable_count`; the difference is not negative. -/
def PlaybackRuleSnapshot.unavailableCount (snapshot : PlaybackRuleSnapshot)
    (scopes : List String) : Nat :=
  (scopes.dedup.map fun scope => (snapshot.targetCounts.get? scope).getD 0).sum -
    snapshot.availableTargets.countP (·.1 ∈ scopes)

/-- `", ".join(sorted(service.value for service in services))`. -/
def serviceNames (services : List Service) : String :=
  ", ".intercalate ((services.map Service.value).mergeSort (· ≤ ·))

/-- `_playback_unavailable_reason`. -/
def playbackUnavailableReason (targetServices : List Service) (result : PlaybackRefreshResult) :
    String :=
  let services (p : PlaybackProviderStatus → Bool) : List Service :=
    (result.statuses.filter p).map (·.observedService)
  let failed := targetServices.filter
    (· ∈ services fun s => !s.available && s.error.any (· ≠ ""))
  let unavailable := targetServices.filter
    (· ∈ services fun s => !s.available && !s.error.any (· ≠ ""))
  if result.statuses = [] then "no playback provider configured"
  else if failed ≠ [] then "playback provider refresh failed for " ++ serviceNames failed
  else if unavailable ≠ [] then
    "playback provider unavailable for " ++ serviceNames unavailable
  else if targetServices ≠ [] ∧ ∀ s ∈ targetServices, s ∉ result.availableServices then
    "media service not covered by an available playback provider: " ++
      serviceNames targetServices
  else if targetServices = [] then "missing media-server identity"
  else "missing playback target mapping"

section

variable (db : Tables) (p : CoverageTables)

/-- The rows of the supplemental matches of the available services. -/
def mappedRows (services : List Service) : List SupplementalMediaMatch :=
  p.supplementalMatches.filter (·.sourceService ∈ services)

/-- The targets that a supplemental match names; a movie stands for its versions. -/
def SupplementalMediaMatch.targets (m : SupplementalMediaMatch) : List PlaybackTargetKey :=
  (m.seriesId.map ("series", ·)).toList ++ (m.seasonId.map ("season", ·)).toList

/-- The targets that the available services observe. -/
def observedTargets (services : List Service) : List PlaybackTargetKey :=
  ((currentVersions db).filter (·.1.service ∈ services)).map
      (fun row => ("movie_version", row.1.id)) ++
    ((currentSeriesRefs db).filter (·.1.service ∈ services)).map
      (fun row => ("series", row.1.seriesId)) ++
    ((currentSeasons db).filter fun row => hasIdOf services (seasonIds row.1)).map
      (fun row => ("season", row.1.id)) ++
    ((currentEpisodes db).filter fun row => hasIdOf services (episodeIds row.1.1)).map
      (fun row => ("episode", row.1.1.id)) ++
    (mappedRows p services).flatMap SupplementalMediaMatch.targets ++
    ((currentVersions db).filter fun row =>
      (mappedRows p services).any (·.movieId = some row.1.movieId)).map
      fun row => ("movie_version", row.1.id)

/-- `available_targets`; retained history stays evaluable. -/
def availableTargets (result : PlaybackRefreshResult) : List PlaybackTargetKey :=
  let services := result.availableServices
  ((if services = [] then [] else observedTargets db p services) ++
    p.aggregates.map PlaybackHistoryAggregate.key).dedup

/-- `target_services`. -/
def targetServices : Dict String (Dict Nat (List Service)) :=
  let versions := Dict.build (fun row : MovieVersion × Movie => some row.1.id)
    (fun row => [row.1.service]) (currentVersions db)
  let series := Dict.build (fun s : Series => some s.id)
    (fun s => (((currentSeriesRefs db).filter (·.1.seriesId = s.id)).map (·.1.service)).dedup)
    (currentSeries db)
  let seasons := Dict.build (fun row : Season × Series => some row.1.id)
    (fun row => servicesWithId (seasonIds row.1)) (currentSeasons db)
  let episodes := Dict.build (fun row : (Episode × Season) × Series => some row.1.1.id)
    (fun row => servicesWithId (episodeIds row.1.1)) (currentEpisodes db)
  [("movie_version", versions), ("series", series), ("season", seasons),
    ("episode", episodes)].foldl (fun d e => d.set e.1 e.2) ∅

/-- The targets of a scope that are not available. -/
def unknownTargets (available : List PlaybackTargetKey) (scope : String)
    (servicesByTarget : Dict Nat (List Service)) : List (Nat × List Service) :=
  servicesByTarget.entries.filter fun e => (scope, e.1) ∉ available

/-- `load_playback_rule_snapshot`. -/
def loadPlaybackRuleSnapshot (now : Int) (result : PlaybackRefreshResult) :
    PlaybackRuleSnapshot :=
  let available := availableTargets db p result
  let values := Dict.build (fun row : PlaybackHistoryAggregate => some row.key)
    (aggregateValues now) p.aggregates
  { valuesByTarget := available.foldl
      (fun d key => if (d.get? key).isSome then d else d.set key {}) values
    availableTargets := available
    targetCounts := (targetServices db).mapValues fun _ d => d.entries.length
    errors := result.errors
    hasConfiguredProvider := result.hasConfiguredProvider
    providerStatuses := result.statuses
    unavailableReasons := (targetServices db).mapValues fun scope d =>
      (unknownTargets available scope d).foldl (fun counts e =>
        let reason := playbackUnavailableReason e.2 result
        counts.set reason ((counts.get? reason).getD 0 + 1)) ∅
    unavailableTargetSamples := (targetServices db).mapValues fun scope d =>
      (((unknownTargets available scope d).map Prod.fst).mergeSort (· ≤ ·)).take 10 }

end

/-! ## Exact counts -/

/-- The count is the number of current targets without data. -/
structure CoverageExact (db : Tables) (snapshot : PlaybackRuleSnapshot) (scopes : List String) :
    Prop where
  count : snapshot.unavailableCount scopes = (currentTargets db).countP fun key =>
    key.1 ∈ scopes ∧ key ∉ snapshot.availableTargets
  zero : snapshot.unavailableCount scopes = 0 →
    ∀ key ∈ currentTargets db, key.1 ∈ scopes → key ∈ snapshot.availableTargets

section

variable (db : Tables) (p : CoverageTables) (services : List Service)

/-- The targets that aggregates and supplemental matches name, current or not. -/
def namedTargets : List PlaybackTargetKey :=
  p.aggregates.map PlaybackHistoryAggregate.key ++
    (mappedRows p services).flatMap SupplementalMediaMatch.targets

/-- An available service observes a current target. -/
inductive IsObserved : PlaybackTargetKey → Prop
  | version {row : MovieVersion × Movie} (hrow : row ∈ currentVersions db)
      (h : row.1.service ∈ services ∨
        ∃ m ∈ mappedRows p services, m.movieId = some row.1.movieId) :
      IsObserved ("movie_version", row.1.id)
  | series {row : SeriesServiceRef × Series} (hrow : row ∈ currentSeriesRefs db)
      (h : row.1.service ∈ services) : IsObserved ("series", row.1.seriesId)
  | season {row : Season × Series} (hrow : row ∈ currentSeasons db)
      (h : hasIdOf services (seasonIds row.1)) : IsObserved ("season", row.1.id)
  | episode {row : (Episode × Season) × Series} (hrow : row ∈ currentEpisodes db)
      (h : hasIdOf services (episodeIds row.1.1)) : IsObserved ("episode", row.1.1.id)

end

section

variable {db : Tables} {p : CoverageTables} {services : List Service} {key : PlaybackTargetKey}
variable {now : Int} {result : PlaybackRefreshResult} {scopes : List String} {id : Nat}

theorem mem_observedTargets : key ∈ observedTargets db p services ↔
    IsObserved db p services key ∨
      key ∈ (mappedRows p services).flatMap SupplementalMediaMatch.targets := by
  simp only [observedTargets, List.mem_append, List.mem_map (f := fun row => (_, _)),
    List.mem_filter, decide_eq_true_eq, List.any_eq_true]
  constructor
  · rintro (((((⟨row, ⟨hrow, h⟩, rfl⟩ | ⟨row, ⟨hrow, h⟩, rfl⟩) | ⟨row, ⟨hrow, h⟩, rfl⟩) |
      ⟨row, ⟨hrow, h⟩, rfl⟩) | hmatch) | ⟨row, ⟨hrow, h⟩, rfl⟩)
    · exact .inl (.version hrow (.inl h))
    · exact .inl (.series hrow h)
    · exact .inl (.season hrow h)
    · exact .inl (.episode hrow h)
    · exact .inr hmatch
    · exact .inl (.version hrow (.inr h))
  · rintro (hobserved | hmatch)
    · cases hobserved with
      | version hrow h =>
        rcases h with h | h
        · exact .inl (.inl (.inl (.inl (.inl ⟨_, ⟨hrow, h⟩, rfl⟩))))
        · exact .inr ⟨_, ⟨hrow, h⟩, rfl⟩
      | series hrow h => exact .inl (.inl (.inl (.inl (.inr ⟨_, ⟨hrow, h⟩, rfl⟩))))
      | season hrow h => exact .inl (.inl (.inl (.inr ⟨_, ⟨hrow, h⟩, rfl⟩)))
      | episode hrow h => exact .inl (.inl (.inr ⟨_, ⟨hrow, h⟩, rfl⟩))
    · exact .inl (.inr hmatch)

/-- Without an available service nothing is observed. -/
theorem observedTargets_nil : observedTargets db p [] = [] := by
  simp [observedTargets, mappedRows, hasIdOf]

theorem mem_availableTargets : key ∈ availableTargets db p result ↔
    IsObserved db p result.availableServices key ∨
      key ∈ namedTargets p result.availableServices := by
  have hguard : (if result.availableServices = [] then []
      else observedTargets db p result.availableServices) =
      observedTargets db p result.availableServices := by
    split_ifs with hnone
    · rw [hnone, observedTargets_nil]
    · rfl
  simp only [availableTargets, hguard, List.mem_dedup, List.mem_append, mem_observedTargets,
    namedTargets]
  tauto

theorem IsObserved.current (h : IsObserved db p services key) : key ∈ currentTargets db := by
  simp only [currentTargets, List.mem_dedup, List.mem_append]
  cases h with
  | version hrow _ => exact .inl (.inl (.inl (List.mem_map.mpr ⟨_, hrow, rfl⟩)))
  | series hrow _ =>
    obtain ⟨hrow, hremoved⟩ := List.mem_filter.mp hrow
    obtain ⟨-, hseries, hid⟩ := mem_joinOn.mp hrow
    exact .inl (.inl (.inr (List.mem_map.mpr
      ⟨_, List.mem_filter.mpr ⟨hseries, hremoved⟩, Prod.ext rfl hid⟩)))
  | season hrow _ => exact .inl (.inr (List.mem_map.mpr ⟨_, hrow, rfl⟩))
  | episode hrow _ => exact .inr (List.mem_map.mpr ⟨_, hrow, rfl⟩)

/-! ## The counts of the scopes -/

/-- A dictionary whose keys are the current targets of a scope has as many entries. -/
theorem length_entries_build {τ : Type*} {scope : String} {key : τ → Option Nat}
    {value : τ → List Service} {rows : List τ}
    (hkeys : ∀ id, (∃ row ∈ rows, key row = some id) ↔ (scope, id) ∈ currentTargets db) :
    (Dict.build key value rows).entries.length = (currentTargets db).countP (·.1 = scope) := by
  have hnodup : ((Dict.build key value rows).keys.map (scope, ·)).Nodup :=
    List.Nodup.map (fun _ _ heq => (Prod.mk.inj heq).2) (Dict.build key value rows).nodup
  have hperm : ((Dict.build key value rows).keys.map (scope, ·)).Perm
      ((currentTargets db).filter (·.1 = scope)) := by
    refine (List.perm_ext_iff_of_nodup hnodup ((List.nodup_dedup _).filter _)).mpr fun target => ?_
    simp only [List.mem_map, List.mem_filter, decide_eq_true_eq, Dict.mem_keys_build, hkeys]
    constructor
    · rintro ⟨id, hid, rfl⟩
      exact ⟨hid, rfl⟩
    · rintro ⟨htarget, rfl⟩
      exact ⟨target.2, htarget, rfl⟩
  rw [List.countP_eq_length_filter, ← hperm.length_eq, List.length_map, Dict.keys,
    List.length_map]

/-- The count of a scope is the number of its current targets. -/
theorem targetCounts_eq (scope : String) :
    ((loadPlaybackRuleSnapshot db p now result).targetCounts.get? scope).getD 0 =
      (currentTargets db).countP (·.1 = scope) := by
  rw [loadPlaybackRuleSnapshot, Dict.get?_mapValues]
  simp only [targetServices, List.foldl_cons, List.foldl_nil, Dict.get?_set, Dict.get?_empty]
  split_ifs with hepisode hseason hseries hversion
  · subst hepisode
    exact length_entries_build fun id => by simp [currentTargets]
  · subst hseason
    exact length_entries_build fun id => by simp [currentTargets]
  · subst hseries
    exact length_entries_build fun id => by simp [currentTargets]
  · subst hversion
    exact length_entries_build fun id => by simp [currentTargets]
  · symm
    rw [Option.map_none, Option.getD_none, List.countP_eq_zero]
    rintro key hkey hscope
    obtain rfl := of_decide_eq_true hscope
    simp only [currentTargets, List.mem_dedup, List.mem_append, List.mem_map] at hkey
    rcases hkey with ((⟨_, -, rfl⟩ | ⟨_, -, rfl⟩) | ⟨_, -, rfl⟩) | ⟨_, -, rfl⟩
    · exact hversion rfl
    · exact hseries rfl
    · exact hseason rfl
    · exact hepisode rfl

/-- Together the scopes have the current targets whose scope is one of them. -/
theorem sum_targetCounts (scopes : List String) :
    (scopes.dedup.map fun scope =>
      ((loadPlaybackRuleSnapshot db p now result).targetCounts.get? scope).getD 0).sum =
      ((currentTargets db).filter (·.1 ∈ scopes)).length := by
  have hsplits : Splits scopes.dedup (fun scope (key : PlaybackTargetKey) => key.1 = scope)
      (fun key => key.1 ∈ scopes) (currentTargets db) := by
    refine splits_of_key id (fun key => some key.1) ?_ ?_ ?_
    · rw [List.map_id]
      exact List.nodup_dedup scopes
    · rintro key - scope -
      simp
    · rintro key -
      simp
  rw [hsplits.length_eq]
  refine congrArg List.sum (List.map_congr_left fun scope _ => ?_)
  rw [targetCounts_eq, List.countP_eq_length_filter]

theorem unavailableCount_eq (now : Int) :
    (loadPlaybackRuleSnapshot db p now result).unavailableCount scopes =
      ((currentTargets db).filter (·.1 ∈ scopes)).length -
        ((availableTargets db p result).filter (·.1 ∈ scopes)).length := by
  have havailable : (loadPlaybackRuleSnapshot db p now result).availableTargets =
    availableTargets db p result := rfl
  rw [PlaybackRuleSnapshot.unavailableCount, sum_targetCounts, havailable,
    List.countP_eq_length_filter]

theorem nodup_currentTargets (db : Tables) : (currentTargets db).Nodup := List.nodup_dedup _

theorem nodup_availableTargets (db : Tables) (p : CoverageTables) (result : PlaybackRefreshResult) :
    (availableTargets db p result).Nodup := List.nodup_dedup _

/-- Only a named target can have data and not be current. -/
theorem available_current_iff :
    (∀ key ∈ (availableTargets db p result).filter (·.1 ∈ scopes),
      key ∈ (currentTargets db).filter (·.1 ∈ scopes)) ↔
      ∀ key ∈ namedTargets p result.availableServices, key.1 ∈ scopes →
        key ∈ currentTargets db := by
  simp only [List.mem_filter, decide_eq_true_eq, mem_availableTargets]
  constructor
  · exact fun h key hkey hscope => (h key ⟨.inr hkey, hscope⟩).1
  · rintro h key ⟨hobserved | hnamed, hscope⟩
    · exact ⟨hobserved.current, hscope⟩
    · exact ⟨h key hnamed hscope, hscope⟩

theorem current_available_iff :
    (∀ key ∈ (currentTargets db).filter (·.1 ∈ scopes),
      key ∈ (availableTargets db p result).filter (·.1 ∈ scopes)) ↔
      ∀ key ∈ currentTargets db, key.1 ∈ scopes →
        IsObserved db p result.availableServices key ∨
          key ∈ namedTargets p result.availableServices := by
  simp only [List.mem_filter, decide_eq_true_eq, mem_availableTargets]
  constructor
  · exact fun h key hkey hscope => (h key ⟨hkey, hscope⟩).1
  · exact fun h key hkey => ⟨h key hkey.1 hkey.2, hkey.2⟩

/-- The count is exact when what aggregates and supplemental matches name in the scopes is current,
or when every current target of the scopes has data. -/
theorem coverageExact_iff (db : Tables) (p : CoverageTables) (now : Int)
    (result : PlaybackRefreshResult) (scopes : List String) :
    CoverageExact db (loadPlaybackRuleSnapshot db p now result) scopes ↔
      (∀ key ∈ namedTargets p result.availableServices, key.1 ∈ scopes →
        key ∈ currentTargets db) ∨
      ∀ key ∈ currentTargets db, key.1 ∈ scopes →
        IsObserved db p result.availableServices key ∨
          key ∈ namedTargets p result.availableServices := by
  have hexact := length_sub_length_eq_iff ((nodup_currentTargets db).filter (·.1 ∈ scopes))
    ((nodup_availableTargets db p result).filter (·.1 ∈ scopes))
    (fun key => key ∉ availableTargets db p result) fun key hkey => by
      have hscope := (List.mem_filter.mp hkey).2
      rw [decide_eq_true_eq, List.mem_filter, and_iff_left hscope]
  rw [available_current_iff, current_available_iff,
    ← unavailableCount_eq now, List.countP_filter] at hexact
  rw [← hexact]
  have hunknown : ((currentTargets db).countP fun key =>
      key.1 ∈ scopes ∧ key ∉ availableTargets db p result) = (currentTargets db).countP fun key =>
        decide (key ∉ availableTargets db p result) && decide (key.1 ∈ scopes) :=
    List.countP_congr fun key _ => by simp [and_comm]
  constructor
  · exact fun h => h.count.trans hunknown
  · intro h
    have hcount := h.trans hunknown.symm
    refine ⟨hcount, fun hzero key hkey hscope => ?_⟩
    rw [hcount, List.countP_eq_zero] at hzero
    by_contra hnot
    exact hzero key hkey (decide_eq_true ⟨hscope, hnot⟩)

end

/-- The series that is left was never played, and the removed one has retained history. -/
def removedSeries : Tables where
  series := [{ id := 1, tmdbId := 10, title := "A" },
    { id := 2, tmdbId := 20, title := "B", removedAt := some 5 }]

/-- What is left of a series that was played once. -/
def playedOnce (seriesId : Nat) : PlaybackHistoryAggregate where
  targetScope := "series"
  targetId := seriesId
  mediaType := .series
  playCount := 1
  totalDurationSeconds := 60
  longestDurationSeconds := 60
  uniqueUserCount := 1
  usernames := ["A"]
  usernamesComplete := true
  firstActivityAt := some 3
  lastActivityAt := some 3

/-- The snapshot after a refresh without providers. -/
def removedSeriesSnapshot : PlaybackRuleSnapshot :=
  loadPlaybackRuleSnapshot removedSeries { aggregates := [playedOnce 2] } 10 {}

/-- The removed series takes the place of the one without data. -/
theorem not_coverageExact_removedSeries :
    ¬CoverageExact removedSeries removedSeriesSnapshot ["series"] := by
  intro h
  have hzero : removedSeriesSnapshot.unavailableCount ["series"] = 0 := by
    decide +kernel
  have havailable := h.zero hzero ("series", 1) (by decide +kernel) (by decide +kernel)
  revert havailable
  decide +kernel

end MediaMasterr.Playback
