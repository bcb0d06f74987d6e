import MediaMasterr.Candidates.LiveTags
import MediaMasterr.Database.Frames

/-! # Arr monitoring refresh

`_refresh_arr_monitoring_for_rules`: before rules with an `arr.monitored`
condition run, the `is_monitored` columns are taken from the instances that
answer, as a disjunction over the entries of an item. -/

namespace MediaMasterr.Candidates

open MediaMasterr.Foundations MediaMasterr.Database MediaMasterr.RuleEngine

/-! ## What the instances answer -/

structure RadarrMovie where
  id : Nat
  monitored : Bool
  deriving DecidableEq, Repr

structure SonarrSeason where
  seasonNumber : Nat
  monitored : Bool
  deriving DecidableEq, Repr

structure SonarrSeries where
  id : Nat
  monitored : Bool
  seasons : List SonarrSeason := []
  deriving DecidableEq, Repr

/-- The answers of `get_all_movies` and `get_all_series`, by configuration; no answer where a
fetch raises. -/
structure MonitoringFetches where
  radarr : Nat → Option (List RadarrMovie) := fun _ => none
  sonarr : Nat → Option (List SonarrSeries) := fun _ => none

/-- The `is_monitored` columns, by primary key. -/
structure MonitoringColumns where
  movie : Nat → Option Bool := fun _ => none
  series : Nat → Option Bool := fun _ => none
  season : Nat → Option Bool := fun _ => none

/-! ## The refresh -/

section Accumulated

variable {ι κ : Type} [DecidableEq κ] (itemId : ι → Nat) (flags : Nat → ι → List (κ × Bool))
variable (configs : List Nat) (fetch : Nat → Option (List ι)) (rows : List ArrRefRow)

/-- The flags of the known items of one configuration, under the keys of their rows. -/
def fetchedFlagsOf (config : Nat) : List (κ × Bool) :=
  match fetch config with
  | none => []
  | some items => items.flatMap fun item =>
    match ((arrToDbByConfig rows).get? config).bind (·.get? (itemId item)) with
    | none => []
    | some dbId => flags dbId item

/-- `movie_monitored`, `series_monitored` and `season_monitored`. -/
def accumulatedFlags : Dict κ Bool :=
  (configs.flatMap (fetchedFlagsOf itemId flags fetch rows)).foldl (fun d e => d.setOr e.1 e.2) ∅

end Accumulated

section Job

variable (py : PythonRuntime) (services : Deletion.Services) (fetches : MonitoringFetches)
variable (db : Tables)

/-- `_rules_use_monitoring_field`. -/
def rulesUseMonitoringField (rules : List DefinedRule) : Bool :=
  rules.any fun rule => !(collectRuleConditions py "arr.monitored" rule).isEmpty

def movieMonitored : Dict Nat Bool :=
  accumulatedFlags RadarrMovie.id (fun dbId movie => [(dbId, movie.monitored)])
    (services.radarrClientsOrMain.map Prod.fst) fetches.radarr (movieRefRows db)

def seriesMonitored : Dict Nat Bool :=
  accumulatedFlags SonarrSeries.id (fun dbId series => [(dbId, series.monitored)])
    (services.sonarrClientsOrMain.map Prod.fst) fetches.sonarr (seriesRefRows db)

def seasonMonitored : Dict (Nat × Nat) Bool :=
  accumulatedFlags SonarrSeries.id
    (fun dbId series => series.seasons.map fun season =>
      ((dbId, season.seasonNumber), season.monitored))
    (services.sonarrClientsOrMain.map Prod.fst) fetches.sonarr (seriesRefRows db)

/-- The movie column after the Radarr part. -/
def refreshMovieMonitoring (column : Nat → Option Bool) : Nat → Option Bool := fun id =>
  ((movieMonitored services fetches db).get? id).or (column id)

/-- The series column after the Sonarr part. -/
def refreshSeriesMonitoring (column : Nat → Option Bool) : Nat → Option Bool := fun id =>
  ((seriesMonitored services fetches db).get? id).or (column id)

/-- The season column after the Sonarr part. -/
def refreshSeasonMonitoring (column : Nat → Option Bool) : Nat → Option Bool := fun id =>
  match db.findSeason id with
  | none => column id
  | some season =>
    ((seasonMonitored services fetches db).get? (season.seriesId, season.seasonNumber)).or
      (column id)

/-- `_refresh_arr_monitoring_for_rules`. -/
def refreshArrMonitoringForRules (rules : List DefinedRule) (columns : MonitoringColumns) :
    MonitoringColumns :=
  if !rulesUseMonitoringField py rules then columns
  else
    let columns :=
      if (movieRules rules).isEmpty then columns
      else { columns with movie := refreshMovieMonitoring services fetches db columns.movie }
    if (seriesRules rules).isEmpty then columns
    else
      { columns with
        series := refreshSeriesMonitoring services fetches db columns.series
        season := refreshSeasonMonitoring services fetches db columns.season }

end Job

/-! ## What a refresh may change -/

section Item

variable {ι : Type} (configs : List Nat) (fetch : Nat → Option (List ι)) (rows : List ArrRefRow)
variable (dbId : Nat)

/-- The row has a ref on a configuration whose fetch failed. -/
def HasFailedRef : Prop :=
  ∃ row ∈ rows, row.dbId = dbId ∧ row.configId ∈ configs ∧ fetch row.configId = none

/-- The row has refs, and all configurations that reference it were fetched. -/
def AllFetched : Prop :=
  (∃ row ∈ rows, row.dbId = dbId) ∧
    ∀ row ∈ rows, row.dbId = dbId → row.configId ∈ configs ∧ fetch row.configId ≠ none

/-- The flags of the row's entries in the answers. -/
def entryFlags (itemId : ι → Nat) (flagsOf : ι → List Bool) : List Bool :=
  (rows.filter fun row => row.dbId = dbId ∧ row.configId ∈ configs).flatMap fun row =>
    (((fetch row.configId).getD []).filter (itemId · = row.arrId)).flatMap flagsOf

end Item

/-- A failed fetch never takes a flag away; where all were fetched, a flag is the disjunction of
the entries. -/
structure FailsSafe (failed fetched : Prop) (entries : List Bool) (before after : Option Bool) :
    Prop where
  keeps : failed → before = some true → after ≠ some false
  follows : fetched → (after = some true ↔ true ∈ entries)

/-- A monitored item with a failed fetch has no entry elsewhere, or a monitored one; where all were
fetched it has an entry. -/
def EntriesDecide (failed fetched : Prop) (entries : List Bool) (before : Option Bool) : Prop :=
  before = some true → (failed → entries = [] ∨ true ∈ entries) ∧ (fetched → entries ≠ [])

theorem failsSafe_iff {failed fetched : Prop} {entries : List Bool} {before : Option Bool} :
    FailsSafe failed fetched entries before
        ((if entries = [] then none else some (decide (true ∈ entries))).or before) ↔
      EntriesDecide failed fetched entries before := by
  unfold EntriesDecide
  by_cases hempty : entries = []
  · subst hempty
    simp only [if_true, Option.none_or, true_or, implies_true, true_and, List.not_mem_nil, ne_eq,
      not_true_eq_false, imp_false]
    constructor
    · intro h hbefore hfetched
      exact absurd ((h.follows hfetched).mp hbefore) (by simp)
    · intro h
      refine ⟨fun _ hbefore hafter => ?_, fun hfetched => ?_⟩
      · rw [hbefore] at hafter
        cases hafter
      · simp only [List.not_mem_nil, iff_false]
        exact fun hbefore => h hbefore hfetched
  · simp only [hempty, if_false, Option.some_or, false_or, ne_eq, not_false_eq_true, implies_true,
      and_true]
    constructor
    · intro h hbefore hfailed
      simpa using h.keeps hfailed hbefore
    · intro h
      refine ⟨fun hfailed hbefore => ?_, fun _ => by simp⟩
      simpa using h hbefore hfailed

/-! ## The accumulated flags -/

section Accumulated

variable {ι κ : Type} [DecidableEq κ] {itemId : ι → Nat} {flags : Nat → ι → List (κ × Bool)}
variable {configs : List Nat} {fetch : Nat → Option (List ι)} {rows : List ArrRefRow}

omit [DecidableEq κ] in
theorem mem_fetchedFlagsOf (hrows : (rows.map fun row => (row.configId, row.arrId)).Nodup)
    {config : Nat} {e : κ × Bool} :
    e ∈ fetchedFlagsOf itemId flags fetch rows config ↔
      ∃ row ∈ rows, row.configId = config ∧ ∃ item ∈ (fetch config).getD [],
        itemId item = row.arrId ∧ e ∈ flags row.dbId item := by
  unfold fetchedFlagsOf
  cases fetch config with
  | none => simp
  | some items =>
    simp only [List.mem_flatMap, Option.getD_some]
    constructor
    · rintro ⟨item, hitem, he⟩
      cases hdb : ((arrToDbByConfig rows).get? config).bind (·.get? (itemId item)) with
      | none => simp [hdb] at he
      | some dbId =>
        rw [hdb] at he
        obtain ⟨row, hrow, hconfig, harr, rfl⟩ := (arrToDb_eq_some_iff hrows).mp hdb
        exact ⟨row, hrow, hconfig, item, hitem, harr.symm, he⟩
    · rintro ⟨row, hrow, hconfig, item, hitem, harr, he⟩
      have hdb := (arrToDb_eq_some_iff hrows).mpr ⟨row, hrow, hconfig, harr.symm, rfl⟩
      exact ⟨item, hitem, by rw [hdb]; exact he⟩

/-- The accumulated flag of a key of a row: the disjunction of the flags of its entries. -/
theorem get?_accumulatedFlags (hrows : (rows.map fun row => (row.configId, row.arrId)).Nodup)
    {dbId : Nat} {flagsOf : ι → List Bool} {k : κ}
    (hflags : ∀ dbId' item v, (k, v) ∈ flags dbId' item ↔ dbId' = dbId ∧ v ∈ flagsOf item) :
    (accumulatedFlags itemId flags configs fetch rows).get? k =
      if entryFlags configs fetch rows dbId itemId flagsOf = [] then none
      else some (decide (true ∈ entryFlags configs fetch rows dbId itemId flagsOf)) := by
  have hmem (v : Bool) : (k, v) ∈ configs.flatMap (fetchedFlagsOf itemId flags fetch rows) ↔
      v ∈ entryFlags configs fetch rows dbId itemId flagsOf := by
    simp only [entryFlags, List.mem_flatMap, List.mem_filter, decide_eq_true_eq,
      mem_fetchedFlagsOf hrows, hflags]
    constructor
    · rintro ⟨config, hconfig, row, hrow, rfl, item, hitem, harr, hid, hv⟩
      exact ⟨row, ⟨hrow, hid, hconfig⟩, item, ⟨hitem, harr⟩, hv⟩
    · rintro ⟨row, ⟨hrow, hid, hconfig⟩, item, ⟨hitem, harr⟩, hv⟩
      exact ⟨row.configId, hconfig, row, hrow, rfl, item, hitem, harr, hid, hv⟩
  have hnonempty : (∃ v, v ∈ entryFlags configs fetch rows dbId itemId flagsOf) ↔
      ¬entryFlags configs fetch rows dbId itemId flagsOf = [] := by
    constructor
    · rintro ⟨v, hv⟩ hempty
      rw [hempty] at hv
      cases hv
    · exact List.exists_mem_of_ne_nil _
  rw [accumulatedFlags, Dict.get?_foldl_setOr]
  simp only [hmem, hnonempty, ite_not]

end Accumulated

/-! ## Whole refreshes -/

section Refreshes

variable (py : PythonRuntime) (services : Deletion.Services) (fetches : MonitoringFetches)
variable (db : Tables) (rules : List DefinedRule)

/-- The Radarr configurations that a refresh asks. -/
def askedRadarr : List Nat :=
  if rulesUseMonitoringField py rules ∧ movieRules rules ≠ [] then
    services.radarrClientsOrMain.map Prod.fst
  else []

/-- The Sonarr configurations that a refresh asks. -/
def askedSonarr : List Nat :=
  if rulesUseMonitoringField py rules ∧ seriesRules rules ≠ [] then
    services.sonarrClientsOrMain.map Prod.fst
  else []

/-- The flags of a movie's Radarr entries. -/
def movieEntries (movieId : Nat) : List Bool :=
  entryFlags (askedRadarr py services rules) fetches.radarr (movieRefRows db) movieId RadarrMovie.id
    fun movie => [movie.monitored]

/-- The flags of a series' Sonarr entries. -/
def seriesEntries (seriesId : Nat) : List Bool :=
  entryFlags (askedSonarr py services rules) fetches.sonarr (seriesRefRows db) seriesId
    SonarrSeries.id fun series => [series.monitored]

/-- The flags of a season in its Sonarr entries. -/
def seasonEntries (season : Season) : List Bool :=
  entryFlags (askedSonarr py services rules) fetches.sonarr (seriesRefRows db) season.seriesId
    SonarrSeries.id fun series =>
      (series.seasons.filter (·.seasonNumber = season.seasonNumber)).map SonarrSeason.monitored

/-- A property of every item, of its failed refs, its fetched refs, its entries and its flag
before and after. -/
def EveryItem (P : Prop → Prop → List Bool → Option Bool → Option Bool → Prop)
    (before after : MonitoringColumns) : Prop :=
  (∀ movie ∈ db.movies,
    P (HasFailedRef (askedRadarr py services rules) fetches.radarr (movieRefRows db) movie.id)
      (AllFetched (askedRadarr py services rules) fetches.radarr (movieRefRows db) movie.id)
      (movieEntries py services fetches db rules movie.id)
      (before.movie movie.id) (after.movie movie.id)) ∧
  (∀ series ∈ db.series,
    P (HasFailedRef (askedSonarr py services rules) fetches.sonarr (seriesRefRows db) series.id)
      (AllFetched (askedSonarr py services rules) fetches.sonarr (seriesRefRows db) series.id)
      (seriesEntries py services fetches db rules series.id)
      (before.series series.id) (after.series series.id)) ∧
  ∀ season ∈ db.seasons,
    P (HasFailedRef (askedSonarr py services rules) fetches.sonarr (seriesRefRows db)
        season.seriesId)
      (AllFetched (askedSonarr py services rules) fetches.sonarr (seriesRefRows db) season.seriesId)
      (seasonEntries py services fetches db rules season)
      (before.season season.id) (after.season season.id)

/-- The unique keys of the tables that a refresh reads. -/
structure UniqueArrRefs : Prop where
  movieArrRefs : (db.movieArrRefs.map fun ref => (ref.serviceConfigId, ref.arrMovieId)).Nodup
  seriesArrRefs : (db.seriesArrRefs.map fun ref => (ref.serviceConfigId, ref.arrSeriesId)).Nodup
  seasons : (db.seasons.map Season.id).Nodup

variable {py services fetches db rules}

theorem seriesRefRows_nodup
    (h : (db.seriesArrRefs.map fun ref => (ref.serviceConfigId, ref.arrSeriesId)).Nodup) :
    ((seriesRefRows db).map fun row => (row.configId, row.arrId)).Nodup := by
  rw [seriesRefRows, List.map_map]
  exact h

/-- Without a configuration that is asked there is no entry. -/
theorem entryFlags_nil {ι : Type} {fetch : Nat → Option (List ι)} {rows : List ArrRefRow}
    {dbId : Nat}
    {itemId : ι → Nat} {flagsOf : ι → List Bool} :
    entryFlags [] fetch rows dbId itemId flagsOf = [] := by
  simp [entryFlags]

/-- The flag of a movie after a refresh. -/
theorem refresh_movie (hdb : UniqueArrRefs db) (columns : MonitoringColumns) (id : Nat) :
    (refreshArrMonitoringForRules py services fetches db rules columns).movie id =
      (if movieEntries py services fetches db rules id = [] then none
        else some (decide (true ∈ movieEntries py services fetches db rules id))).or
        (columns.movie id) := by
  have hflags (dbId : Nat) (movie : RadarrMovie) (v : Bool) :
      (id, v) ∈ [(dbId, movie.monitored)] ↔ dbId = id ∧ v ∈ [movie.monitored] := by
    simp [eq_comm]
  unfold refreshArrMonitoringForRules movieEntries askedRadarr
  by_cases huse : rulesUseMonitoringField py rules = true
  · by_cases hmovie : movieRules rules = []
    · simp only [huse, hmovie, Bool.not_true, Bool.false_eq_true, if_false, List.isEmpty_nil,
        if_true,
        ne_eq, not_true_eq_false, and_false, entryFlags_nil, Option.none_or]
      split_ifs <;> rfl
    · have hruns : (movieRules rules).isEmpty = false := List.isEmpty_eq_false_iff.mpr hmovie
      rw [if_pos (⟨huse, hmovie⟩ : rulesUseMonitoringField py rules = true ∧ movieRules rules ≠ []),
        ← get?_accumulatedFlags (movieRefRows_nodup hdb.movieArrRefs) hflags]
      simp only [huse, hruns, Bool.not_true, Bool.false_eq_true, if_false]
      split_ifs <;> rfl
  · simp [huse, entryFlags_nil]

/-- The flag of a series after a refresh. -/
theorem refresh_series (hdb : UniqueArrRefs db) (columns : MonitoringColumns) (id : Nat) :
    (refreshArrMonitoringForRules py services fetches db rules columns).series id =
      (if seriesEntries py services fetches db rules id = [] then none
        else some (decide (true ∈ seriesEntries py services fetches db rules id))).or
        (columns.series id) := by
  have hflags (dbId : Nat) (series : SonarrSeries) (v : Bool) :
      (id, v) ∈ [(dbId, series.monitored)] ↔ dbId = id ∧ v ∈ [series.monitored] := by
    simp [eq_comm]
  unfold refreshArrMonitoringForRules seriesEntries askedSonarr
  by_cases huse : rulesUseMonitoringField py rules = true
  · by_cases hseries : seriesRules rules = []
    · simp only [huse, hseries, Bool.not_true, Bool.false_eq_true, if_false, List.isEmpty_nil,
        if_true,
        ne_eq, not_true_eq_false, and_false, entryFlags_nil, Option.none_or]
      split_ifs <;> rfl
    · have hruns : (seriesRules rules).isEmpty = false := List.isEmpty_eq_false_iff.mpr hseries
      rw [if_pos (⟨huse, hseries⟩ : rulesUseMonitoringField py rules = true ∧
        seriesRules rules ≠ []),
        ← get?_accumulatedFlags (seriesRefRows_nodup hdb.seriesArrRefs) hflags]
      simp only [huse, hruns, Bool.not_true, Bool.false_eq_true, if_false]
      split_ifs <;> rfl
  · simp [huse, entryFlags_nil]

/-- The flag of a season after a refresh. -/
theorem refresh_season (hdb : UniqueArrRefs db) (columns : MonitoringColumns) {season : Season}
    (hseason : season ∈ db.seasons) :
    (refreshArrMonitoringForRules py services fetches db rules columns).season season.id =
      (if seasonEntries py services fetches db rules season = [] then none
        else some (decide (true ∈ seasonEntries py services fetches db rules season))).or
        (columns.season season.id) := by
  have hflags (dbId : Nat) (series : SonarrSeries) (v : Bool) :
      ((season.seriesId, season.seasonNumber), v) ∈ (series.seasons.map fun s =>
          ((dbId, s.seasonNumber), s.monitored)) ↔
        dbId = season.seriesId ∧ v ∈ (series.seasons.filter
          (·.seasonNumber = season.seasonNumber)).map SonarrSeason.monitored := by
    simp only [List.mem_map, List.mem_filter, decide_eq_true_eq, Prod.mk.injEq]
    grind
  unfold refreshArrMonitoringForRules seasonEntries askedSonarr
  by_cases huse : rulesUseMonitoringField py rules = true
  · by_cases hseries : seriesRules rules = []
    · simp only [huse, hseries, Bool.not_true, Bool.false_eq_true, if_false, List.isEmpty_nil,
        if_true,
        ne_eq, not_true_eq_false, and_false, entryFlags_nil, Option.none_or]
      split_ifs <;> rfl
    · have hruns : (seriesRules rules).isEmpty = false := List.isEmpty_eq_false_iff.mpr hseries
      rw [if_pos (⟨huse, hseries⟩ : rulesUseMonitoringField py rules = true ∧
        seriesRules rules ≠ []),
        ← get?_accumulatedFlags (seriesRefRows_nodup hdb.seriesArrRefs) hflags]
      simp only [huse, hruns, Bool.not_true, Bool.false_eq_true, if_false, refreshSeasonMonitoring,
        Tables.findSeason, Tables.find?_key_of_mem hdb.seasons hseason]
      split_ifs <;> rfl
  · simp [huse, entryFlags_nil]

end Refreshes

/-- A refresh fails safe and is a disjunction over the instances, for every item, exactly when the
entries of every monitored item decide it. -/
theorem refresh_failsSafe_iff (py : PythonRuntime) (services : Deletion.Services)
    (fetches : MonitoringFetches) (db : Tables) (hdb : UniqueArrRefs db) (rules : List DefinedRule)
    (columns : MonitoringColumns) :
    EveryItem py services fetches db rules FailsSafe columns
        (refreshArrMonitoringForRules py services fetches db rules columns) ↔
      EveryItem py services fetches db rules
        (fun failed fetched entries before _ => EntriesDecide failed fetched entries before)
        columns columns := by
  unfold EveryItem
  refine and_congr ?_ (and_congr ?_ ?_)
  · refine forall₂_congr fun movie _ => ?_
    rw [refresh_movie hdb]
    exact failsSafe_iff
  · refine forall₂_congr fun series _ => ?_
    rw [refresh_series hdb]
    exact failsSafe_iff
  · refine forall₂_congr fun season hseason => ?_
    rw [refresh_season hdb columns hseason]
    exact failsSafe_iff

/-! ## A movie on two instances -/

/-- A monitored movie with a ref on each of two Radarr instances. -/
def mirroredTables : Tables :=
  { movies := [{ id := 1, tmdbId := 603, title := "The Matrix" }]
    movieArrRefs := [{ id := 1, movieId := 1, serviceConfigId := 1, arrMovieId := 7 },
      { id := 2, movieId := 1, serviceConfigId := 2, arrMovieId := 9 }] }

def twoRadarrs : Deletion.Services := { radarrClients := [(1, 1), (2, 2)] }

/-- The second instance does not monitor the movie; the first one answers or not. -/
def mirroredFetches (first : Option Bool) : MonitoringFetches :=
  { radarr := fun config =>
      if config = 1 then first.map fun monitored => [⟨7, monitored⟩] else some [⟨9, false⟩] }

def monitoredColumns : MonitoringColumns := { movie := fun _ => some true }

def monitoredRule : List DefinedRule :=
  [⟨{ id := 1, mediaType := .movie }, some (.condition "arr.monitored" "is_true" .none)⟩]

theorem mirroredTables_unique : UniqueArrRefs mirroredTables :=
  ⟨by decide, by decide, by decide⟩

theorem refresh_failsSafe_iff_mirrored :
    EveryItem asciiRuntime twoRadarrs (mirroredFetches (some true)) mirroredTables monitoredRule
        FailsSafe monitoredColumns (refreshArrMonitoringForRules asciiRuntime twoRadarrs
          (mirroredFetches (some true)) mirroredTables monitoredRule monitoredColumns) ↔
      EveryItem asciiRuntime twoRadarrs (mirroredFetches (some true)) mirroredTables monitoredRule
        (fun failed fetched entries before _ => EntriesDecide failed fetched entries before)
        monitoredColumns monitoredColumns :=
  refresh_failsSafe_iff asciiRuntime twoRadarrs _ mirroredTables mirroredTables_unique monitoredRule
    monitoredColumns

/-- The first instance does not answer, and the movie is no longer monitored. -/
theorem not_failsSafe_mirrored :
    ¬EveryItem asciiRuntime twoRadarrs (mirroredFetches none) mirroredTables monitoredRule FailsSafe
      monitoredColumns (refreshArrMonitoringForRules asciiRuntime twoRadarrs (mirroredFetches none)
        mirroredTables monitoredRule monitoredColumns) := by
  intro h
  have hmovie := h.1 { id := 1, tmdbId := 603, title := "The Matrix" } (.head _)
  have hfailed : HasFailedRef (askedRadarr asciiRuntime twoRadarrs monitoredRule)
      (mirroredFetches none).radarr (movieRefRows mirroredTables) 1 :=
    ⟨⟨7, 1, 1⟩, .head _, rfl, by decide, rfl⟩
  exact hmovie.keeps hfailed rfl (by decide)

end MediaMasterr.Candidates
