import MediaMasterr.Foundations.Joins
import MediaMasterr.Foundations.Maxima
import MediaMasterr.Sync.Seasons

/-! # Sonarr dates

The part of `sync_series` that asks every Sonarr instance for the episodes of its
series and writes the dates at which files were added: of the episodes, and from
them of the seasons and the series. A request can fail for one series of one
instance; the dates of such a series are to stay as they are. -/

namespace MediaMasterr.Sync

open MediaMasterr.Foundations MediaMasterr.Database

/-! ## The columns and the answers -/

/-- The columns that the refresh writes, under the ids of the rows. -/
structure ArrDateColumns where
  series : Nat → Option Nat := fun _ => none
  season : Nat → Option Nat := fun _ => none
  episode : Nat → Option Nat := fun _ => none
  sonarrEpisodeNumbers : Nat → Option (List Nat) := fun _ => none

structure SonarrEpisodeSyncData where
  fileDates : Dict (Nat × Nat) Nat := ∅
  episodeNumbersBySeason : Dict Nat (List Nat) := ∅

structure SonarrSeriesEntry where
  id : Nat
  tmdbId : Nat

/-- One Sonarr instance; a request for episode data that fails has no answer. -/
structure SonarrInstance where
  allSeries : List SonarrSeriesEntry := []
  episodeSyncData : Nat → Option SonarrEpisodeSyncData := fun _ => none

section Refresh

variable (db : Tables) (instances : List SonarrInstance)

/-- `series_id_by_tmdb`. -/
def seriesIdByTmdb : Dict Nat Nat :=
  Dict.build (fun s : Series => some s.tmdbId) Series.id (db.series.filter (·.removedAt.isNone))

/-- The series of an instance that the library has, with the outcomes of their requests. -/
def SonarrInstance.outcomes (i : SonarrInstance) : List (Nat × Option SonarrEpisodeSyncData) :=
  i.allSeries.filterMap fun entry =>
    ((seriesIdByTmdb db).get? entry.tmdbId).map fun id => (id, i.episodeSyncData entry.id)

/-- The outcomes in the order in which they are read. -/
def fetchOutcomes : List (Nat × Option SonarrEpisodeSyncData) :=
  instances.flatMap (SonarrInstance.outcomes db)

/-! ## Collecting the answers -/

/-- What the loop over the instances collects. -/
structure SonarrEpisodes where
  dates : Dict Nat (Dict (Nat × Nat) Nat) := ∅
  inventory : Dict Nat (Dict Nat (List Nat)) := ∅
  inventoryFetched : List Nat := []
  dateFetchFailed : List Nat := []

/-- The body of the loop, for one outcome. -/
def SonarrEpisodes.addOutcome (found : SonarrEpisodes)
    (outcome : Nat × Option SonarrEpisodeSyncData) : SonarrEpisodes :=
  match outcome with
  | (id, none) => { found with dateFetchFailed := found.dateFetchFailed.insert id }
  | (id, some data) =>
    { found with
      inventoryFetched := found.inventoryFetched.insert id
      dates := found.dates.set id
        (data.fileDates.entries.foldl (fun bucket e => bucket.raiseAt e.1 e.2)
          ((found.dates.get? id).getD ∅))
      inventory := found.inventory.set id
        (data.episodeNumbersBySeason.entries.foldl
          (fun inventory e => e.2.foldl (fun inventory n => inventory.addTo e.1 n) inventory)
          ((found.inventory.get? id).getD ∅)) }

def sonarrEpisodes : SonarrEpisodes :=
  (fetchOutcomes db instances).foldl SonarrEpisodes.addOutcome {}

/-! ## Writing the columns -/

/-- `eligible_series_ids`. -/
def eligibleSeriesIds : List Nat :=
  (seriesIdByTmdb db).values.filter (· ∉ (sonarrEpisodes db instances).dateFetchFailed)

/-- `season_objects`. -/
def seasonObjects : List Season := db.seasons.filter (·.seriesId ∈ (seriesIdByTmdb db).values)

/-- `episode_rows`. -/
def episodeRows : List (Episode × Season) :=
  (joinOn Episode.seasonId Season.id db.episodes db.seasons).filter
    (·.2.seriesId ∈ eligibleSeriesIds db instances)

/-- `episode_arr_added_at`. -/
def episodeArrAddedAt (row : Episode × Season) : Option Nat :=
  (((sonarrEpisodes db instances).dates.get? row.2.seriesId).getD ∅).get?
    (row.2.seasonNumber, row.1.episodeNumber)

/-- The rows whose episode has a date, with it. -/
def datedEpisodeRows : List ((Episode × Season) × Nat) :=
  (episodeRows db instances).filterMap fun row =>
    (episodeArrAddedAt db instances row).map (row, ·)

/-- `season_dates`. -/
def seasonDates : Dict Nat (List Nat) :=
  Dict.group (·.1.2.id) Prod.snd (datedEpisodeRows db instances)

/-- `series_dates`. -/
def seriesDates : Dict Nat (List Nat) :=
  Dict.group (·.1.2.seriesId) Prod.snd (datedEpisodeRows db instances)

/-- The value of `sonarr_episode_numbers` for a season. -/
def sonarrEpisodeNumbers (season : Season) : Option (List Nat) :=
  let found := sonarrEpisodes db instances
  if season.seriesId ∈ found.dateFetchFailed ∨ season.seriesId ∉ found.inventoryFetched then
    none
  else
    let numbers := ((found.inventory.get? season.seriesId).getD ∅).setAt season.seasonNumber
    if numbers = [] then none else some (numbers.mergeSort (· ≤ ·))

/-- The Sonarr part of `sync_series`. -/
def refreshArrDates (columns : ArrDateColumns) : ArrDateColumns :=
  if instances = [] then { columns with sonarrEpisodeNumbers := fun _ => none }
  else
    { episode := fun id =>
        match (episodeRows db instances).find? (·.1.id = id) with
        | some row => episodeArrAddedAt db instances row
        | none => columns.episode id
      season := fun id =>
        if id ∈ (seasonObjects db).map Season.id then ((seasonDates db instances).listAt id).max?
        else columns.season id
      series := fun id =>
        if id ∈ eligibleSeriesIds db instances then ((seriesDates db instances).listAt id).max?
        else columns.series id
      sonarrEpisodeNumbers := fun id =>
        match (seasonObjects db).find? (·.id = id) with
        | some season => sonarrEpisodeNumbers db instances season
        | none => columns.sonarrEpisodeNumbers id }

end Refresh

/-! ## What the answers say -/

section Answers

variable {outcomes : List (Nat × Option SonarrEpisodeSyncData)} {id : Nat}

theorem mem_dateFetchFailed :
    id ∈ (outcomes.foldl SonarrEpisodes.addOutcome {}).dateFetchFailed ↔
      (id, none) ∈ outcomes := by
  induction outcomes using List.reverseRecOn with
  | nil => simp
  | append_singleton outcomes outcome ih =>
    obtain ⟨id', data⟩ := outcome
    rw [List.foldl_concat]
    cases data with
    | none => simp [SonarrEpisodes.addOutcome, ih, or_comm]
    | some data => simp [SonarrEpisodes.addOutcome, ih]

/-- The dates that the answers for a series give an episode. -/
def datesIn (outcomes : List (Nat × Option SonarrEpisodeSyncData)) (id : Nat) (key : Nat × Nat) :
    Set Nat :=
  {t | ∃ data, (id, some data) ∈ outcomes ∧ data.fileDates.get? key = some t}

/-- The collected date of an episode is the latest one. -/
theorem isMaxOf_dates (outcomes : List (Nat × Option SonarrEpisodeSyncData)) (id : Nat)
    (key : Nat × Nat) : IsMaxOf (datesIn outcomes id key)
      ((((outcomes.foldl SonarrEpisodes.addOutcome {}).dates.get? id).getD ∅).get? key) := by
  induction outcomes using List.reverseRecOn generalizing key with
  | nil => exact Set.eq_empty_iff_forall_notMem.mpr fun t ⟨_, hmem, _⟩ => List.not_mem_nil hmem
  | append_singleton outcomes outcome ih =>
    obtain ⟨id', data⟩ := outcome
    rw [List.foldl_concat]
    cases data with
    | none => exact (ih key).congr fun t => by simp [datesIn]
    | some data =>
      dsimp only [SonarrEpisodes.addOutcome]
      rw [Dict.get?_set]
      split_ifs with hid
      · subst hid
        rw [Option.getD_some]
        refine (Dict.isMaxOf_foldl_raiseAt ih data.fileDates.entries key).congr fun t => ?_
        simp only [datesIn, Set.mem_union, Set.mem_ofPred_eq, ← Dict.get?_eq_some_iff,
          List.mem_append, List.mem_singleton, Prod.mk.injEq, true_and, Option.some.injEq,
          or_and_right, exists_or, exists_eq_left]
      · exact (ih key).congr fun t => by simp [datesIn, hid]

end Answers

/-! ## The dates after a refresh -/

section Dates

variable (db : Tables) (instances : List SonarrInstance) (columns : ArrDateColumns)

/-- Some instance did not answer for the series. -/
def FetchFailed (id : Nat) : Prop := (id, none) ∈ fetchOutcomes db instances

/-- Every instance that has the series answered for it, and one has it. -/
def FetchedOnAll (id : Nat) : Prop :=
  (∃ data, (id, some data) ∈ fetchOutcomes db instances) ∧ ¬FetchFailed db instances id

/-- The dates of the series are those from before. -/
structure KeepsDates (columns' : ArrDateColumns) (id : Nat) : Prop where
  series : columns'.series id = columns.series id
  season : ∀ s ∈ db.seasons, s.seriesId = id → columns'.season s.id = columns.season s.id
  episode : ∀ s ∈ db.seasons, s.seriesId = id → ∀ e ∈ db.episodes, e.seasonId = s.id →
    columns'.episode e.id = columns.episode e.id

/-- The dates of the series are those that the instances report, and their maxima. -/
structure TakesDates (columns' : ArrDateColumns) (id : Nat) : Prop where
  episode : ∀ s ∈ db.seasons, s.seriesId = id → ∀ e ∈ db.episodes, e.seasonId = s.id →
    IsMaxOf (datesIn (fetchOutcomes db instances) id (s.seasonNumber, e.episodeNumber))
      (columns'.episode e.id)
  season : ∀ s ∈ db.seasons, s.seriesId = id →
    IsMaxOf {t | ∃ e ∈ db.episodes, e.seasonId = s.id ∧ columns'.episode e.id = some t}
      (columns'.season s.id)
  series : IsMaxOf {t | ∃ s ∈ db.seasons, s.seriesId = id ∧ ∃ e ∈ db.episodes,
    e.seasonId = s.id ∧ columns'.episode e.id = some t} (columns'.series id)

/-- The dates of a series that could not be fetched stay, those of a fetched one are renewed. -/
def DatesRefreshed : Prop :=
  ∀ id,
    (FetchFailed db instances id →
      KeepsDates db columns (refreshArrDates db instances columns) id) ∧
    (FetchedOnAll db instances id →
      TakesDates db instances (refreshArrDates db instances columns) id)

variable {db instances columns} {id : Nat} {s : Season} {e : Episode}

theorem outcome_known {outcome : Option SonarrEpisodeSyncData}
    (h : (id, outcome) ∈ fetchOutcomes db instances) : id ∈ (seriesIdByTmdb db).values := by
  obtain ⟨i, -, hi⟩ := List.mem_flatMap.mp h
  obtain ⟨entry, -, hentry⟩ := List.mem_filterMap.mp hi
  obtain ⟨id', hget, heq⟩ := Option.map_eq_some_iff.mp hentry
  obtain rfl := (Prod.mk.inj heq).1
  exact Dict.mem_values_iff.mpr ⟨_, hget⟩

theorem mem_eligibleSeriesIds : id ∈ eligibleSeriesIds db instances ↔
    id ∈ (seriesIdByTmdb db).values ∧ ¬FetchFailed db instances id := by
  rw [eligibleSeriesIds, List.mem_filter, decide_eq_true_eq, sonarrEpisodes, mem_dateFetchFailed]
  rfl

theorem FetchedOnAll.eligible (h : FetchedOnAll db instances id) :
    id ∈ eligibleSeriesIds db instances := by
  obtain ⟨⟨data, hdata⟩, hfailed⟩ := h
  exact mem_eligibleSeriesIds.mpr ⟨outcome_known hdata, hfailed⟩

theorem mem_episodeRows : (e, s) ∈ episodeRows db instances ↔
    e ∈ db.episodes ∧ s ∈ db.seasons ∧ s.id = e.seasonId ∧
      s.seriesId ∈ eligibleSeriesIds db instances := by
  simp [episodeRows, and_assoc]

theorem mem_datedEpisodeRows {t : Nat} : ((e, s), t) ∈ datedEpisodeRows db instances ↔
    (e, s) ∈ episodeRows db instances ∧ episodeArrAddedAt db instances (e, s) = some t := by
  simp [datedEpisodeRows, Prod.ext_iff]

theorem refresh_instances_ne_nil {outcome : Option SonarrEpisodeSyncData}
    (h : (id, outcome) ∈ fetchOutcomes db instances) : instances ≠ [] := by
  rintro rfl
  exact List.not_mem_nil h

/-- The primary keys of the seasons and the episodes. -/
structure DateRowKeys (db : Tables) : Prop where
  seasons : (db.seasons.map Season.id).Nodup
  episodes : (db.episodes.map Episode.id).Nodup

section Columns

variable (hkeys : DateRowKeys db) (hinstances : instances ≠ [])
include hkeys hinstances

theorem refresh_episode (hs : s ∈ db.seasons) (he : e ∈ db.episodes)
    (hseason : e.seasonId = s.id) :
    (refreshArrDates db instances columns).episode e.id =
      if s.seriesId ∈ eligibleSeriesIds db instances then episodeArrAddedAt db instances (e, s)
      else columns.episode e.id := by
  simp only [refreshArrDates, if_neg hinstances]
  cases hfind : (episodeRows db instances).find? (·.1.id = e.id) with
  | none =>
    have hnone : (e, s) ∉ episodeRows db instances := fun hmem => by
      simpa using List.find?_eq_none.mp hfind _ hmem
    rw [mem_episodeRows] at hnone
    rw [if_neg fun heligible => hnone ⟨he, hs, hseason.symm, heligible⟩]
  | some row =>
    obtain ⟨e', s'⟩ := row
    have hrow := List.mem_of_find?_eq_some hfind
    obtain ⟨he', hs', hseason', heligible⟩ := mem_episodeRows.mp hrow
    have hid : e'.id = e.id := by simpa using List.find?_some hfind
    obtain rfl := List.inj_on_of_nodup_map hkeys.episodes he' he hid
    obtain rfl := List.inj_on_of_nodup_map hkeys.seasons hs' hs (hseason'.trans hseason)
    rw [if_pos heligible]

omit hinstances in
theorem isMaxOf_seasonDates (hs : s ∈ db.seasons) :
    IsMaxOf {t | ∃ e ∈ db.episodes, e.seasonId = s.id ∧
      s.seriesId ∈ eligibleSeriesIds db instances ∧
      episodeArrAddedAt db instances (e, s) = some t}
      ((seasonDates db instances).listAt s.id).max? := by
  refine (isMaxOf_max? _).congr fun t => ?_
  rw [seasonDates, Dict.listAt_group]
  simp only [Set.mem_ofPred_eq, List.mem_map, List.mem_filter, decide_eq_true_eq, Prod.exists,
    exists_eq_right, mem_datedEpisodeRows, mem_episodeRows]
  constructor
  · rintro ⟨e, s', ⟨⟨he, hs', hseason, heligible⟩, hdate⟩, hid⟩
    obtain rfl := List.inj_on_of_nodup_map hkeys.seasons hs' hs hid
    exact ⟨e, he, hseason.symm, heligible, hdate⟩
  · rintro ⟨e, he, hseason, heligible, hdate⟩
    exact ⟨e, s, ⟨⟨he, hs, hseason.symm, heligible⟩, hdate⟩, rfl⟩

omit hkeys in
theorem refresh_season (hs : s ∈ db.seasons)
    (hknown : s.seriesId ∈ (seriesIdByTmdb db).values) :
    (refreshArrDates db instances columns).season s.id =
      ((seasonDates db instances).listAt s.id).max? := by
  simp only [refreshArrDates, if_neg hinstances]
  refine if_pos (List.mem_map.mpr ⟨s, List.mem_filter.mpr ⟨hs, ?_⟩, rfl⟩)
  exact decide_eq_true hknown

omit hkeys hinstances in
theorem isMaxOf_seriesDates (id : Nat) :
    IsMaxOf {t | ∃ s ∈ db.seasons, s.seriesId = id ∧ ∃ e ∈ db.episodes,
      e.seasonId = s.id ∧ s.seriesId ∈ eligibleSeriesIds db instances ∧
      episodeArrAddedAt db instances (e, s) = some t}
      ((seriesDates db instances).listAt id).max? := by
  refine (isMaxOf_max? _).congr fun t => ?_
  rw [seriesDates, Dict.listAt_group]
  simp only [Set.mem_ofPred_eq, List.mem_map, List.mem_filter, decide_eq_true_eq, Prod.exists,
    exists_eq_right, mem_datedEpisodeRows, mem_episodeRows]
  constructor
  · rintro ⟨e, s, ⟨⟨he, hs, hseason, heligible⟩, hdate⟩, hid⟩
    exact ⟨s, hs, hid, e, he, hseason.symm, heligible, hdate⟩
  · rintro ⟨s, hs, hid, e, he, hseason, heligible, hdate⟩
    exact ⟨e, s, ⟨⟨he, hs, hseason.symm, heligible⟩, hdate⟩, hid⟩

/-! ## Fetched and failed series -/

/-- The dates of a fetched series are those that its instances report. -/
theorem takesDates_of_fetchedOnAll (h : FetchedOnAll db instances id) :
    TakesDates db instances (refreshArrDates db instances columns) id := by
  have heligible := h.eligible
  have hepisode {s : Season} (hs : s ∈ db.seasons) (hseries : s.seriesId = id) {e : Episode}
      (he : e ∈ db.episodes) (hseason : e.seasonId = s.id) :
      (refreshArrDates db instances columns).episode e.id =
        episodeArrAddedAt db instances (e, s) := by
    rw [refresh_episode hkeys hinstances hs he hseason, if_pos (hseries ▸ heligible)]
  constructor
  case episode =>
    intro s hs hseries e he hseason
    rw [hepisode hs hseries he hseason, episodeArrAddedAt, hseries]
    exact isMaxOf_dates _ _ _
  case season =>
    intro s hs hseries
    have hknown := (mem_eligibleSeriesIds.mp heligible).1
    rw [refresh_season hinstances hs (hseries ▸ hknown)]
    refine (isMaxOf_seasonDates hkeys hs).congr fun t => ?_
    constructor
    · rintro ⟨e, he, hseason, -, hdate⟩
      exact ⟨e, he, hseason, (hepisode hs hseries he hseason).trans hdate⟩
    · rintro ⟨e, he, hseason, hdate⟩
      exact ⟨e, he, hseason, hseries ▸ heligible,
        (hepisode hs hseries he hseason).symm.trans hdate⟩
  case series =>
    have hseriesColumn : (refreshArrDates db instances columns).series id =
        ((seriesDates db instances).listAt id).max? := by
      simp only [refreshArrDates, if_neg hinstances, if_pos heligible]
    rw [hseriesColumn]
    refine (isMaxOf_seriesDates id).congr fun t => ?_
    constructor
    · rintro ⟨s, hs, hseries, e, he, hseason, -, hdate⟩
      exact ⟨s, hs, hseries, e, he, hseason, (hepisode hs hseries he hseason).trans hdate⟩
    · rintro ⟨s, hs, hseries, e, he, hseason, hdate⟩
      exact ⟨s, hs, hseries, e, he, hseason, hseries ▸ heligible,
        (hepisode hs hseries he hseason).symm.trans hdate⟩

/-- The season loop has no filter: a season of a series that failed loses its date. -/
theorem refresh_season_of_fetchFailed (hs : s ∈ db.seasons)
    (hfailed : FetchFailed db instances s.seriesId) :
    (refreshArrDates db instances columns).season s.id = none := by
  have hnot : s.seriesId ∉ eligibleSeriesIds db instances :=
    fun heligible => (mem_eligibleSeriesIds.mp heligible).2 hfailed
  rw [refresh_season hinstances hs (outcome_known hfailed)]
  refine (isMaxOf_seasonDates hkeys hs).eq_none_iff.mpr ?_
  exact Set.eq_empty_iff_forall_notMem.mpr fun t ⟨_, _, _, heligible, _⟩ => hnot heligible

/-- The other two loops pass a series over that failed. -/
theorem keepsDates_iff_of_fetchFailed (hfailed : FetchFailed db instances id) :
    KeepsDates db columns (refreshArrDates db instances columns) id ↔
      ∀ s ∈ db.seasons, s.seriesId = id → columns.season s.id = none := by
  have hnot : id ∉ eligibleSeriesIds db instances :=
    fun heligible => (mem_eligibleSeriesIds.mp heligible).2 hfailed
  constructor
  · rintro hkeeps s hs rfl
    rw [← hkeeps.season s hs rfl]
    exact refresh_season_of_fetchFailed hkeys hinstances hs hfailed
  · intro hnone
    constructor
    case series => simp only [refreshArrDates, if_neg hinstances, if_neg hnot]
    case season =>
      rintro s hs rfl
      rw [refresh_season_of_fetchFailed hkeys hinstances hs hfailed, hnone s hs rfl]
    case episode =>
      rintro s hs rfl e he hseason
      rw [refresh_episode hkeys hinstances hs he hseason, if_neg hnot]

end Columns

/-- The dates are refreshed as they should be exactly when no season of a series that failed has a
date to lose. -/
theorem datesRefreshed_iff (hkeys : DateRowKeys db) : DatesRefreshed db instances columns ↔
    ∀ s ∈ db.seasons, FetchFailed db instances s.seriesId → columns.season s.id = none := by
  constructor
  · intro h s hs hfailed
    have hinstances := refresh_instances_ne_nil hfailed
    exact (keepsDates_iff_of_fetchFailed hkeys hinstances hfailed).mp
      ((h s.seriesId).1 hfailed) s hs rfl
  · intro h id
    constructor
    · intro hfailed
      have hinstances := refresh_instances_ne_nil hfailed
      refine (keepsDates_iff_of_fetchFailed hkeys hinstances hfailed).mpr ?_
      rintro s hs rfl
      exact h s hs hfailed
    · intro hfetched
      obtain ⟨data, hdata⟩ := hfetched.1
      exact takesDates_of_fetchedOnAll hkeys (refresh_instances_ne_nil hdata) hfetched

/-- One series with a season and an episode. -/
def oneSeason : Tables where
  series := [{ id := 1, tmdbId := 10, title := "A" }]
  seasons := [{ id := 2, seriesId := 1, seasonNumber := 1 }]
  episodes := [{ id := 3, seasonId := 2, episodeNumber := 4 }]

theorem datesRefreshed_iff_oneSeason : DateRowKeys oneSeason ∧
    (DatesRefreshed oneSeason [{ allSeries := [⟨7, 10⟩] }] {} ↔
      ∀ s ∈ oneSeason.seasons,
        FetchFailed oneSeason [{ allSeries := [⟨7, 10⟩] }] s.seriesId →
        ArrDateColumns.season {} s.id = none) := by
  have hkeys : DateRowKeys oneSeason := ⟨by decide, by decide⟩
  exact ⟨hkeys, datesRefreshed_iff hkeys⟩

/-- The only instance does not answer, and the season loses its date. -/
theorem season_date_lost :
    ¬DatesRefreshed oneSeason [{ allSeries := [⟨7, 10⟩] }] { season := fun _ => some 5 } := by
  intro h
  have hfailed : FetchFailed oneSeason [{ allSeries := [⟨7, 10⟩] }] 1 :=
    mem_dateFetchFailed.mp (by decide)
  have hseason := ((h 1).1 hfailed).season { id := 2, seriesId := 1, seasonNumber := 1 }
    (by decide) rfl
  have hlost : (refreshArrDates oneSeason [{ allSeries := [⟨7, 10⟩] }]
      { season := fun _ => some 5 }).season 2 = none := by
    decide
  rw [hlost] at hseason
  cases hseason

end Dates

end MediaMasterr.Sync
