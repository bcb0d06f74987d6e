import MediaMasterr.Sync.Episodes

/-! # Season sync

`_sync_seasons`, and the pass of `sync_series` that adds the episodes of the other
servers. The season rows follow the server that owns the series, and each entry
with episodes upserts the episodes of its season. An episode that only another
server reports is pruned before the other server's entries are read. -/

namespace MediaMasterr.Database

/-- The columns by which a season row is found. -/
def Season.place (s : Season) : Nat × Nat × Nat := (s.id, s.seriesId, s.seasonNumber)

/-- The primary and the unique key of seasons. -/
structure SeasonKeys (rows : List Season) : Prop where
  ids : (rows.map Season.id).Nodup
  numbers : (rows.map fun s => (s.seriesId, s.seasonNumber)).Nodup

end MediaMasterr.Database

namespace MediaMasterr.Sync

open MediaMasterr.Foundations MediaMasterr.Database

structure AggregatedSeasonData where
  seasonNumber : Nat
  size : Nat := 0
  episodeCount : Nat := 0
  viewCount : Nat := 0
  lastViewedAt : Option Nat := none
  addedAt : Option Nat := none
  airDate : Option Nat := none
  serviceSeasonId : Option String := none
  path : Option String := none
  episodePaths : List String := []
  episodeData : List AggregatedEpisodeData := []
  deriving DecidableEq, Repr

namespace AggregatedSeasonData

variable (service : Service) (sd : AggregatedSeasonData)

/-- The id that the service has for the season, if it gave one. -/
def setServiceId (s : Season) : Season :=
  match sd.serviceSeasonId.filter (· ≠ ""), service with
  | none, _ => s
  | some id, .jellyfin => { s with jellyfinSeasonId := some id }
  | some id, .emby => { s with embySeasonId := some id }
  | some id, _ => { s with plexSeasonRatingKey := some id }

/-- The columns that a season row takes. -/
def setFields (s : Season) : Season :=
  sd.setServiceId service { s with
    size := some sd.size
    episodeCount := some sd.episodeCount
    viewCount := some sd.viewCount
    lastViewedAt := sd.lastViewedAt
    airDate := sd.airDate
    addedAt := sd.addedAt
    path := sd.path
    episodePaths := sd.episodePaths }

def newRow (seriesId id : Nat) : Season :=
  sd.setFields service { id, seriesId, seasonNumber := sd.seasonNumber }

end AggregatedSeasonData

/-! ## The season rows -/

/-- `existing`. -/
def existingSeasons (rows : List Season) (seriesId : Nat) : Dict Nat Season :=
  (rows.filter (·.seriesId = seriesId)).foldl
    (fun existing s => existing.set s.seasonNumber s) ∅

section

variable (db : Tables) (seriesId : Nat) (seasonData : List AggregatedSeasonData)
variable (service : Service)

/-- What an entry means for the table. -/
def seasonWrite (sd : AggregatedSeasonData) : Write Season :=
  match (existingSeasons db.seasons seriesId).get? sd.seasonNumber with
  | some s => .update s.id (sd.setFields service)
  | none => .insert (sd.newRow service seriesId)

/-- The rows after the loop over the entries. -/
def upsertedSeasons : List Season :=
  Write.applyAll Season.id db.seasons (seasonData.map (seasonWrite db seriesId service))

/-- `removed_season_ids`. -/
def removedSeasonIds : List Nat :=
  ((existingSeasons db.seasons seriesId).entries.filter fun e =>
    e.1 ∉ seasonData.map (·.seasonNumber)).map fun e => e.2.id

/-- A column names a row of the list. -/
def namesOneOf (ids : List Nat) (id : Option Nat) : Bool := id.any (· ∈ ids)

/-- The statements that remove seasons with the rows that refer to them. -/
def removeSeasons (ids : List Nat) : Tables :=
  { db with
    candidates := db.candidates.filter (!namesOneOf ids ·.seasonId)
    protectedMedia := db.protectedMedia.filter (!namesOneOf ids ·.seasonId)
    protectionRequests := Tables.settleRequests ProtectionRequest.status
      (namesOneOf ids ·.seasonId) (fun r => { r with seasonId := none, episodeId := none })
      db.protectionRequests
    deleteRequests := Tables.settleRequests DeleteRequest.status
      (namesOneOf ids ·.seasonId) (fun r => { r with seasonId := none, episodeId := none })
      db.deleteRequests
    seasons := db.seasons.filter (·.id ∉ ids) }

/-- `_sync_seasons` up to its flush; `none` is the violated unique key of a series and a season
number, which ends the run. -/
def syncSeasonRows : Option Tables :=
  if seasonData = [] then
    some db
  else
    let rows := upsertedSeasons db seriesId seasonData service
    if (rows.map fun s => (s.seriesId, s.seasonNumber)).Nodup then
      some (removeSeasons { db with seasons := rows } (removedSeasonIds db seriesId seasonData))
    else none

end

/-! ## The episodes of the entries -/

/-- The id of the season of an entry. -/
def seasonIdFor (existing : Dict Nat Season) (rows : List Season) (seriesId number : Nat) :
    Option Nat :=
  match existing.get? number with
  | some s => some s.id
  | none => (rows.find? fun s => s.seriesId = seriesId ∧ s.seasonNumber = number).map Season.id

/-- The episodes of one entry. -/
def upsertSeasonEpisodes (existing : Dict Nat Season) (seriesId : Nat) (removeStale : Bool)
    (db : Tables) (service : Service) (sd : AggregatedSeasonData) : Tables :=
  if sd.episodeData = [] then db
  else
    match seasonIdFor existing db.seasons seriesId sd.seasonNumber with
    | none => db
    | some seasonId => upsertEpisodes db seasonId sd.episodeData service removeStale

section

variable (db : Tables) (seriesId : Nat) (service : Service)
variable (seasonData : List AggregatedSeasonData)
variable (supplemental : List (Service × List AggregatedSeasonData))

/-- `_sync_seasons`. -/
def syncSeasons : Option Tables :=
  (syncSeasonRows db seriesId seasonData service).map fun db' =>
    seasonData.foldl (upsertSeasonEpisodes
      (existingSeasons db.seasons seriesId) seriesId true · service)
      db'

/-- The supplemental pass over the entries of a series; its seasons are looked up. -/
def supplementalPass : Tables :=
  supplemental.foldl (fun db entry =>
    entry.2.foldl (upsertSeasonEpisodes ∅ seriesId false · entry.1) db) db

/-- What one run of `sync_series` does with the season data of a series. -/
def syncSeriesSeasons : Option Tables :=
  (syncSeasons db seriesId service seasonData).map (supplementalPass · seriesId supplemental)

end

/-! ## The states of a run -/

/-- One call of `_upsert_episodes`. -/
structure EpisodeCall where
  service : Service
  season : AggregatedSeasonData
  removeStale : Bool

def episodeCalls (service : Service) (seasonData : List AggregatedSeasonData)
    (supplemental : List (Service × List AggregatedSeasonData)) : List EpisodeCall :=
  (seasonData.map (⟨service, ·, true⟩)) ++
    supplemental.flatMap fun entry => entry.2.map (⟨entry.1, ·, false⟩)

def EpisodeCall.run (existing : Dict Nat Season) (seriesId : Nat) (db : Tables)
    (call : EpisodeCall) : Tables :=
  upsertSeasonEpisodes (if call.removeStale then existing else ∅) seriesId call.removeStale db
    call.service call.season

/-- The states that the run passes through: after the season rows, and after each call. -/
def syncStates (db : Tables) (seriesId : Nat) (service : Service)
    (seasonData : List AggregatedSeasonData)
    (supplemental : List (Service × List AggregatedSeasonData)) : List Tables :=
  match syncSeasonRows db seriesId seasonData service with
  | none => [db]
  | some db' => (episodeCalls service seasonData supplemental).scanl
      (EpisodeCall.run (existingSeasons db.seasons seriesId) seriesId) db'

section States

variable {db db' : Tables} {seriesId : Nat} {service : Service}
variable {seasonData : List AggregatedSeasonData}
variable {supplemental : List (Service × List AggregatedSeasonData)}

theorem foldl_run_episodeCalls (existing : Dict Nat Season) :
    (episodeCalls service seasonData supplemental).foldl (EpisodeCall.run existing seriesId) db =
      supplementalPass (seasonData.foldl (upsertSeasonEpisodes existing seriesId true · service) db)
        seriesId supplemental := by
  rw [episodeCalls, List.foldl_append, List.foldl_map, List.foldl_flatMap, supplementalPass]
  simp only [List.foldl_map]
  rfl

/-- A run that does not raise ends in the last of its states. -/
theorem getLast?_syncStates
    (h : syncSeriesSeasons db seriesId service seasonData supplemental = some db') :
    (syncStates db seriesId service seasonData supplemental).getLast? = some db' := by
  unfold syncSeriesSeasons syncSeasons at h
  unfold syncStates
  cases hrows : syncSeasonRows db seriesId seasonData service with
  | none => simp [hrows] at h
  | some db₁ =>
    rw [hrows, Option.map_some, Option.map_some, Option.some.injEq] at h
    rw [← h, List.getLast?_scanl, foldl_run_episodeCalls]

end States

/-! ## The season rows after a run -/

/-- A series has a season of this number. -/
def IsStored (rows : List Season) (seriesId number : Nat) : Prop :=
  ∃ s ∈ rows, s.seriesId = seriesId ∧ s.seasonNumber = number

instance (rows : List Season) (seriesId number : Nat) :
    Decidable (IsStored rows seriesId number) := by
  unfold IsStored
  infer_instance

/-- The numbers that get a new row, in order. -/
def newSeasonNumbers (rows : List Season) (seriesId : Nat)
    (seasonData : List AggregatedSeasonData) : List Nat :=
  (seasonData.map (·.seasonNumber)).filter (¬IsStored rows seriesId ·)

section SeasonRows

variable {db db' : Tables} {rows : List Season} {seriesId number : Nat} {service : Service}
variable {seasonData : List AggregatedSeasonData} {s row : Season} {sd : AggregatedSeasonData}

theorem existingSeasons_get? (h : SeasonKeys rows) :
    (existingSeasons rows seriesId).get? number = some s ↔
      s ∈ rows ∧ s.seriesId = seriesId ∧ s.seasonNumber = number := by
  have hnumbers : ((rows.filter (·.seriesId = seriesId)).map Season.seasonNumber).Nodup := by
    refine List.Nodup.map_on ?_ ((List.Nodup.of_map _ h.ids).filter _)
    intro s hs s' hs' hnumber
    simp only [List.mem_filter, decide_eq_true_eq] at hs hs'
    exact List.inj_on_of_nodup_map h.numbers hs.1 hs'.1
      (Prod.ext (hs.2.trans hs'.2.symm) hnumber)
  rw [Dict.get?_eq_some_iff, existingSeasons, Dict.entries_foldl_set hnumbers]
  simp only [List.mem_map, List.mem_filter, decide_eq_true_eq, Prod.mk.injEq]
  constructor
  · rintro ⟨s', ⟨hs', hseries⟩, hnumber, rfl⟩
    exact ⟨hs', hseries, hnumber⟩
  · rintro ⟨hs, hseries, hnumber⟩
    exact ⟨s, ⟨hs, hseries⟩, hnumber, rfl⟩

theorem existingSeasons_get?_eq_none (h : SeasonKeys rows) :
    (existingSeasons rows seriesId).get? number = none ↔ ¬IsStored rows seriesId number := by
  rw [Option.eq_none_iff_forall_ne_some, IsStored]
  simp only [ne_eq, existingSeasons_get? h, not_exists]

theorem mem_removedSeasonIds_iff (h : SeasonKeys db.seasons) {id : Nat} :
    id ∈ removedSeasonIds db seriesId seasonData ↔ ∃ s ∈ db.seasons, s.seriesId = seriesId ∧
      s.id = id ∧ s.seasonNumber ∉ seasonData.map (·.seasonNumber) := by
  simp only [removedSeasonIds, List.mem_map (f := fun e : Nat × Season => e.2.id), List.mem_filter,
    decide_eq_true_eq, Prod.exists, ← Dict.get?_eq_some_iff, existingSeasons_get? h]
  constructor
  · rintro ⟨number, s, ⟨⟨hs, hseries, rfl⟩, hnumber⟩, hid⟩
    exact ⟨s, hs, hseries, hid, hnumber⟩
  · rintro ⟨s, hs, hseries, hid, hnumber⟩
    exact ⟨s.seasonNumber, s, ⟨⟨hs, hseries, rfl⟩, hnumber⟩, hid⟩

theorem place_setFields : (sd.setFields service s).place = s.place := by
  unfold AggregatedSeasonData.setFields AggregatedSeasonData.setServiceId
  cases sd.serviceSeasonId.filter (· ≠ "") <;> cases service <;> rfl

theorem place_newRow (sd : AggregatedSeasonData) (service : Service) (seriesId id : Nat) :
    (sd.newRow service seriesId id).place = (id, seriesId, sd.seasonNumber) :=
  place_setFields

theorem seasonWrite_update {id : Nat} {change : Season → Season}
    (h : .update id change ∈ seasonData.map (seasonWrite db seriesId service)) :
    ∃ sd ∈ seasonData, ∃ s, (existingSeasons db.seasons seriesId).get? sd.seasonNumber = some s ∧
      s.id = id ∧ change = sd.setFields service := by
  obtain ⟨sd, hsd, hwrite⟩ := List.mem_map.mp h
  unfold seasonWrite at hwrite
  cases hget : (existingSeasons db.seasons seriesId).get? sd.seasonNumber with
  | none => simp [hget] at hwrite
  | some s =>
    rw [hget] at hwrite
    obtain ⟨hid, hchange⟩ := Write.update.inj hwrite
    exact ⟨sd, hsd, s, hget, hid, hchange.symm⟩

theorem seasonWrites_keyed : ∀ w ∈ seasonData.map (seasonWrite db seriesId service),
    w.Keyed Season.id := by
  intro w hw
  obtain ⟨sd, -, rfl⟩ := List.mem_map.mp hw
  unfold seasonWrite
  cases (existingSeasons db.seasons seriesId).get? sd.seasonNumber with
  | none => exact fun id => congrArg Prod.fst (place_newRow _ _ _ id)
  | some s => exact fun row => congrArg Prod.fst place_setFields

theorem inserts_seasonWrites (h : SeasonKeys db.seasons) :
    Write.inserts (seasonData.map (seasonWrite db seriesId service)) =
      (seasonData.filter (¬IsStored db.seasons seriesId ·.seasonNumber)).map
        (·.newRow service seriesId) := by
  rw [Write.inserts, List.filterMap_map, ← List.filterMap_eq_map, List.filterMap_filter]
  refine List.filterMap_congr fun sd _ => ?_
  dsimp only [Function.comp, seasonWrite]
  cases hget : (existingSeasons db.seasons seriesId).get? sd.seasonNumber with
  | none =>
    have hstored := (existingSeasons_get?_eq_none h).mp hget
    simp [hstored, Write.makeOf]
  | some s =>
    have hstored : IsStored db.seasons seriesId sd.seasonNumber := by
      by_contra hnot
      rw [(existingSeasons_get?_eq_none h).mpr hnot] at hget
      cases hget
    simp [hstored, Write.makeOf]

/-- The old rows keep their places, and the new ones stand behind them under fresh ids. -/
theorem upsertedSeasons_places (seriesId : Nat) (seasonData : List AggregatedSeasonData)
    (service : Service) (h : SeasonKeys db.seasons) : ∃ created : List Season,
    (upsertedSeasons db seriesId seasonData service).map Season.place =
      db.seasons.map Season.place ++ created.map Season.place ∧
    (∀ row ∈ created, Write.nextId Season.id db.seasons ≤ row.id) ∧
    (created.map fun s => (s.seriesId, s.seasonNumber)) =
      (newSeasonNumbers db.seasons seriesId seasonData).map (seriesId, ·) := by
  have hold : ∀ id change, .update id change ∈ seasonData.map (seasonWrite db seriesId service) →
      id < Write.nextId Season.id db.seasons := by
    intro id change hmem
    obtain ⟨sd, -, s, hget, rfl, -⟩ := seasonWrite_update hmem
    exact Write.lt_nextId ((existingSeasons_get? h).mp hget).1
  obtain ⟨created, happly, hcreated⟩ := Write.applyAll_eq seasonWrites_keyed hold
  rw [inserts_seasonWrites h] at hcreated
  refine ⟨created, ?_, ?_, ?_⟩
  · rw [upsertedSeasons, happly, List.map_append, List.map_map]
    congr 1
    refine List.map_congr_left fun row _ => ?_
    refine Write.changed_keeps Season.place (fun id change hmem row => ?_) row
    obtain ⟨sd, -, s, -, -, rfl⟩ := seasonWrite_update hmem
    exact place_setFields
  · intro row hrow
    obtain ⟨make, hmake, id, hid, rfl⟩ := hcreated.exists_of_mem hrow
    obtain ⟨sd, -, rfl⟩ := List.mem_map.mp hmake
    have hrowId : (sd.newRow service seriesId id).id = id :=
      congrArg Prod.fst (place_newRow _ _ _ id)
    rwa [hrowId]
  · rw [hcreated.map_eq (g := fun make => ((make 0).seriesId, (make 0).seasonNumber)), List.map_map,
      newSeasonNumbers, List.filter_map, List.map_map]
    · refine List.map_congr_left fun sd _ => ?_
      exact congrArg Prod.snd (place_newRow sd service seriesId 0)
    · intro make hmake id
      obtain ⟨sd, -, rfl⟩ := List.mem_map.mp hmake
      exact (congrArg Prod.snd (place_newRow _ _ _ id)).trans
        (congrArg Prod.snd (place_newRow _ _ _ 0)).symm

/-- The numbers of the series are those it had, and the new ones. -/
theorem upsertedSeasons_numbers (h : SeasonKeys db.seasons) :
    ((upsertedSeasons db seriesId seasonData service).map fun s => (s.seriesId, s.seasonNumber)) =
      (db.seasons.map fun s => (s.seriesId, s.seasonNumber)) ++
        (newSeasonNumbers db.seasons seriesId seasonData).map (seriesId, ·) := by
  obtain ⟨created, hplaces, -, hnumbers⟩ := upsertedSeasons_places seriesId seasonData service h
  have hsnd := congrArg (List.map Prod.snd) hplaces
  rw [List.map_append, List.map_map, List.map_map, List.map_map] at hsnd
  rw [← hnumbers]
  exact hsnd

/-- The unique key is violated when two entries bring the same new number. -/
theorem upsertedSeasons_nodup_iff (h : SeasonKeys db.seasons) :
    ((upsertedSeasons db seriesId seasonData service).map fun s =>
      (s.seriesId, s.seasonNumber)).Nodup ↔
      (newSeasonNumbers db.seasons seriesId seasonData).Nodup := by
  have hinjective : Function.Injective fun number : Nat => (seriesId, number) :=
    fun _ _ heq => (Prod.mk.inj heq).2
  rw [upsertedSeasons_numbers h, List.nodup_append', List.nodup_map_iff hinjective]
  refine ⟨fun hnodup => hnodup.2.1, fun hnew => ⟨h.numbers, hnew, fun number hold hmem => ?_⟩⟩
  obtain ⟨s, hs, rfl⟩ := List.mem_map.mp hold
  obtain ⟨number, hnumber, heq⟩ := List.mem_map.mp hmem
  obtain ⟨rfl, rfl⟩ := Prod.mk.inj heq
  have hnot := (List.mem_filter.mp hnumber).2
  simp only [decide_eq_true_eq] at hnot
  exact hnot ⟨s, hs, rfl, rfl⟩

theorem syncSeasonRows_eq_none_iff (h : SeasonKeys db.seasons) :
    syncSeasonRows db seriesId seasonData service = none ↔
      ¬(newSeasonNumbers db.seasons seriesId seasonData).Nodup := by
  unfold syncSeasonRows
  by_cases hempty : seasonData = []
  · simp [hempty, newSeasonNumbers]
  · simp only [if_neg hempty, upsertedSeasons_nodup_iff h, ite_eq_right_iff, reduceCtorEq,
      imp_false]

/-- The season rows after a run that has entries. -/
theorem syncSeasonRows_eq_some (hempty : seasonData ≠ [])
    (h : syncSeasonRows db seriesId seasonData service = some db') :
    ((upsertedSeasons db seriesId seasonData service).map
      fun s => (s.seriesId, s.seasonNumber)).Nodup ∧
    db' = removeSeasons { db with seasons := upsertedSeasons db seriesId seasonData service }
      (removedSeasonIds db seriesId seasonData) := by
  unfold syncSeasonRows at h
  rw [if_neg hempty, Option.ite_none_right_eq_some, Option.some.injEq] at h
  exact ⟨h.1, h.2.symm⟩

end SeasonRows

end MediaMasterr.Sync
