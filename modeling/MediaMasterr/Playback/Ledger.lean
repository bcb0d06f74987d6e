import MediaMasterr.Foundations.Upserts
import MediaMasterr.Foundations.Writes
import MediaMasterr.Playback.History

/-! # The ledger of playback events

`_upsert_events` and `_insert_new_events`: a batch of events of one config comes into the table
of events. The events of a batch are first reduced to one for each key, the rows of the keys are
read in chunks, rows that are there are updated in place and the others inserted in batches. -/

namespace MediaMasterr.Playback

open MediaMasterr.Foundations MediaMasterr.Database

/-! ## Events and rows -/

/-- `_NormalizedEvent`. -/
structure NormalizedEvent where
  sourceEventKey : String
  sourceItemId : String
  providerMediaType : String
  playedAt : Nat
  durationSeconds : Int
  sourceUserId : Option String := none
  sourceUsername : Option String := none
  completed : Option Bool := none

/-- What names the media of an event. -/
structure MediaColumns where
  tmdbId : Option Nat := none
  seasonNumber : Option Nat := none
  episodeNumber : Option Nat := none
  movieId : Option Nat := none
  seriesId : Option Nat := none
  seasonId : Option Nat := none
  episodeId : Option Nat := none
  deriving DecidableEq

def PlaybackHistoryEvent.media (event : PlaybackHistoryEvent) : MediaColumns where
  tmdbId := event.tmdbId
  seasonNumber := event.seasonNumber
  episodeNumber := event.episodeNumber
  movieId := event.movieId
  seriesId := event.seriesId
  seasonId := event.seasonId
  episodeId := event.episodeId

/-- The columns of a row. -/
structure PlaybackEventValues extends PlaybackHistoryEvent where
  sourceService : Service
  sourceEventKey : String
  sourceItemId : String
  completed : Option Bool := none
  deriving DecidableEq

/-- `uq_playback_history_event_source`. -/
def PlaybackEventValues.key (values : PlaybackEventValues) : Nat × String :=
  (values.sourceServiceConfigId, values.sourceEventKey)

structure PlaybackEventRow extends PlaybackEventValues where
  id : Nat
  deriving DecidableEq

/-- What `_identity_maps` finds: the id and TMDB id of a movie, and the ids of an episode, its
season and its series, with the TMDB id and the numbers. -/
structure IdentityMaps where
  movieMap : Dict String (Nat × Nat)
  episodeMap : Dict String (Nat × Nat × Nat × Nat × Nat × Nat)

section Columns

variable (maps : IdentityMaps) (event : NormalizedEvent)

/-- The columns of the media of today. -/
def IdentityMaps.mediaOf : MediaColumns :=
  if event.providerMediaType = "movie" then
    match maps.movieMap.get? event.sourceItemId with
    | none => {}
    | some (movieId, tmdbId) => { movieId := some movieId, tmdbId := some tmdbId }
  else
    match maps.episodeMap.get? event.sourceItemId with
    | none => {}
    | some (episodeId, seasonId, seriesId, tmdbId, seasonNumber, episodeNumber) =>
      { tmdbId := some tmdbId
        seasonNumber := some seasonNumber
        episodeNumber := some episodeNumber
        seriesId := some seriesId
        seasonId := some seasonId
        episodeId := some episodeId }

/-- The username is there and not empty. -/
def NormalizedEvent.HasUsername : Prop := event.sourceUsername.filter (· ≠ "") ≠ none

instance : Decidable event.HasUsername :=
  inferInstanceAs (Decidable (event.sourceUsername.filter (· ≠ "") ≠ none))

/-- The values of a new row. -/
def eventValues (provider : Service) (configId : Nat) : PlaybackEventValues :=
  let media := maps.mediaOf event
  { sourceService := provider
    sourceServiceConfigId := configId
    sourceEventKey := event.sourceEventKey
    sourceItemId := event.sourceItemId
    providerMediaType := event.providerMediaType
    playedAt := event.playedAt
    durationSeconds := event.durationSeconds
    completed := event.completed
    sourceUserId := event.sourceUserId
    sourceUsername := event.sourceUsername
    tmdbId := media.tmdbId
    seasonNumber := media.seasonNumber
    episodeNumber := media.episodeNumber
    movieId := media.movieId
    seriesId := media.seriesId
    seasonId := media.seasonId
    episodeId := media.episodeId }

/-- The update of a row that is there. -/
def updateValues (values : PlaybackEventValues) : PlaybackEventValues :=
  let media := maps.mediaOf event
  let values := { values with
    sourceItemId := event.sourceItemId
    providerMediaType := event.providerMediaType
    playedAt := event.playedAt
    durationSeconds := event.durationSeconds
    completed := event.completed
    sourceUserId := event.sourceUserId
    sourceUsername := if event.HasUsername then event.sourceUsername else values.sourceUsername }
  if media.tmdbId ≠ none then
    { values with
      tmdbId := media.tmdbId
      seasonNumber := media.seasonNumber
      episodeNumber := media.episodeNumber
      movieId := media.movieId
      seriesId := media.seriesId
      seasonId := media.seasonId
      episodeId := media.episodeId }
  else values

theorem key_updateValues (values : PlaybackEventValues) :
    (updateValues maps event values).key = values.key := by
  unfold updateValues
  dsimp only
  split_ifs <;> rfl

end Columns

/-! ## The table -/

/-- The table of the events of all configs. -/
structure EventTable where
  rows : List PlaybackEventRow
  ids : (rows.map (·.id)).Nodup
  keys : (rows.map fun row => row.toPlaybackEventValues.key).Nodup

namespace EventTable

variable (t : EventTable)

def nextId : Nat := Write.nextId PlaybackEventRow.id t.rows

/-- The update of the row with an id. -/
def update (maps : IdentityMaps) (event : NormalizedEvent) (id : Nat) : EventTable where
  rows := t.rows.map fun row =>
    if row.id = id then { row with toPlaybackEventValues := updateValues maps event row.1 } else row
  ids := by
    rw [List.map_map]
    refine (congrArg List.Nodup (List.map_congr_left fun row _ => ?_)).mp t.ids
    by_cases hid : row.id = id <;> simp [hid]
  keys := by
    rw [List.map_map]
    refine (congrArg List.Nodup (List.map_congr_left fun row _ => ?_)).mp t.keys
    by_cases hid : row.id = id <;> simp [hid, key_updateValues]

/-- One row of `INSERT ... ON CONFLICT DO NOTHING`, and how many rows it returns. -/
def insertOrIgnore (values : PlaybackEventValues) : EventTable × Nat :=
  if h : values.key ∈ t.rows.map fun row => row.toPlaybackEventValues.key then (t, 0)
  else
    ({ rows := t.rows ++ [{ values with id := t.nextId }]
       ids := by
        rw [List.map_append, List.map_singleton]
        refine t.ids.append (List.nodup_singleton _) (List.disjoint_singleton.mpr fun hmem => ?_)
        obtain ⟨row, hrow, hid⟩ := List.mem_map.mp hmem
        exact Nat.ne_of_lt (Write.lt_nextId hrow) hid
       keys := by
        rw [List.map_append, List.map_singleton]
        exact t.keys.append (List.nodup_singleton _) (List.disjoint_singleton.mpr h) }, 1)

/-- The rows under their keys. -/
def contents : Dict (Nat × String) PlaybackEventValues where
  entries := t.rows.map fun row => (row.toPlaybackEventValues.key, row.toPlaybackEventValues)
  nodup := by
    rw [List.map_map]
    exact t.keys

end EventTable

/-! ## The import -/

section Import

variable (provider : Service) (configId : Nat) (maps : IdentityMaps)

/-- `events_by_key`. -/
def eventsByKey (events : List NormalizedEvent) : Dict String NormalizedEvent :=
  events.foldl (fun d event => d.set event.sourceEventKey event) ∅

/-- `existing_by_key`; a row object is the id of its row. -/
def existingByKey (t : EventTable) (keys : List String) : Dict String Nat :=
  (Loops.chunks 500 keys).foldl (fun existing chunk => existing.update
    (Dict.build (fun row => some row.sourceEventKey) PlaybackEventRow.id
      (t.rows.filter fun row =>
        row.sourceServiceConfigId = configId ∧ row.sourceEventKey ∈ chunk))) ∅

/-- The table and `new_values`. -/
structure ImportState where
  table : EventTable
  newValues : List PlaybackEventValues := []

/-- One round of the loop over the events. -/
def ImportState.importEvent (existing : Dict String Nat) (s : ImportState)
    (event : NormalizedEvent) : ImportState :=
  match existing.get? event.sourceEventKey with
  | none => { s with newValues := s.newValues ++ [eventValues maps event provider configId] }
  | some id => { s with table := s.table.update maps event id }

def insertNewEvents (t : EventTable) (values : List PlaybackEventValues) : EventTable × Nat :=
  (Loops.chunks 50 values).foldl (fun s batch => batch.foldl (fun s values =>
    let (t, inserted) := s.1.insertOrIgnore values
    (t, s.2 + inserted)) s) (t, 0)

/-- `_upsert_events`. -/
def upsertEvents (t : EventTable) (events : List NormalizedEvent) : EventTable × Nat :=
  let events := (eventsByKey events).values
  let existing := existingByKey configId t (events.map (·.sourceEventKey))
  let s := events.foldl (ImportState.importEvent provider configId maps existing) { table := t }
  insertNewEvents s.table s.newValues

end Import

/-! ## What an operation leaves -/

namespace EventTable

variable {t t' : EventTable} {k : Nat × String} {values : PlaybackEventValues}

theorem entries_contents : t.contents.entries =
    t.rows.map fun row => (row.toPlaybackEventValues.key, row.toPlaybackEventValues) := rfl

theorem get?_contents : t.contents.get? k = some values ↔
    ∃ row ∈ t.rows, row.toPlaybackEventValues.key = k ∧ row.toPlaybackEventValues = values := by
  rw [Dict.get?_eq_some_iff, contents, List.mem_map]
  simp only [Prod.mk.injEq]

theorem keys_contents :
    t.contents.keys = t.rows.map fun row => row.toPlaybackEventValues.key := by
  rw [Dict.keys, contents, List.map_map]
  rfl

theorem ext_contents (hids : t.rows.map (·.id) = t'.rows.map (·.id))
    (hcontents : t.contents = t'.contents) : t = t' := by
  have hvalues : t.rows.map (·.toPlaybackEventValues) = t'.rows.map (·.toPlaybackEventValues) := by
    have h := congrArg (fun d : Dict (Nat × String) PlaybackEventValues => d.values) hcontents
    simpa [Dict.values, contents, Function.comp_def] using h
  have hrows : t.rows = t'.rows := by
    refine List.ext_getElem (by simpa using congrArg List.length hids) fun i hi hi' => ?_
    have hid := congrArg (·[i]?) hids
    have hvalue := congrArg (·[i]?) hvalues
    simp only [List.getElem?_map, List.getElem?_eq_getElem hi, List.getElem?_eq_getElem hi',
      Option.map_some, Option.some.injEq] at hid hvalue
    cases hrow : t.rows[i]
    cases hrow' : t'.rows[i]
    simp_all
  cases t
  cases t'
  congr

variable {maps : IdentityMaps} {event : NormalizedEvent} {id : Nat}

/-- The places of the rows: their ids and keys. -/
def places (t : EventTable) : List (Nat × Nat × String) :=
  t.rows.map fun row => (row.id, row.toPlaybackEventValues.key)

theorem keys_of_places (h : t.places = t'.places) : t.contents.keys = t'.contents.keys := by
  have hkeys := congrArg (List.map Prod.snd) h
  simpa [places, keys_contents, Function.comp_def] using hkeys

theorem ids_of_places (h : t.places = t'.places) :
    t.rows.map (·.id) = t'.rows.map (·.id) := by
  have hids := congrArg (List.map Prod.fst) h
  simpa [places, Function.comp_def] using hids

theorem nextId_of_places (h : t.places = t'.places) : t.nextId = t'.nextId := by
  rw [nextId, nextId, Write.nextId, Write.nextId]
  exact congrArg (fun ids => List.foldr max 0 ids + 1) (ids_of_places h)

theorem mem_keys_iff_places : k ∈ t.contents.keys ↔ ∃ id, (id, k) ∈ t.places := by
  rw [keys_contents, places]
  simp

/-- The rows of one config have keys of their own. -/
theorem nodup_of_config {rows : List PlaybackEventRow} (hrows : rows.Sublist t.rows)
    {configId : Nat} (hconfig : ∀ row ∈ rows, row.sourceServiceConfigId = configId) :
    (rows.map (·.sourceEventKey)).Nodup := by
  have hkeys : rows.map (fun row => row.1.key) =
      (rows.map (·.sourceEventKey)).map (configId, ·) := by
    rw [List.map_map]
    exact List.map_congr_left fun row hrow => Prod.ext (hconfig row hrow) rfl
  exact .of_map _ (hkeys ▸ t.keys.sublist (hrows.map _))

theorem places_update : (t.update maps event id).places = t.places := by
  rw [places, update, List.map_map]
  refine List.map_congr_left fun row _ => ?_
  by_cases hid : row.id = id <;> simp [hid, key_updateValues]

variable (maps event) in
theorem contents_update (h : (id, k) ∈ t.places) : ∃ values, t.contents.get? k = some values ∧
    (t.update maps event id).contents = t.contents.set k (updateValues maps event values) := by
  obtain ⟨row, hrow, hplace⟩ := List.mem_map.mp h
  obtain ⟨rfl, rfl⟩ := Prod.mk.inj hplace
  refine ⟨row.1, get?_contents.mpr ⟨row, hrow, rfl, rfl⟩, ?_⟩
  have hmem : row.1.key ∈ t.contents.keys := by
    rw [keys_contents]
    exact List.mem_map_of_mem hrow
  have hset : (t.contents.set row.1.key (updateValues maps event row.1)).entries =
      t.contents.entries.map fun e =>
        if e.1 = row.1.key then (row.1.key, updateValues maps event row.1) else e := by
    rw [Dict.keys] at hmem
    simp [Dict.set, hmem]
  refine Dict.ext_entries (.trans ?_ hset.symm)
  change (List.map _ (List.map _ t.rows)) = List.map _ (List.map _ t.rows)
  rw [List.map_map, List.map_map]
  refine List.map_congr_left fun row' hrow' => ?_
  by_cases hid : row'.id = row.id
  · obtain rfl : row' = row := List.inj_on_of_nodup_map t.ids hrow' hrow hid
    simp [key_updateValues]
  · have hkey : row'.1.key ≠ row.1.key := fun hkey =>
      hid (congrArg (·.id) (List.inj_on_of_nodup_map t.keys hrow' hrow hkey))
    simp [hid, hkey]

/-- The insert of a new key. -/
theorem insertOrIgnore_of_new (h : values.key ∉ t.contents.keys) :
    (t.insertOrIgnore values).1.contents = t.contents.set values.key values ∧
      (t.insertOrIgnore values).1.rows = t.rows ++ [{ values with id := t.nextId }] ∧
      (t.insertOrIgnore values).2 = 1 := by
  have hnew := h
  rw [keys_contents] at hnew
  simp only [insertOrIgnore, dif_neg hnew, and_self, and_true]
  refine Dict.ext_entries ?_
  rw [Dict.entries_set_of_notMem h]
  exact List.map_append

end EventTable

/-! ## What an import leaves -/

section Import

variable {provider : Service} {configId : Nat} {maps : IdentityMaps} {t : EventTable}
  {events : List NormalizedEvent} {event : NormalizedEvent} {key : String} {id : Nat}

theorem get?_eventsByKey : (eventsByKey events).get? key =
    events.reverse.find? (·.sourceEventKey = key) := by
  refine (Dict.get?_foldl_set (·.sourceEventKey) (fun event => event) events ∅).trans ?_
  simp

theorem sourceEventKey_of_get? (h : (eventsByKey events).get? key = some event) :
    event.sourceEventKey = key := by
  rw [get?_eventsByKey] at h
  simpa using List.find?_some h

/-- The items of a batch, one for each key. -/
def batchItems (configId : Nat) (events : List NormalizedEvent) :
    List ((Nat × String) × NormalizedEvent) :=
  (eventsByKey events).values.map fun event => ((configId, event.sourceEventKey), event)

theorem keys_values_eventsByKey :
    (eventsByKey events).values.map (·.sourceEventKey) = (eventsByKey events).keys := by
  rw [Dict.values, Dict.keys, List.map_map]
  exact List.map_congr_left fun e he => sourceEventKey_of_get? (Dict.get?_eq_some_iff.mpr he)

theorem keys_batchItems : (batchItems configId events).map Prod.fst =
    (eventsByKey events).keys.map (configId, ·) := by
  rw [batchItems, List.map_map, ← keys_values_eventsByKey, List.map_map]
  rfl

theorem nodup_batchItems : ((batchItems configId events).map Prod.fst).Nodup := by
  rw [keys_batchItems]
  exact (eventsByKey events).nodup.map fun _ _ h => (Prod.mk.inj h).2

theorem mem_batchItems {k : Nat × String} : (k, event) ∈ batchItems configId events ↔
    k.1 = configId ∧ (eventsByKey events).get? k.2 = some event := by
  rw [batchItems, List.mem_map]
  constructor
  · rintro ⟨event', hmem, heq⟩
    obtain ⟨rfl, rfl⟩ := Prod.mk.inj heq
    obtain ⟨key, hget⟩ := Dict.mem_values_iff.mp hmem
    exact ⟨rfl, (sourceEventKey_of_get? hget).symm ▸ hget⟩
  · rintro ⟨rfl, hget⟩
    refine ⟨event, Dict.mem_values_iff.mpr ⟨_, hget⟩, ?_⟩
    rw [sourceEventKey_of_get? hget]

/-- The rows that the chunks find. -/
theorem get?_existingByKey {keys : List String} (hkey : key ∈ keys) :
    (existingByKey configId t keys).get? key = some id ↔ (id, configId, key) ∈ t.places := by
  have hchunk (chunk : List String) (id : Nat) : (Dict.build (fun row => some row.sourceEventKey)
      PlaybackEventRow.id (t.rows.filter fun row =>
        row.sourceServiceConfigId = configId ∧ row.sourceEventKey ∈ chunk)).get? key = some id ↔
          key ∈ chunk ∧ (id, configId, key) ∈ t.places := by
    constructor
    · intro h
      obtain ⟨row, hfilter, hsame, rfl⟩ := Dict.of_get?_build h
      obtain ⟨hrow, hread⟩ := List.mem_filter.mp hfilter
      obtain ⟨rfl, hmem⟩ := of_decide_eq_true hread
      obtain rfl := Option.some.inj hsame
      exact ⟨hmem, List.mem_map_of_mem hrow⟩
    · rintro ⟨hmem, hplace⟩
      obtain ⟨row, hrow, heq⟩ := List.mem_map.mp hplace
      simp only [PlaybackEventValues.key, Prod.mk.injEq] at heq
      obtain ⟨rfl, rfl, rfl⟩ := heq
      refine Dict.get?_build_of_mem ?_ (List.mem_filter.mpr ⟨hrow, by simpa using hmem⟩) rfl
      rw [List.filterMap_eq_map']
      exact EventTable.nodup_of_config List.filter_sublist fun row' hrow' =>
        (of_decide_eq_true (List.mem_filter.mp hrow').2).1
  have hloop (chunks : List (List String)) :
      (chunks.foldl (fun (existing : Dict String Nat) chunk => existing.update
        (Dict.build (fun row => some row.sourceEventKey) PlaybackEventRow.id
          (t.rows.filter fun row =>
            row.sourceServiceConfigId = configId ∧ row.sourceEventKey ∈ chunk))) ∅).get? key =
        some id ↔ key ∈ chunks.flatten ∧ (id, configId, key) ∈ t.places := by
    induction chunks using List.reverseRecOn with
    | nil => simp
    | append_singleton chunks chunk ih =>
      rw [List.foldl_concat, Dict.get?_update, Option.or_eq_some_iff, ih, hchunk,
        Option.eq_none_iff_forall_ne_some, List.flatten_concat, List.mem_append]
      constructor
      · rintro (⟨hmem, hplace⟩ | ⟨-, hmem, hplace⟩)
        · exact ⟨.inr hmem, hplace⟩
        · exact ⟨.inl hmem, hplace⟩
      · rintro ⟨hmem, hplace⟩
        by_cases hlast : key ∈ chunk
        · exact .inl ⟨hlast, hplace⟩
        · exact .inr ⟨fun id' h => hlast ((hchunk chunk id').mp h).1, hmem.resolve_right hlast,
            hplace⟩
  rw [existingByKey, hloop, Loops.flatten_chunks (by omega)]
  exact and_iff_right hkey

/-- The item of an event. -/
def itemOf (configId : Nat) (event : NormalizedEvent) : (Nat × String) × NormalizedEvent :=
  ((configId, event.sourceEventKey), event)

/-- The rows after the items, for the columns that the import writes. -/
def imported (provider : Service) (configId : Nat) (maps : IdentityMaps)
    (contents : Dict (Nat × String) PlaybackEventValues)
    (items : List ((Nat × String) × NormalizedEvent)) : Dict (Nat × String) PlaybackEventValues :=
  contents.upsertAll (fun values event => updateValues maps event values)
    (fun event => eventValues maps event provider configId) items

/-- The loop updates the rows that are there and collects the values of the others. -/
theorem foldl_importEvent {existing : Dict String Nat} (s : ImportState)
    (hfound : ∀ event ∈ events, ∀ id, existing.get? event.sourceEventKey = some id →
      (id, configId, event.sourceEventKey) ∈ s.table.places) :
    let s' := events.foldl (ImportState.importEvent provider configId maps existing) s
    s'.newValues = s.newValues ++
        (events.filter fun event => !(existing.get? event.sourceEventKey).isSome).map
          (eventValues maps · provider configId) ∧
      s'.table.contents = imported provider configId maps s.table.contents
        ((events.filter fun event => (existing.get? event.sourceEventKey).isSome).map
          (itemOf configId)) ∧
      s'.table.places = s.table.places := by
  induction events using List.reverseRecOn with
  | nil => exact ⟨(List.append_nil _).symm, rfl, rfl⟩
  | append_singleton events event ih =>
    obtain ⟨hnew, hcontents, hplaces⟩ := ih fun event hevent =>
      hfound event (List.mem_append_left _ hevent)
    dsimp only
    rw [List.foldl_concat, ImportState.importEvent, List.filter_append, List.filter_append]
    cases hget : existing.get? event.sourceEventKey with
    | none => simp [hget, hnew, hcontents, hplaces]
    | some id =>
      obtain ⟨values, hvalues, hset⟩ := EventTable.contents_update maps event
        (hplaces ▸ hfound event (by simp) id hget)
      refine ⟨by simpa [hget] using hnew, ?_, EventTable.places_update.trans hplaces⟩
      have hlast : [event].filter (fun event => (existing.get? event.sourceEventKey).isSome) =
          [event] := by simp [hget]
      rw [imported] at hcontents ⊢
      rw [hset, hlast, List.map_append, List.map_singleton, Dict.upsertAll_concat, ← hcontents,
        itemOf, hvalues]
      rfl

/-- New rows come in under the next ids. -/
theorem insertNewEvents_spec {values : List PlaybackEventValues}
    (hnew : (t.contents.keys ++ values.map (·.key)).Nodup) :
    (insertNewEvents t values).1.contents =
        values.foldl (fun d values => d.set values.key values) t.contents ∧
      (insertNewEvents t values).1.rows.map (·.id) =
        t.rows.map (·.id) ++ List.range' t.nextId values.length ∧
      (insertNewEvents t values).1.nextId = t.nextId + values.length ∧
      (insertNewEvents t values).2 = values.length := by
  have hloop (values : List PlaybackEventValues) (t : EventTable) (n : Nat)
      (hnew : (t.contents.keys ++ values.map (·.key)).Nodup) :
      let s := values.foldl (fun (s : EventTable × Nat) values =>
        let (t, inserted) := s.1.insertOrIgnore values
        (t, s.2 + inserted)) (t, n)
      s.1.contents = values.foldl (fun d values => d.set values.key values) t.contents ∧
        s.1.rows.map (·.id) = t.rows.map (·.id) ++ List.range' t.nextId values.length ∧
        s.1.nextId = t.nextId + values.length ∧ s.2 = n + values.length := by
    induction values generalizing t n with
    | nil => simp
    | cons values rest ih =>
      have hkey : values.key ∉ t.contents.keys := fun hmem =>
        (List.nodup_append'.mp hnew).2.2 hmem (by simp)
      obtain ⟨hcontents, hrows, hone⟩ := EventTable.insertOrIgnore_of_new hkey
      have hnext : (t.insertOrIgnore values).1.nextId = t.nextId + 1 := by
        rw [EventTable.nextId, hrows, Write.nextId_append_singleton, EventTable.nextId]
        simp
      obtain ⟨hcontents', hids, hnext', hcount⟩ := ih (t.insertOrIgnore values).1 (n + 1) (by
        rw [hcontents, Dict.keys_set, if_neg hkey, List.append_assoc]
        exact hnew)
      dsimp only at hcontents' hids hnext' hcount ⊢
      rw [List.foldl_cons]
      dsimp only
      rw [hone]
      refine ⟨hcontents'.trans (by rw [hcontents]; rfl), ?_,
        by rw [hnext', hnext, List.length_cons]; omega, by rw [hcount, List.length_cons]; omega⟩
      rw [hids, hrows, hnext, List.map_append, List.append_assoc, List.length_cons,
        List.range'_succ]
      rfl
  rw [insertNewEvents, Loops.foldl_chunks (by omega) (fun (s : EventTable × Nat) values =>
    let (t, inserted) := s.1.insertOrIgnore values
    (t, s.2 + inserted))]
  simpa using hloop values t 0 hnew

theorem batchItems_eq : batchItems configId events =
    (eventsByKey events).values.map (itemOf configId) := rfl

/-- The loop and the inserts, on events with different keys whose rows are found. -/
theorem importBatch_spec {existing : Dict String Nat}
    (hnodup : ((events.map (itemOf configId)).map Prod.fst).Nodup)
    (hfound : ∀ event ∈ events, ∀ id, existing.get? event.sourceEventKey = some id ↔
      (id, configId, event.sourceEventKey) ∈ t.places) :
    let s := events.foldl (ImportState.importEvent provider configId maps existing) { table := t }
    let result := insertNewEvents s.table s.newValues
    result.1.contents =
        imported provider configId maps t.contents (events.map (itemOf configId)) ∧
      result.1.rows.map (·.id) = t.rows.map (·.id) ++ List.range' t.nextId result.2 ∧
      result.1.nextId = t.nextId + result.2 := by
  intro s result
  obtain ⟨hnew, hcontents, hplaces⟩ : s.newValues = _ ∧ s.table.contents = _ ∧
      s.table.places = t.places :=
    foldl_importEvent { table := t } fun event hevent id h => (hfound event hevent id).mp h
  have hknown : ∀ k ∈ (events.map (itemOf configId)).map Prod.fst,
      (existing.get? k.2).isSome = true ↔ k ∈ t.contents.keys := by
    intro k hk
    obtain ⟨item, hitem, rfl⟩ := List.mem_map.mp hk
    obtain ⟨event, hevent, rfl⟩ := List.mem_map.mp hitem
    rw [EventTable.mem_keys_iff_places, Option.isSome_iff_exists]
    exact exists_congr fun id => hfound event hevent id
  have hitems (p : String → Bool) :
      (events.filter fun event => p event.sourceEventKey).map (itemOf configId) =
        (events.map (itemOf configId)).filter fun item => p item.1.2 := by
    rw [List.filter_map]
    rfl
  have hvalues : s.newValues.map (·.key) =
      ((events.map (itemOf configId)).filter fun item => !(existing.get? item.1.2).isSome).map
        Prod.fst := by
    rw [← hitems fun key => !(existing.get? key).isSome, hnew, List.nil_append, List.map_map,
      List.map_map]
    rfl
  have hdistinct : (s.table.contents.keys ++
      ((events.map (itemOf configId)).filter fun item => !(existing.get? item.1.2).isSome).map
        Prod.fst).Nodup := by
    rw [EventTable.keys_of_places hplaces]
    refine t.contents.nodup.append (hnodup.sublist (List.filter_sublist.map _)) fun k hk hk' => ?_
    obtain ⟨item, hitem, rfl⟩ := List.mem_map.mp hk'
    obtain ⟨hmem, hnone⟩ := List.mem_filter.mp hitem
    have hsome := (hknown item.1 (List.mem_map_of_mem hmem)).mpr hk
    rw [hsome] at hnone
    cases hnone
  obtain ⟨hcontents', hids, hnext, hcount⟩ := insertNewEvents_spec (by rwa [hvalues])
  have hsplit : imported provider configId maps (imported provider configId maps t.contents
      ((events.map (itemOf configId)).filter fun item => (existing.get? item.1.2).isSome))
        ((events.map (itemOf configId)).filter fun item => !(existing.get? item.1.2).isSome) =
          imported provider configId maps t.contents (events.map (itemOf configId)) := by
    unfold imported
    exact Dict.upsertAll_filter hnodup hknown
  rw [hitems fun key => (existing.get? key).isSome] at hcontents
  refine ⟨hcontents'.trans ?_, ?_, ?_⟩
  · rw [← hsplit, ← hcontents, imported, Dict.upsertAll_of_new hdistinct,
      ← hitems fun key => !(existing.get? key).isSome, hnew, List.nil_append, List.foldl_map,
      List.foldl_map]
    rfl
  · rw [hids, hcount, EventTable.ids_of_places hplaces, EventTable.nextId_of_places hplaces]
  · rw [hnext, hcount, EventTable.nextId_of_places hplaces]

variable (provider configId maps t events) in
/-- An import leaves the rows after the items of the batch, under the old ids and the next ones,
and returns how many rows are new. -/
theorem upsertEvents_spec :
    (upsertEvents provider configId maps t events).1.contents =
        imported provider configId maps t.contents (batchItems configId events) ∧
      (upsertEvents provider configId maps t events).1.rows.map (·.id) =
        t.rows.map (·.id) ++
          List.range' t.nextId (upsertEvents provider configId maps t events).2 ∧
      (upsertEvents provider configId maps t events).1.nextId =
        t.nextId + (upsertEvents provider configId maps t events).2 := by
  refine importBatch_spec (batchItems_eq ▸ nodup_batchItems) fun event hevent id => ?_
  exact get?_existingByKey (List.mem_map_of_mem hevent)

end Import

end MediaMasterr.Playback
