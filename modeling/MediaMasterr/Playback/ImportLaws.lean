import MediaMasterr.Playback.Ledger

/-! # Imports in sequence

An import is idempotent and its counts add up, on every table. Two imports in sequence leave what
one import of both batches leaves, up to the columns that an update may keep: the username and
the media of a row. -/

namespace MediaMasterr.Playback

open MediaMasterr.Foundations MediaMasterr.Database

variable (provider : Service) (configId : Nat) (maps : IdentityMaps) (t : EventTable)
  (events events' : List NormalizedEvent)

/-! ## The columns that an update may keep -/

/-- The username that an event leaves under its key. -/
def usernameAfter (prior : Option PlaybackEventValues) (event : NormalizedEvent) : Option String :=
  prior.elim event.sourceUsername fun values =>
    if event.HasUsername then event.sourceUsername else values.sourceUsername

/-- The media that an event leaves under its key. -/
def mediaAfter (prior : Option PlaybackEventValues) (event : NormalizedEvent) : MediaColumns :=
  prior.elim (maps.mediaOf event) fun values =>
    if (maps.mediaOf event).tmdbId ≠ none then maps.mediaOf event else values.media

/-- The later event has a username and media of its own, or those that both events leave are the
same. -/
structure Hides (prior : Option PlaybackEventValues) (event event' : NormalizedEvent) : Prop where
  username : event'.HasUsername ∨ usernameAfter prior event = usernameAfter prior event'
  media : (maps.mediaOf event').tmdbId ≠ none ∨
    mediaAfter maps prior event = mediaAfter maps prior event'

/-- The columns that every event writes. -/
def PlaybackEventValues.written (values : PlaybackEventValues) : PlaybackEventValues :=
  { values with
    sourceUsername := none
    tmdbId := none
    seasonNumber := none
    episodeNumber := none
    movieId := none
    seriesId := none
    seasonId := none
    episodeId := none }

/-- The row after an update still has a username and a TMDB id, and its media are those that it
had or all come from an event. -/
structure Keeps (values values' : PlaybackEventValues) : Prop where
  username : values.sourceUsername ≠ none → values'.sourceUsername ≠ none
  tmdbId : values.tmdbId ≠ none → values'.tmdbId ≠ none
  media : values'.media = values.media ∨ ∃ event ∈ events,
    (maps.mediaOf event).tmdbId ≠ none ∧ values'.media = maps.mediaOf event

/-- What imports of batches leave. -/
structure ImportLaws : Prop where
  /-- Two imports and one of both batches: the rows, but for two groups of columns. -/
  same_ids : (upsertEvents provider configId maps
      (upsertEvents provider configId maps t events).1 events').1.rows.map (·.id) =
    (upsertEvents provider configId maps t (events ++ events')).1.rows.map (·.id)
  same_written : (upsertEvents provider configId maps
      (upsertEvents provider configId maps t events).1 events').1.rows.map (·.1.written) =
    (upsertEvents provider configId maps t (events ++ events')).1.rows.map (·.1.written)
  same_rows : (∀ key event event', (eventsByKey events).get? key = some event →
      (eventsByKey events').get? key = some event' →
        Hides maps (t.contents.get? (configId, key)) event event') →
    (upsertEvents provider configId maps
        (upsertEvents provider configId maps t events).1 events').1.rows =
      (upsertEvents provider configId maps t (events ++ events')).1.rows
  again : upsertEvents provider configId maps (upsertEvents provider configId maps t events).1
    events = ((upsertEvents provider configId maps t events).1, 0)
  growth : (upsertEvents provider configId maps
      (upsertEvents provider configId maps t events).1 events').1.rows.length =
    t.rows.length + (upsertEvents provider configId maps t events).2 +
      (upsertEvents provider configId maps
        (upsertEvents provider configId maps t events).1 events').2
  kept : ∀ row ∈ t.rows, ∃ row' ∈ (upsertEvents provider configId maps t events).1.rows,
    row'.1.key = row.1.key ∧ Keeps maps events row.1 row'.1

/-! ## One event -/

section Values

variable {provider configId maps} {event : NormalizedEvent} {values : PlaybackEventValues}

theorem media_updateValues : (updateValues maps event values).media =
    if (maps.mediaOf event).tmdbId ≠ none then maps.mediaOf event else values.media := by
  unfold updateValues
  dsimp only
  split_ifs <;> rfl

theorem sourceUsername_updateValues : (updateValues maps event values).sourceUsername =
    if event.HasUsername then event.sourceUsername else values.sourceUsername := by
  unfold updateValues
  dsimp only
  split_ifs <;> rfl

theorem written_updateValues (values : PlaybackEventValues) :
    (updateValues maps event values).written = { values.written with
      sourceItemId := event.sourceItemId
      providerMediaType := event.providerMediaType
      playedAt := event.playedAt
      durationSeconds := event.durationSeconds
      completed := event.completed
      sourceUserId := event.sourceUserId } := by
  unfold updateValues
  dsimp only
  split_ifs <;> rfl

theorem ext_values {values values' : PlaybackEventValues}
    (hwritten : values.written = values'.written)
    (husername : values.sourceUsername = values'.sourceUsername)
    (hmedia : values.media = values'.media) : values = values' := by
  rcases values with ⟨⟨⟩⟩
  rcases values' with ⟨⟨⟩⟩
  simp only [PlaybackEventValues.written, PlaybackHistoryEvent.media, PlaybackEventValues.mk.injEq,
    PlaybackHistoryEvent.mk.injEq, MediaColumns.mk.injEq, and_true] at *
  simp only [hwritten, husername, hmedia, and_self]

/-- The row of a key after an event. -/
abbrev valuesAfter (provider : Service) (configId : Nat) (maps : IdentityMaps)
    (prior : Option PlaybackEventValues) (event : NormalizedEvent) : PlaybackEventValues :=
  Dict.upserted (fun values event => updateValues maps event values)
    (fun event => eventValues maps event provider configId) prior event

variable {prior : Option PlaybackEventValues}

theorem sourceUsername_valuesAfter :
    (valuesAfter provider configId maps prior event).sourceUsername =
      usernameAfter prior event := by
  cases prior with
  | none => rfl
  | some values => exact sourceUsername_updateValues

theorem media_valuesAfter :
    (valuesAfter provider configId maps prior event).media = mediaAfter maps prior event := by
  cases prior with
  | none => rfl
  | some values => exact media_updateValues

/-- An event that comes in again changes nothing. -/
theorem updateValues_valuesAfter :
    updateValues maps event (valuesAfter provider configId maps prior event) =
      valuesAfter provider configId maps prior event := by
  refine ext_values ?_ ?_ ?_
  · rw [written_updateValues]
    cases prior with
    | none => rfl
    | some values =>
      rw [valuesAfter, Dict.upserted, Option.elim_some, written_updateValues]
  · rw [sourceUsername_updateValues, sourceUsername_valuesAfter, usernameAfter]
    by_cases hname : event.HasUsername <;> cases prior <;> simp [hname]
  · rw [media_updateValues, media_valuesAfter, mediaAfter]
    by_cases hmapped : (maps.mediaOf event).tmdbId = none <;> cases prior <;> simp [hmapped]

variable {event' : NormalizedEvent}

/-- The columns that every event writes are those of the later event. -/
theorem written_updateValues_valuesAfter (hkey : event.sourceEventKey = event'.sourceEventKey) :
    (updateValues maps event' (valuesAfter provider configId maps prior event)).written =
      (valuesAfter provider configId maps prior event').written := by
  rw [written_updateValues]
  cases prior with
  | none =>
    simp only [valuesAfter, Dict.upserted, Option.elim_none, eventValues,
      PlaybackEventValues.written, hkey]
  | some values =>
    simp only [valuesAfter, Dict.upserted, Option.elim_some, written_updateValues]

/-- The later event alone leaves the row of both exactly when it hides the earlier one. -/
theorem updateValues_valuesAfter_eq_iff (hkey : event.sourceEventKey = event'.sourceEventKey) :
    updateValues maps event' (valuesAfter provider configId maps prior event) =
        valuesAfter provider configId maps prior event' ↔ Hides maps prior event event' := by
  have husername : (updateValues maps event'
      (valuesAfter provider configId maps prior event)).sourceUsername =
        (valuesAfter provider configId maps prior event').sourceUsername ↔
      event'.HasUsername ∨ usernameAfter prior event = usernameAfter prior event' := by
    rw [sourceUsername_updateValues, sourceUsername_valuesAfter, sourceUsername_valuesAfter]
    by_cases hname : event'.HasUsername
    · cases prior <;> simp [usernameAfter, hname]
    · simp [hname]
  have hmedia : (updateValues maps event'
      (valuesAfter provider configId maps prior event)).media =
        (valuesAfter provider configId maps prior event').media ↔
      (maps.mediaOf event').tmdbId ≠ none ∨
        mediaAfter maps prior event = mediaAfter maps prior event' := by
    rw [media_updateValues, media_valuesAfter, media_valuesAfter]
    by_cases hmapped : (maps.mediaOf event').tmdbId ≠ none
    · cases prior <;> simp [mediaAfter, hmapped]
    · simp [hmapped]
  constructor
  · intro h
    exact ⟨husername.mp (congrArg (·.sourceUsername) h),
      hmedia.mp (congrArg (fun values => values.media) h)⟩
  · intro h
    exact ext_values (written_updateValues_valuesAfter hkey) (husername.mpr h.username)
      (hmedia.mpr h.media)

end Values

/-! ## Batches -/

section Batches

variable {provider configId maps t events events'}

theorem keys_eventsByKey :
    (eventsByKey events).keys = Loops.appendMissing [] (events.map (·.sourceEventKey)) := by
  rw [Loops.appendMissing, List.foldl_map]
  exact (List.foldl_hom Dict.keys fun d event => Dict.keys_set.symm).symm

theorem get?_eventsByKey_append {key : String} : (eventsByKey (events ++ events')).get? key =
    ((eventsByKey events').get? key).or ((eventsByKey events).get? key) := by
  simp only [get?_eventsByKey, List.reverse_append, List.find?_append]

/-- A batch that is two batches in one. -/
theorem merges_batchItems : Dict.Merges (batchItems configId events)
    (batchItems configId events') (batchItems configId (events ++ events')) where
  nodup_first := nodup_batchItems
  nodup_second := nodup_batchItems
  nodup_both := nodup_batchItems
  keys xs := by
    rw [keys_batchItems, keys_batchItems, keys_batchItems, keys_eventsByKey, keys_eventsByKey,
      keys_eventsByKey, Loops.appendMissing_map_appendMissing,
      Loops.appendMissing_map_appendMissing, Loops.appendMissing_map_appendMissing,
      List.map_append, List.map_append, Loops.appendMissing_append]
  mem_iff k event := by
    have hkey : k ∉ (batchItems configId events').map Prod.fst ↔
        ¬(k.1 = configId ∧ ∃ event, (eventsByKey events').get? k.2 = some event) := by
      rw [← exists_and_left]
      refine not_congr ⟨fun h => ?_, fun ⟨event, h⟩ => ?_⟩
      · obtain ⟨event, hevent⟩ := Dict.exists_item h
        exact ⟨event, mem_batchItems.mp hevent⟩
      · exact Dict.fst_mem (mem_batchItems.mpr h)
    rw [mem_batchItems, mem_batchItems, mem_batchItems, get?_eventsByKey_append, hkey,
      Option.or_eq_some_iff, Option.eq_none_iff_forall_ne_some]
    constructor
    · rintro ⟨rfl, hlater | ⟨hnone, hearlier⟩⟩
      · exact .inl ⟨rfl, hlater⟩
      · exact .inr ⟨fun ⟨_, event, h⟩ => hnone event h, rfl, hearlier⟩
    · rintro (⟨rfl, hlater⟩ | ⟨hnone, rfl, hearlier⟩)
      · exact ⟨rfl, .inl hlater⟩
      · exact ⟨rfl, .inr ⟨fun event h => hnone ⟨rfl, event, h⟩, hearlier⟩⟩

theorem length_rows (t : EventTable) : t.rows.length = t.contents.keys.length := by
  rw [EventTable.keys_contents, List.length_map]

variable (provider configId maps t events) in
/-- The number that an import returns is how much the table grows. -/
theorem length_upsertEvents : (upsertEvents provider configId maps t events).1.rows.length =
    t.rows.length + (upsertEvents provider configId maps t events).2 := by
  simpa using congrArg List.length (upsertEvents_spec provider configId maps t events).2.1

variable (provider configId maps t events events') in
/-- What two imports leave, under the same ids as one of both batches. -/
theorem upsertEvents_upsertEvents :
    (upsertEvents provider configId maps
        (upsertEvents provider configId maps t events).1 events').1.contents =
      imported provider configId maps
        (imported provider configId maps t.contents (batchItems configId events))
        (batchItems configId events') ∧
    (upsertEvents provider configId maps
        (upsertEvents provider configId maps t events).1 events').1.rows.map (·.id) =
      (upsertEvents provider configId maps t (events ++ events')).1.rows.map (·.id) := by
  obtain ⟨hcontents, hids, hnext⟩ := upsertEvents_spec provider configId maps t events
  obtain ⟨hcontents', hids', -⟩ := upsertEvents_spec provider configId maps
    (upsertEvents provider configId maps t events).1 events'
  obtain ⟨hboth, hidsBoth, -⟩ := upsertEvents_spec provider configId maps t (events ++ events')
  rw [hcontents] at hcontents'
  refine ⟨hcontents', ?_⟩
  have hkeys : (upsertEvents provider configId maps
      (upsertEvents provider configId maps t events).1 events').1.contents.keys =
        (upsertEvents provider configId maps t (events ++ events')).1.contents.keys := by
    rw [hcontents', hboth]
    exact Dict.keys_upsertAll_upsertAll merges_batchItems
  have hcount : (upsertEvents provider configId maps t events).2 + (upsertEvents provider configId
      maps (upsertEvents provider configId maps t events).1 events').2 =
        (upsertEvents provider configId maps t (events ++ events')).2 := by
    have hlength := congrArg List.length hkeys
    rw [← length_rows, ← length_rows, length_upsertEvents, length_upsertEvents,
      length_upsertEvents] at hlength
    omega
  rw [hids', hids, hnext, hidsBoth, List.append_assoc, List.range'_append_1, hcount]

/-- Columns that are the same under every key are the same in every row. -/
theorem map_rows_of_contents {ω : Type*} {t t' : EventTable} {f : PlaybackEventValues → ω}
    (h : t.contents.mapValues (fun _ => f) = t'.contents.mapValues fun _ => f) :
    (t.rows.map fun row => f row.1) = t'.rows.map fun row => f row.1 := by
  have hvalues := congrArg Dict.values h
  simpa [Dict.values, Dict.mapValues, EventTable.contents, Function.comp_def] using hvalues

/-- Two imports and one of both batches leave the same rows exactly when the later event of every
key of both batches hides the earlier one. -/
theorem rows_upsertEvents_append_iff :
    (upsertEvents provider configId maps
        (upsertEvents provider configId maps t events).1 events').1.rows =
      (upsertEvents provider configId maps t (events ++ events')).1.rows ↔
    ∀ key event event', (eventsByKey events).get? key = some event →
      (eventsByKey events').get? key = some event' →
        Hides maps (t.contents.get? (configId, key)) event event' := by
  obtain ⟨hcontents, hids⟩ := upsertEvents_upsertEvents provider configId maps t events events'
  have hboth := (upsertEvents_spec provider configId maps t (events ++ events')).1
  have hrows : (upsertEvents provider configId maps
        (upsertEvents provider configId maps t events).1 events').1.rows =
      (upsertEvents provider configId maps t (events ++ events')).1.rows ↔
      (upsertEvents provider configId maps
        (upsertEvents provider configId maps t events).1 events').1.contents =
      (upsertEvents provider configId maps t (events ++ events')).1.contents := by
    constructor
    · intro h
      refine Dict.ext_entries ?_
      rw [EventTable.entries_contents, EventTable.entries_contents, h]
    · exact fun h => congrArg EventTable.rows (EventTable.ext_contents hids h)
  rw [hrows, hcontents, hboth]
  refine (Dict.upsertAll_eq_iff merges_batchItems).trans ⟨fun h key event event' hget hget' => ?_,
    fun h k event event' hitem hitem' => ?_⟩
  · have hkey : event.sourceEventKey = event'.sourceEventKey := by
      rw [sourceEventKey_of_get? hget, sourceEventKey_of_get? hget']
    exact (updateValues_valuesAfter_eq_iff hkey).mp (h (configId, key) event event'
      (mem_batchItems.mpr ⟨rfl, hget⟩) (mem_batchItems.mpr ⟨rfl, hget'⟩))
  · obtain ⟨rfl, hget⟩ := mem_batchItems.mp hitem
    obtain ⟨-, hget'⟩ := mem_batchItems.mp hitem'
    have hkey : event.sourceEventKey = event'.sourceEventKey := by
      rw [sourceEventKey_of_get? hget, sourceEventKey_of_get? hget']
    exact (updateValues_valuesAfter_eq_iff hkey).mpr (h k.2 event event' hget hget')

/-- The columns that every event writes are the same in any case. -/
theorem written_upsertEvents_append :
    (upsertEvents provider configId maps
        (upsertEvents provider configId maps t events).1 events').1.rows.map (·.1.written) =
      (upsertEvents provider configId maps t (events ++ events')).1.rows.map (·.1.written) := by
  obtain ⟨hcontents, -⟩ := upsertEvents_upsertEvents provider configId maps t events events'
  refine map_rows_of_contents ?_
  rw [hcontents, (upsertEvents_spec provider configId maps t (events ++ events')).1]
  refine (Dict.mapValues_upsertAll_eq_iff merges_batchItems _).mpr fun k event event' h h' => ?_
  have hkey : event.sourceEventKey = event'.sourceEventKey := by
    rw [sourceEventKey_of_get? (mem_batchItems.mp h).2,
      sourceEventKey_of_get? (mem_batchItems.mp h').2]
  exact written_updateValues_valuesAfter hkey

/-- A batch that comes in again changes nothing. -/
theorem upsertEvents_again : upsertEvents provider configId maps
      (upsertEvents provider configId maps t events).1 events =
    ((upsertEvents provider configId maps t events).1, 0) := by
  obtain ⟨hcontents, hids, -⟩ := upsertEvents_spec provider configId maps
    (upsertEvents provider configId maps t events).1 events
  have hagain : (upsertEvents provider configId maps (upsertEvents provider configId maps t
      events).1 events).1.contents = (upsertEvents provider configId maps t events).1.contents := by
    rw [hcontents, (upsertEvents_spec provider configId maps t events).1]
    exact Dict.upsertAll_again nodup_batchItems fun event prior => updateValues_valuesAfter
  have hzero : (upsertEvents provider configId maps
      (upsertEvents provider configId maps t events).1 events).2 = 0 := by
    have hlength := length_upsertEvents provider configId maps
      (upsertEvents provider configId maps t events).1 events
    rw [length_rows, hagain, ← length_rows] at hlength
    omega
  rw [hzero, List.range'_zero, List.append_nil] at hids
  exact Prod.ext (EventTable.ext_contents hids hagain) hzero

theorem mem_of_eventsByKey {key : String} {event : NormalizedEvent}
    (h : (eventsByKey events).get? key = some event) : event ∈ events := by
  rw [get?_eventsByKey] at h
  exact List.mem_reverse.mp (List.mem_of_find?_eq_some h)

theorem keeps_updateValues {event : NormalizedEvent} (hevent : event ∈ events)
    (values : PlaybackEventValues) :
    Keeps maps events values (updateValues maps event values) := by
  have hmedia : (updateValues maps event values).media = _ := media_updateValues
  refine ⟨fun h => ?_, fun h => ?_, ?_⟩
  · rw [sourceUsername_updateValues]
    split_ifs with hname
    · intro hnone
      rw [NormalizedEvent.HasUsername, hnone] at hname
      exact hname rfl
    · exact h
  · have htmdb : (updateValues maps event values).tmdbId =
        (updateValues maps event values).media.tmdbId := rfl
    rw [htmdb, hmedia]
    split_ifs with hmapped
    · exact hmapped
    · exact h
  · rw [hmedia]
    split_ifs with hmapped
    · exact .inr ⟨event, hevent, hmapped, rfl⟩
    · exact .inl rfl

/-- A row that is there keeps what it has. -/
theorem keeps_upsertEvents {row : PlaybackEventRow} (hrow : row ∈ t.rows) :
    ∃ row' ∈ (upsertEvents provider configId maps t events).1.rows,
      row'.1.key = row.1.key ∧ Keeps maps events row.1 row'.1 := by
  have hget : t.contents.get? row.1.key = some row.1 :=
    EventTable.get?_contents.mpr ⟨row, hrow, rfl, rfl⟩
  have hcontents := (upsertEvents_spec provider configId maps t events).1
  have hfind {values : PlaybackEventValues}
      (h : (imported provider configId maps t.contents
        (batchItems configId events)).get? row.1.key = some values) :
      ∃ row' ∈ (upsertEvents provider configId maps t events).1.rows,
        row'.1.key = row.1.key ∧ row'.1 = values :=
    EventTable.get?_contents.mp (hcontents ▸ h)
  by_cases hkey : row.1.key ∈ (batchItems configId events).map Prod.fst
  · obtain ⟨event, hevent⟩ := Dict.exists_item hkey
    have hmem := mem_of_eventsByKey (mem_batchItems.mp hevent).2
    obtain ⟨row', hrow', hsame, hvalues⟩ := hfind
      ((Dict.get?_upsertAll_of_mem nodup_batchItems hevent).trans
        (congrArg some (by rw [hget])))
    exact ⟨row', hrow', hsame, hvalues ▸ keeps_updateValues hmem row.1⟩
  · obtain ⟨row', hrow', hsame, hvalues⟩ := hfind
      ((Dict.get?_upsertAll_of_notMem hkey).trans hget)
    exact ⟨row', hrow', hsame, hvalues ▸ ⟨id, id, .inl rfl⟩⟩

end Batches

/-- Imports are idempotent, count the rows that are new and keep what a row has; in sequence they
leave what one import leaves, when the later events hide the earlier ones. -/
theorem importLaws (provider : Service) (configId : Nat) (maps : IdentityMaps) (t : EventTable)
    (events events' : List NormalizedEvent) :
    ImportLaws provider configId maps t events events' where
  same_ids := (upsertEvents_upsertEvents provider configId maps t events events').2
  same_written := written_upsertEvents_append
  same_rows := rows_upsertEvents_append_iff.mpr
  again := upsertEvents_again
  growth := by rw [length_upsertEvents, length_upsertEvents]
  kept _ h := keeps_upsertEvents h

/-- A play with a username and then the same play without one: an import of both loses it. -/
theorem not_upsertEvents_append_named :
    ¬((upsertEvents .tautulli 1 ⟨∅, ∅⟩ (upsertEvents .tautulli 1 ⟨∅, ∅⟩ ⟨[], .nil, .nil⟩
          [⟨"7", "100", "movie", 50, 60, some "1", some "ann", none⟩]).1
          [⟨"7", "100", "movie", 50, 60, some "1", none, none⟩]).1.rows =
      (upsertEvents .tautulli 1 ⟨∅, ∅⟩ ⟨[], .nil, .nil⟩
        ([⟨"7", "100", "movie", 50, 60, some "1", some "ann", none⟩] ++
          [⟨"7", "100", "movie", 50, 60, some "1", none, none⟩])).1.rows) := by
  decide +kernel

end MediaMasterr.Playback
