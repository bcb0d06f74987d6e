import MediaMasterr.Playback.History

/-! # Conservation of playback events

What the aggregates of a rebuild say: a row has the totals of the events that are
mapped to it, so the totals of a season are those of its episodes and the totals of
a series those of its seasons, and a second rebuild changes nothing. -/

namespace MediaMasterr.Playback

open MediaMasterr.Foundations MediaMasterr.Database

/-! ## The values of a row -/

section

variable (p : PlaybackTables) (key : PlaybackTargetKey)

def aggregateAt : Option PlaybackHistoryAggregate := p.aggregates.find? (·.key = key)

/-- A row without an aggregate was not played. -/
def playCountAt : Nat := (aggregateAt p key).elim 0 (·.playCount)

def totalDurationAt : Nat := (aggregateAt p key).elim 0 (·.totalDurationSeconds)

def longestDurationAt : Nat := (aggregateAt p key).elim 0 (·.longestDurationSeconds)

def lastActivityAt : Option Nat := (aggregateAt p key).bind (·.lastActivityAt)

end

/-- The values of a row are the sums and the maxima of those of its parts. -/
structure SumsUp (p : PlaybackTables) (whole : PlaybackTargetKey)
    (parts : List PlaybackTargetKey) : Prop where
  playCount : playCountAt p whole = (parts.map (playCountAt p)).sum
  totalDuration : totalDurationAt p whole = (parts.map (totalDurationAt p)).sum
  longestDuration : longestDurationAt p whole = (parts.map (longestDurationAt p)).foldr max 0
  lastActivity : IsMaxOf {t | ∃ part ∈ parts, lastActivityAt p part = some t}
    (lastActivityAt p whole)

/-! ## The events of a row -/

section

variable (db : Tables) (event : PlaybackHistoryEvent)

/-- The movie that an event is mapped to. -/
def movieOf : Option Nat :=
  (identityOf db event).bind fun
    | .movie id _ => some id
    | .episode _ => none

/-- The episode that an event is mapped to, with its season and its series. -/
def episodeOf : Option EpisodeIdentity :=
  (identityOf db event).bind fun
    | .movie .. => none
    | .episode i => some i

end

/-- The primary keys that the mapping relies on. -/
structure PlaybackKeys (db : Tables) : Prop where
  versions : (db.movieVersions.map MovieVersion.id).Nodup
  series : (db.series.map Series.id).Nodup
  seasons : (db.seasons.map Season.id).Nodup
  episodes : (db.episodes.map Episode.id).Nodup

section Mapping

variable {db : Tables} {event : PlaybackHistoryEvent} {id : Nat} {i : EpisodeIdentity}

theorem mem_targetKeys_episode :
    ("episode", id) ∈ targetKeys db event ↔ (episodeOf db event).map (·.episodeId) = some id := by
  rw [targetKeys, episodeOf]
  rcases identityOf db event with _ | ⟨_, _⟩ | i <;>
    simp [PlaybackIdentity.targetKeys, eq_comm]

theorem mem_targetKeys_season :
    ("season", id) ∈ targetKeys db event ↔ (episodeOf db event).map (·.seasonId) = some id := by
  rw [targetKeys, episodeOf]
  rcases identityOf db event with _ | ⟨_, _⟩ | i <;>
    simp [PlaybackIdentity.targetKeys, eq_comm]

theorem mem_targetKeys_series :
    ("series", id) ∈ targetKeys db event ↔ (episodeOf db event).map (·.seriesId) = some id := by
  rw [targetKeys, episodeOf]
  rcases identityOf db event with _ | ⟨_, _⟩ | i <;>
    simp [PlaybackIdentity.targetKeys, eq_comm]

theorem mem_targetKeys_version (hkeys : PlaybackKeys db) {v : MovieVersion}
    (hv : v ∈ db.movieVersions) :
    ("movie_version", v.id) ∈ targetKeys db event ↔ movieOf db event = some v.movieId := by
  rw [targetKeys, movieOf]
  rcases identityOf db event with _ | ⟨movieId, _⟩ | i
  · simp
  · simp only [Option.elim_some, PlaybackIdentity.targetKeys, versionsByMovie, Dict.listAt_group,
      List.mem_map, List.mem_filter, decide_eq_true_eq, Prod.mk.injEq, true_and, exists_eq_right,
      Option.bind_some, Option.some.injEq]
    constructor
    · rintro ⟨v', ⟨hv', hmovie⟩, hid⟩
      rw [← hmovie, List.inj_on_of_nodup_map hkeys.versions hv' hv hid]
    · rintro rfl
      exact ⟨v, ⟨hv, rfl⟩, rfl⟩
  · simp [PlaybackIdentity.targetKeys]

theorem nodup_targetKeys (hkeys : PlaybackKeys db) (event : PlaybackHistoryEvent) :
    (targetKeys db event).Nodup := by
  rw [targetKeys]
  rcases identityOf db event with _ | ⟨movieId, _⟩ | i
  · exact List.nodup_nil
  · simp only [Option.elim_some, PlaybackIdentity.targetKeys, versionsByMovie, Dict.listAt_group]
    refine List.Nodup.map (fun _ _ heq => (Prod.mk.inj heq).2) ?_
    exact hkeys.versions.sublist (List.filter_sublist.map _)
  · simp [PlaybackIdentity.targetKeys]

/-- The mapped episode is one of the library's, and stands in its season and its series. -/
theorem episodeOf_rows (h : episodeOf db event = some i) :
    ∃ e ∈ db.episodes, ∃ s ∈ db.seasons, ∃ r ∈ db.series, e.seasonId = s.id ∧ s.seriesId = r.id ∧
      i.episodeId = e.id ∧ i.seasonId = s.id ∧ i.seriesId = r.id := by
  obtain ⟨identity, hidentity, hi⟩ := Option.bind_eq_some_iff.mp h
  cases identity with
  | movie id addedAt => cases hi
  | episode i' =>
    obtain rfl := Option.some.inj hi
    have hget : ∃ key, (episodeByIdentity db).get? key = some i' := by
      unfold identityOf at hidentity
      split_ifs at hidentity
      · obtain ⟨m, -, heq⟩ := Option.map_eq_some_iff.mp hidentity
        cases heq
      · split at hidentity
        · obtain ⟨i'', hget, heq⟩ := Option.map_eq_some_iff.mp hidentity
          obtain rfl := PlaybackIdentity.episode.inj heq
          exact ⟨_, hget⟩
        · cases hidentity
    obtain ⟨key, hget⟩ := hget
    obtain ⟨⟨⟨e, s⟩, r⟩, hrow, -, rfl⟩ := Dict.of_get?_build hget
    rw [identityRows, mem_joinOn, mem_joinOn] at hrow
    obtain ⟨⟨he, hs, hseason⟩, hr, hseries⟩ := hrow
    exact ⟨e, he, s, hs, r, hr, hseason.symm, hseries.symm, rfl, rfl, rfl⟩

end Mapping

/-! ## One event -/

section Step

variable {casefold : String → String} {db : Tables} (event : PlaybackHistoryEvent)
variable (identity : PlaybackIdentity)

theorem identityOf_mapTo : identityOf db (event.mapTo identity) = identityOf db event := by
  cases identity <;> rfl

theorem mapTo_mapTo : (event.mapTo identity).mapTo identity = event.mapTo identity := by
  cases identity <;> rfl

theorem identityOf_remapped : identityOf db (remapped db event) = identityOf db event := by
  unfold remapped
  cases hidentity : identityOf db event with
  | none => exact hidentity
  | some identity => rw [Option.elim_some, identityOf_mapTo, hidentity]

theorem remapped_remapped : remapped db (remapped db event) = remapped db event := by
  rw [remapped, identityOf_remapped]
  cases hidentity : identityOf db event with
  | none => rfl
  | some identity => rw [Option.elim_some, remapped, hidentity, Option.elim_some, mapTo_mapTo]

/-- The mapping of an event is no part of what is counted. -/
theorem add_mapTo (a : Aggregate) :
    a.add casefold (event.mapTo identity) = a.add casefold event := by
  cases identity <;> rfl

theorem addEvent_remapped (acc : Accumulators) :
    acc.addEvent casefold db (remapped db event) = acc.addEvent casefold db event := by
  unfold Accumulators.addEvent
  rw [identityOf_remapped]
  cases hidentity : identityOf db event with
  | none => rfl
  | some identity =>
    dsimp only [remapped]
    rw [hidentity]
    dsimp only [Option.elim_some]
    rw [mapTo_mapTo]

theorem watch_aggregates (acc : Accumulators) :
    (acc.watch casefold event identity).aggregates = acc.aggregates := by
  cases identity <;> rfl

theorem addEvent_aggregates (acc : Accumulators) :
    (acc.addEvent casefold db event).aggregates = (targetKeys db event).foldl
      (fun d key => d.feed (Aggregate.add casefold) newAggregate key event) acc.aggregates := by
  unfold Accumulators.addEvent targetKeys
  cases identityOf db event with
  | none => rfl
  | some identity =>
    dsimp only [Option.elim_some]
    rw [watch_aggregates]
    simp only [Dict.feed, add_mapTo]

end Step

/-! ## All events -/

section Run

variable {casefold : String → String} {db : Tables} {p : PlaybackTables}

theorem foldl_addEvent_aggregates (casefold : String → String) (db : Tables)
    (events : List PlaybackHistoryEvent) :
    (events.foldl (Accumulators.addEvent casefold db) {}).aggregates =
      (events.flatMap fun event => (targetKeys db event).map (·, event)).foldl
        (fun d pair => d.feed (Aggregate.add casefold) newAggregate pair.1 pair.2) ∅ := by
  induction events using List.reverseRecOn with
  | nil => rfl
  | append_singleton events event ih =>
    rw [List.foldl_concat, addEvent_aggregates, ih, List.flatMap_append, List.foldl_append,
      List.flatMap_singleton, List.foldl_map]

/-- The row of a target is that of the events that are mapped to it. -/
theorem aggregateAt_rebuild (hkeys : PlaybackKeys db) (casefold : String → String)
    (p : PlaybackTables) (key : PlaybackTargetKey) :
    aggregateAt (rebuildPlaybackHistoryAggregates casefold db p) key =
      (accumulate (Aggregate.add casefold) (newAggregate key)
        (p.events.filter (key ∈ targetKeys db ·))).map (·.row casefold key) := by
  have hrow (d : Dict PlaybackTargetKey Aggregate) :
      (d.entries.map fun e => e.2.row casefold e.1).find? (·.key = key) =
        (d.get? key).map (·.row casefold key) := by
    rw [List.find?_map, Dict.get?, Option.map_map]
    have hkey : (fun row : PlaybackHistoryAggregate => decide (row.key = key)) ∘
        (fun e : PlaybackTargetKey × Aggregate => e.2.row casefold e.1) =
          fun e => decide (e.1 = key) := rfl
    rw [hkey]
    cases hfind : d.entries.find? fun e => decide (e.1 = key) with
    | none => rfl
    | some e =>
      obtain rfl : e.1 = key := by simpa using List.find?_some hfind
      rfl
  rw [aggregateAt, rebuildPlaybackHistoryAggregates, hrow, foldl_addEvent_aggregates,
    Dict.get?_foldl_feed, Dict.filter_flatMap_keys _ fun event _ => nodup_targetKeys hkeys event]
  congr!

/-! ## The totals of the events of a row -/

theorem addUser_totals (casefold : String → String) (a : Aggregate) (event : PlaybackHistoryEvent) :
    (a.addUser casefold event).playCount = a.playCount ∧
    (a.addUser casefold event).totalDurationSeconds = a.totalDurationSeconds ∧
    (a.addUser casefold event).longestDurationSeconds = a.longestDurationSeconds ∧
    (a.addUser casefold event).lastActivityAt = a.lastActivityAt := by
  unfold Aggregate.addUser
  cases event.sourceUserId.filter (· ≠ "") with
  | none => exact ⟨rfl, rfl, rfl, rfl⟩
  | some userId =>
    dsimp only
    split_ifs <;> exact ⟨rfl, rfl, rfl, rfl⟩

/-- The values of an accumulator after its events. -/
theorem foldl_add_totals (casefold : String → String) (events : List PlaybackHistoryEvent)
    (a : Aggregate)
    (hnew : a.playCount = 0 ∧ a.totalDurationSeconds = 0 ∧ a.longestDurationSeconds = 0 ∧
      a.lastActivityAt = none) :
    (events.foldl (Aggregate.add casefold) a).playCount = events.length ∧
    (events.foldl (Aggregate.add casefold) a).totalDurationSeconds =
      (events.map (·.durationSeconds.toNat)).sum ∧
    (events.foldl (Aggregate.add casefold) a).longestDurationSeconds =
      (events.map (·.durationSeconds.toNat)).foldr max 0 ∧
    IsMaxOf {t | t ∈ events.map (·.playedAt)}
      (events.foldl (Aggregate.add casefold) a).lastActivityAt := by
  induction events using List.reverseRecOn with
  | nil =>
    obtain ⟨hcount, htotal, hlongest, hlast⟩ := hnew
    refine ⟨hcount, htotal, hlongest, ?_⟩
    rw [List.foldl_nil, hlast]
    exact Set.eq_empty_iff_forall_notMem.mpr fun t => List.not_mem_nil
  | append_singleton events event ih =>
    obtain ⟨hcount, htotal, hlongest, hlast⟩ := ih
    obtain ⟨hcount', htotal', hlongest', hlast'⟩ := addUser_totals casefold
      { events.foldl (Aggregate.add casefold) a with
        playCount := (events.foldl (Aggregate.add casefold) a).playCount + 1
        totalDurationSeconds := (events.foldl (Aggregate.add casefold) a).totalDurationSeconds +
          event.durationSeconds.toNat
        longestDurationSeconds :=
          max (events.foldl (Aggregate.add casefold) a).longestDurationSeconds
            event.durationSeconds.toNat } event
    rw [List.foldl_concat, Aggregate.add]
    dsimp only
    rw [hcount', htotal', hlongest', hlast', hcount, htotal, hlongest]
    refine ⟨by simp, by simp, ?_, ?_⟩
    · refine eq_of_forall_ge_iff fun b => ?_
      simp only [List.map_append, List.map_singleton, foldr_max_le_iff, max_le_iff,
        List.forall_mem_append, List.forall_mem_singleton]
    · exact (hlast.raise event.playedAt).congr fun t => by simp [or_comm]

/-- The values of a target are the totals of its events. -/
theorem values_rebuild (hkeys : PlaybackKeys db) (casefold : String → String) (p : PlaybackTables)
    (key : PlaybackTargetKey) {events : List PlaybackHistoryEvent}
    (hevents : p.events.filter (key ∈ targetKeys db ·) = events) :
    playCountAt (rebuildPlaybackHistoryAggregates casefold db p) key = events.length ∧
    totalDurationAt (rebuildPlaybackHistoryAggregates casefold db p) key =
      (events.map (·.durationSeconds.toNat)).sum ∧
    longestDurationAt (rebuildPlaybackHistoryAggregates casefold db p) key =
      (events.map (·.durationSeconds.toNat)).foldr max 0 ∧
    IsMaxOf {t | t ∈ events.map (·.playedAt)}
      (lastActivityAt (rebuildPlaybackHistoryAggregates casefold db p) key) := by
  unfold playCountAt totalDurationAt longestDurationAt lastActivityAt
  rw [aggregateAt_rebuild hkeys, hevents]
  have htotals := foldl_add_totals casefold events (newAggregate key)
    ⟨rfl, rfl, rfl, rfl⟩
  cases events with
  | nil => exact ⟨rfl, rfl, rfl, htotals.2.2.2⟩
  | cons event events => exact htotals

/-- The parts of a target that split its events have its values together. -/
theorem sumsUp_of_splits (hkeys : PlaybackKeys db) {whole : PlaybackTargetKey}
    {parts : List PlaybackTargetKey}
    (hsplits : Splits parts (fun part event => part ∈ targetKeys db event)
      (fun event => whole ∈ targetKeys db event) p.events) :
    SumsUp (rebuildPlaybackHistoryAggregates casefold db p) whole parts := by
  have hvalues key := values_rebuild hkeys casefold p key rfl
  constructor
  case playCount =>
    rw [(hvalues whole).1, hsplits.length_eq]
    exact congrArg List.sum (List.map_congr_left fun part _ => (hvalues part).1.symm)
  case totalDuration =>
    rw [(hvalues whole).2.1, hsplits.sum_eq]
    exact congrArg List.sum (List.map_congr_left fun part _ => (hvalues part).2.1.symm)
  case longestDuration =>
    rw [(hvalues whole).2.2.1, hsplits.max_eq]
    exact congrArg (List.foldr max 0)
      (List.map_congr_left fun part _ => (hvalues part).2.2.1.symm)
  case lastActivity =>
    refine IsMaxOf.of_parts (fun part _ => (hvalues part).2.2.2) (hvalues whole).2.2.2 fun t => ?_
    simp only [Set.mem_ofPred_eq, List.mem_map, List.mem_filter, decide_eq_true_eq]
    constructor
    · rintro ⟨event, ⟨hevent, hwhole⟩, rfl⟩
      obtain ⟨part, hpart, hbelongs⟩ :=
        (hsplits.exists_iff hevent).mpr (decide_eq_true hwhole)
      exact ⟨part, hpart, event, ⟨hevent, of_decide_eq_true hbelongs⟩, rfl⟩
    · rintro ⟨part, hpart, event, ⟨hevent, hbelongs⟩, rfl⟩
      have hwhole := (hsplits.exists_iff hevent).mp ⟨part, hpart, decide_eq_true hbelongs⟩
      exact ⟨event, ⟨hevent, of_decide_eq_true hwhole⟩, rfl⟩

/-! ## The levels -/

/-- Rows of one level that an event names by its mapped episode. -/
theorem splits_rows {γ : Type*} {rows : List γ} {rowId : γ → Nat} {scope : String}
    {part : EpisodeIdentity → Nat} {inWhole : PlaybackHistoryEvent → Bool}
    (hids : (rows.map rowId).Nodup)
    (hscope : ∀ event id, (scope, id) ∈ targetKeys db event ↔
      (episodeOf db event).map part = some id)
    (hnone : ∀ event, episodeOf db event = none → inWhole event = false)
    (hsome : ∀ event i, episodeOf db event = some i →
      (inWhole event = true ↔ ∃ row ∈ rows, part i = rowId row))
    (events : List PlaybackHistoryEvent) :
    Splits (rows.map fun row => (scope, rowId row))
      (fun part event => part ∈ targetKeys db event) inWhole events := by
  refine splits_of_key Prod.snd (fun event => (episodeOf db event).map part) ?_ ?_ ?_
  · rwa [List.map_map]
  · rintro event - key hkey
    obtain ⟨row, -, rfl⟩ := List.mem_map.mp hkey
    rw [decide_eq_true_eq, hscope]
  · rintro event -
    simp only [List.mem_map, exists_exists_and_eq_and]
    cases hepisode : episodeOf db event with
    | none => simp [hnone event hepisode]
    | some i =>
      rw [hsome event i hepisode]
      simp only [Option.map_some, Option.some.injEq]

theorem splits_season (hkeys : PlaybackKeys db) (id : Nat) (events : List PlaybackHistoryEvent) :
    Splits ((db.episodes.filter (·.seasonId = id)).map fun e => ("episode", e.id))
      (fun part event => part ∈ targetKeys db event)
      (fun event => ("season", id) ∈ targetKeys db event) events := by
  refine splits_rows (hkeys.episodes.sublist (List.filter_sublist.map _))
    (fun _ _ => mem_targetKeys_episode) (fun event hnone => ?_) (fun event i hepisode => ?_) events
  · rw [decide_eq_false_iff_not, mem_targetKeys_season, hnone]
    simp
  · obtain ⟨e, he, s, -, -, -, hseason, -, hi, hi', -⟩ := episodeOf_rows hepisode
    simp only [decide_eq_true_eq, mem_targetKeys_season, hepisode, Option.map_some,
      Option.some.injEq, List.mem_filter, hi, hi']
    constructor
    · intro hid
      exact ⟨e, ⟨he, hseason.trans hid⟩, rfl⟩
    · rintro ⟨e', ⟨he', hseason'⟩, hid⟩
      rw [List.inj_on_of_nodup_map hkeys.episodes he he' hid] at hseason
      exact hseason.symm.trans hseason'

theorem splits_series (hkeys : PlaybackKeys db) (id : Nat) (events : List PlaybackHistoryEvent) :
    Splits ((db.seasons.filter (·.seriesId = id)).map fun s => ("season", s.id))
      (fun part event => part ∈ targetKeys db event)
      (fun event => ("series", id) ∈ targetKeys db event) events := by
  refine splits_rows (hkeys.seasons.sublist (List.filter_sublist.map _))
    (fun _ _ => mem_targetKeys_season) (fun event hnone => ?_) (fun event i hepisode => ?_) events
  · rw [decide_eq_false_iff_not, mem_targetKeys_series, hnone]
    simp
  · obtain ⟨-, -, s, hs, r, -, -, hseries, -, hi, hi'⟩ := episodeOf_rows hepisode
    simp only [decide_eq_true_eq, mem_targetKeys_series, hepisode, Option.map_some,
      Option.some.injEq, List.mem_filter, hi, hi']
    constructor
    · intro hid
      exact ⟨s, ⟨hs, hseries.trans hid⟩, rfl⟩
    · rintro ⟨s', ⟨hs', hseries'⟩, hid⟩
      rw [List.inj_on_of_nodup_map hkeys.seasons hs hs' hid] at hseries
      exact hseries.symm.trans hseries'

/-- The play counts of all rows of a level count every mapped event once. -/
theorem sum_playCountAt {γ : Type*} {rows : List γ} {rowId : γ → Nat} {scope : String}
    {part : EpisodeIdentity → Nat} (hkeys : PlaybackKeys db) (hids : (rows.map rowId).Nodup)
    (hscope : ∀ event id, (scope, id) ∈ targetKeys db event ↔
      (episodeOf db event).map part = some id)
    (hrows : ∀ event i, episodeOf db event = some i → ∃ row ∈ rows, part i = rowId row) :
    (rows.map fun row => playCountAt (rebuildPlaybackHistoryAggregates casefold db p)
      (scope, rowId row)).sum = p.events.countP fun event => (episodeOf db event).isSome := by
  have hsplits : Splits (rows.map fun row => (scope, rowId row))
      (fun part event => part ∈ targetKeys db event) (fun event => (episodeOf db event).isSome)
      p.events := splits_rows hids hscope
    (fun event hnone => by rw [hnone]; rfl)
    (fun event i hepisode => by simpa [hepisode] using hrows event i hepisode) p.events
  rw [List.countP_eq_length_filter, hsplits.length_eq, List.map_map]
  exact congrArg List.sum
    (List.map_congr_left fun row _ => (values_rebuild hkeys casefold p _ rfl).1)

/-! ## A second rebuild -/

theorem foldl_addEvent_remapped (events : List PlaybackHistoryEvent) :
    (events.map (remapped db)).foldl (Accumulators.addEvent casefold db) {} =
      events.foldl (Accumulators.addEvent casefold db) {} := by
  rw [List.foldl_map]
  simp only [addEvent_remapped]

theorem take_take (row : WatchTracking) (a : Aggregate) : (row.take a).take a = row.take a := by
  unfold WatchTracking.take
  dsimp only
  cases a.lastActivityAt with
  | none => simp
  | some t => simp [raise_raise]

theorem writeWatch_writeWatch (ids : List Nat) (watch : Dict Nat Aggregate)
    (rows : Nat → WatchTracking) :
    writeWatch ids watch (writeWatch ids watch rows) = writeWatch ids watch rows := by
  funext id
  unfold writeWatch
  cases watch.get? id with
  | none => rfl
  | some a =>
    dsimp only
    split_ifs
    · exact take_take _ _
    · rfl

/-- A rebuild without new events changes nothing. -/
theorem rebuild_rebuild (casefold : String → String) (db : Tables) (p : PlaybackTables) :
    rebuildPlaybackHistoryAggregates casefold db (rebuildPlaybackHistoryAggregates casefold db p) =
      rebuildPlaybackHistoryAggregates casefold db p := by
  unfold rebuildPlaybackHistoryAggregates
  dsimp only
  simp only [foldl_addEvent_remapped, writeWatch_writeWatch, List.map_map]
  congr 1
  refine List.map_congr_left fun event _ => ?_
  exact remapped_remapped event

/-! ## Conservation -/

/-- The aggregates of a rebuild are conserved across the levels and stable. -/
structure AggregatesConserved (casefold : String → String) (db : Tables) (p p' : PlaybackTables) :
    Prop where
  keys : (p'.aggregates.map PlaybackHistoryAggregate.key).Nodup
  seasons : ∀ s ∈ db.seasons, SumsUp p' ("season", s.id)
    ((db.episodes.filter (·.seasonId = s.id)).map fun e => ("episode", e.id))
  series : ∀ r ∈ db.series, SumsUp p' ("series", r.id)
    ((db.seasons.filter (·.seriesId = r.id)).map fun s => ("season", s.id))
  versions : ∀ v ∈ db.movieVersions, ∀ v' ∈ db.movieVersions, v.movieId = v'.movieId →
    ∃ a : Option Aggregate,
      aggregateAt p' ("movie_version", v.id) = a.map (·.row casefold ("movie_version", v.id)) ∧
      aggregateAt p' ("movie_version", v'.id) = a.map (·.row casefold ("movie_version", v'.id))
  once : ∀ key, playCountAt p' key = p.events.countP (key ∈ targetKeys db ·)
  movieEvents : ∀ v ∈ db.movieVersions, playCountAt p' ("movie_version", v.id) =
    p.events.countP fun event => movieOf db event = some v.movieId
  episodeEvents : (db.episodes.map fun e => playCountAt p' ("episode", e.id)).sum =
    p.events.countP fun event => (episodeOf db event).isSome
  seasonEvents : (db.seasons.map fun s => playCountAt p' ("season", s.id)).sum =
    p.events.countP fun event => (episodeOf db event).isSome
  seriesEvents : (db.series.map fun r => playCountAt p' ("series", r.id)).sum =
    p.events.countP fun event => (episodeOf db event).isSome
  stable : rebuildPlaybackHistoryAggregates casefold db p' = p'

theorem rebuild_conserves (hkeys : PlaybackKeys db) (casefold : String → String)
    (p : PlaybackTables) :
    AggregatesConserved casefold db p (rebuildPlaybackHistoryAggregates casefold db p) := by
  have hcount key := (values_rebuild hkeys casefold p key rfl).1
  constructor
  case keys =>
    rw [rebuildPlaybackHistoryAggregates, List.map_map]
    exact Dict.nodup _
  case seasons => exact fun s _ => sumsUp_of_splits hkeys (splits_season hkeys s.id p.events)
  case series => exact fun r _ => sumsUp_of_splits hkeys (splits_series hkeys r.id p.events)
  case versions =>
    intro v hv v' hv' hmovie
    have hsame : p.events.filter (("movie_version", v'.id) ∈ targetKeys db ·) =
        p.events.filter (("movie_version", v.id) ∈ targetKeys db ·) := by
      simp only [mem_targetKeys_version hkeys hv, mem_targetKeys_version hkeys hv', hmovie]
    refine ⟨_, aggregateAt_rebuild hkeys casefold p _, ?_⟩
    rw [aggregateAt_rebuild hkeys, hsame]
    rfl
  case once => exact fun key => (hcount key).trans List.countP_eq_length_filter.symm
  case movieEvents =>
    intro v hv
    rw [hcount, List.countP_eq_length_filter]
    simp only [mem_targetKeys_version hkeys hv]
  case episodeEvents =>
    refine sum_playCountAt hkeys hkeys.episodes (fun _ _ => mem_targetKeys_episode) ?_
    intro event i hepisode
    obtain ⟨e, he, -, -, -, -, -, -, hi, -⟩ := episodeOf_rows hepisode
    exact ⟨e, he, hi⟩
  case seasonEvents =>
    refine sum_playCountAt hkeys hkeys.seasons (fun _ _ => mem_targetKeys_season) ?_
    intro event i hepisode
    obtain ⟨-, -, s, hs, -, -, -, -, -, hi, -⟩ := episodeOf_rows hepisode
    exact ⟨s, hs, hi⟩
  case seriesEvents =>
    refine sum_playCountAt hkeys hkeys.series (fun _ _ => mem_targetKeys_series) ?_
    intro event i hepisode
    obtain ⟨-, -, -, -, r, hr, -, -, -, -, hi⟩ := episodeOf_rows hepisode
    exact ⟨r, hr, hi⟩
  case stable => exact rebuild_rebuild casefold db p

end Run

/-- A season of two episodes. -/
def twoEpisodes : Tables where
  series := [{ id := 1, tmdbId := 10, title := "A" }]
  seasons := [{ id := 2, seriesId := 1, seasonNumber := 1 }]
  episodes := [{ id := 3, seasonId := 2, episodeNumber := 1 },
    { id := 4, seasonId := 2, episodeNumber := 2 }]

/-- An episode of the season was played. -/
def played (episodeNumber playedAt : Nat) (durationSeconds : Int) : PlaybackHistoryEvent where
  sourceServiceConfigId := 1
  providerMediaType := "episode"
  playedAt := playedAt
  durationSeconds := durationSeconds
  tmdbId := some 10
  seasonNumber := some 1
  episodeNumber := some episodeNumber

theorem rebuild_conserves_twoEpisodes :
    PlaybackKeys twoEpisodes ∧
    AggregatesConserved PythonText.asciiLower twoEpisodes
      { events := [played 1 50 30, played 2 70 40, played 1 60 (-5)] }
      (rebuildPlaybackHistoryAggregates PythonText.asciiLower twoEpisodes
        { events := [played 1 50 30, played 2 70 40, played 1 60 (-5)] }) := by
  have hkeys : PlaybackKeys twoEpisodes := ⟨by decide, by decide, by decide, by decide⟩
  exact ⟨hkeys, rebuild_conserves hkeys _ _⟩

example : ((rebuildPlaybackHistoryAggregates PythonText.asciiLower twoEpisodes
    { events := [played 1 50 30, played 2 70 40, played 1 60 (-5)] }).aggregates.map fun row =>
      (row.key, row.playCount, row.totalDurationSeconds, row.lastActivityAt)) =
    [(("series", 1), 3, 70, some 70), (("season", 2), 3, 70, some 70),
      (("episode", 3), 2, 30, some 60), (("episode", 4), 1, 40, some 70)] := by
  decide +kernel

end MediaMasterr.Playback
