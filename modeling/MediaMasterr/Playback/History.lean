import MediaMasterr.Database.Tables
import MediaMasterr.Foundations.Accumulators
import MediaMasterr.Foundations.Joins
import MediaMasterr.Foundations.PythonText

/-! # Playback history

The retained playback events, and `rebuild_playback_history_aggregates`, which maps
each event to the media rows of today, writes one aggregate for every row that was
played, and raises the watch columns of the rows. -/

namespace MediaMasterr.Playback

open MediaMasterr.Foundations MediaMasterr.Database

/-! ## The tables -/

structure PlaybackHistoryEvent where
  sourceServiceConfigId : Nat
  providerMediaType : String
  playedAt : Nat
  durationSeconds : Int
  sourceUserId : Option String := none
  sourceUsername : Option String := none
  tmdbId : Option Nat := none
  seasonNumber : Option Nat := none
  episodeNumber : Option Nat := none
  movieId : Option Nat := none
  seriesId : Option Nat := none
  seasonId : Option Nat := none
  episodeId : Option Nat := none
  deriving DecidableEq, Repr

/-- A scope and an id of a row. -/
abbrev PlaybackTargetKey := String × Nat

structure PlaybackHistoryAggregate where
  targetScope : String
  targetId : Nat
  mediaType : MediaType
  playCount : Nat
  totalDurationSeconds : Nat
  longestDurationSeconds : Nat
  uniqueUserCount : Nat
  usernames : List String
  usernamesComplete : Bool
  firstActivityAt : Option Nat
  lastActivityAt : Option Nat
  deriving DecidableEq, Repr

def PlaybackHistoryAggregate.key (row : PlaybackHistoryAggregate) : PlaybackTargetKey :=
  (row.targetScope, row.targetId)

/-- The watch columns of a row. -/
structure WatchTracking where
  viewCount : Option Nat := none
  lastViewedAt : Option Nat := none
  deriving DecidableEq, Repr

/-- What the rebuild reads and writes beside the media tables; the watch columns of the movies,
series, seasons and episodes stand under the ids of the rows. -/
structure PlaybackTables where
  events : List PlaybackHistoryEvent := []
  aggregates : List PlaybackHistoryAggregate := []
  movies : Nat → WatchTracking := fun _ => {}
  series : Nat → WatchTracking := fun _ => {}
  seasons : Nat → WatchTracking := fun _ => {}
  episodes : Nat → WatchTracking := fun _ => {}

/-! ## Accumulators -/

structure Aggregate where
  mediaType : MediaType
  playCount : Nat := 0
  totalDurationSeconds : Nat := 0
  longestDurationSeconds : Nat := 0
  users : List String := []
  usernames : Dict String String := ∅
  usernamesComplete : Bool := true
  firstActivityAt : Option Nat := none
  lastActivityAt : Option Nat := none

/-- `current = new if current is None or new < current`. -/
def lower (current : Option Nat) (new : Nat) : Option Nat :=
  if current.all (new < ·) then some new else current

section

variable (casefold : String → String)

/-- The user of an event; an event without one leaves the names incomplete. -/
def Aggregate.addUser (a : Aggregate) (event : PlaybackHistoryEvent) : Aggregate :=
  match event.sourceUserId.filter (· ≠ "") with
  | none => { a with usernamesComplete := false }
  | some userId =>
    let a := { a with
      users := a.users.insert (toString event.sourceServiceConfigId ++ ":" ++ userId) }
    let username := PythonText.strip (event.sourceUsername.getD "")
    if username = "" then { a with usernamesComplete := false }
    else if (a.usernames.get? (casefold username)).isSome then a
    else { a with usernames := a.usernames.set (casefold username) username }

/-- `_Aggregate.add`; a negative duration counts as none. -/
def Aggregate.add (a : Aggregate) (event : PlaybackHistoryEvent) : Aggregate :=
  let duration := event.durationSeconds.toNat
  let a := { a with
    playCount := a.playCount + 1
    totalDurationSeconds := a.totalDurationSeconds + duration
    longestDurationSeconds := max a.longestDurationSeconds duration }
  let a := a.addUser casefold event
  { a with
    firstActivityAt := lower a.firstActivityAt event.playedAt
    lastActivityAt := raise a.lastActivityAt event.playedAt }

/-- The row that an accumulator is written as. -/
def Aggregate.row (key : PlaybackTargetKey) (a : Aggregate) : PlaybackHistoryAggregate where
  targetScope := key.1
  targetId := key.2
  mediaType := a.mediaType
  playCount := a.playCount
  totalDurationSeconds := a.totalDurationSeconds
  longestDurationSeconds := a.longestDurationSeconds
  uniqueUserCount := a.users.length
  usernames := a.usernames.values.mergeSort fun u u' => casefold u ≤ casefold u'
  usernamesComplete := a.usernamesComplete
  firstActivityAt := a.firstActivityAt
  lastActivityAt := a.lastActivityAt

end

/-! ## Mapping the events -/

structure EpisodeIdentity where
  episodeId : Nat
  seasonId : Nat
  seriesId : Nat
  seriesAddedAt : Option Nat
  seasonAddedAt : Option Nat
  deriving DecidableEq, Repr

/-- The media row of today that an event is about. -/
inductive PlaybackIdentity where
  | movie (id : Nat) (addedAt : Option Nat)
  | episode (identity : EpisodeIdentity)
  deriving DecidableEq, Repr

section

variable (db : Tables)

/-- `movie_by_tmdb`. -/
def movieByTmdb : Dict Nat (Nat × Option Nat) :=
  Dict.build (fun m : Movie => some m.tmdbId) (fun m => (m.id, m.addedAt)) db.movies

/-- `versions_by_movie`. -/
def versionsByMovie : Dict Nat (List Nat) :=
  Dict.group MovieVersion.movieId MovieVersion.id db.movieVersions

/-- The rows of the join of episodes, seasons and series. -/
def identityRows : List ((Episode × Season) × Series) :=
  joinOn (fun row => row.2.seriesId) Series.id
    (joinOn Episode.seasonId Season.id db.episodes db.seasons) db.series

/-- `episode_by_identity`. -/
def episodeByIdentity : Dict (Nat × Nat × Nat) EpisodeIdentity :=
  Dict.build
    (fun row => some (row.2.tmdbId, row.1.2.seasonNumber, row.1.1.episodeNumber))
    (fun row => ⟨row.1.1.id, row.1.2.id, row.2.id, row.2.addedAt, row.1.2.addedAt⟩)
    (identityRows db)

def identityOf (event : PlaybackHistoryEvent) : Option PlaybackIdentity :=
  if event.providerMediaType = "movie" then
    (event.tmdbId.bind (movieByTmdb db).get?).map fun m => .movie m.1 m.2
  else if event.providerMediaType = "episode" then
    match event.tmdbId, event.seasonNumber, event.episodeNumber with
    | some tmdbId, some seasonNumber, some episodeNumber =>
      ((episodeByIdentity db).get? (tmdbId, seasonNumber, episodeNumber)).map .episode
    | _, _, _ => none
  else none

/-- The columns of an event that name its media. -/
def PlaybackHistoryEvent.mapTo (event : PlaybackHistoryEvent) :
    PlaybackIdentity → PlaybackHistoryEvent
  | .movie id _ =>
    { event with movieId := some id, seriesId := none, seasonId := none, episodeId := none }
  | .episode i =>
    { event with
      movieId := none
      seriesId := some i.seriesId
      seasonId := some i.seasonId
      episodeId := some i.episodeId }

/-- An event that no media row matches keeps its columns. -/
def remapped (event : PlaybackHistoryEvent) : PlaybackHistoryEvent :=
  (identityOf db event).elim event event.mapTo

/-- The aggregates that an event counts for. -/
def PlaybackIdentity.targetKeys : PlaybackIdentity → List PlaybackTargetKey
  | .movie id _ => ((versionsByMovie db).listAt id).map ("movie_version", ·)
  | .episode i => [("series", i.seriesId), ("season", i.seasonId), ("episode", i.episodeId)]

/-- `target_keys`. -/
def targetKeys (event : PlaybackHistoryEvent) : List PlaybackTargetKey :=
  (identityOf db event).elim [] (·.targetKeys db)

end

/-! ## The rebuild -/

/-- The event did not happen before the row was added. -/
def watchedSince (addedAt : Option Nat) (event : PlaybackHistoryEvent) : Bool :=
  addedAt.all (· ≤ event.playedAt)

/-- A new accumulator of the aggregates. -/
def newAggregate (key : PlaybackTargetKey) : Aggregate where
  mediaType := if key.1 = "movie_version" then .movie else .series

/-- What the loop over the events fills. -/
structure Accumulators where
  aggregates : Dict PlaybackTargetKey Aggregate := ∅
  movieWatch : Dict Nat Aggregate := ∅
  seriesWatch : Dict Nat Aggregate := ∅
  seasonWatch : Dict Nat Aggregate := ∅
  episodeWatch : Dict Nat Aggregate := ∅

section

variable (casefold : String → String) (db : Tables)

/-- The watch accumulators, which leave out what was played before the row was added. -/
def Accumulators.watch (acc : Accumulators) (event : PlaybackHistoryEvent) :
    PlaybackIdentity → Accumulators
  | .movie id addedAt =>
    let feed d := Dict.feed (Aggregate.add casefold) (fun _ => { mediaType := .movie }) d id event
    { acc with
      movieWatch := if watchedSince addedAt event then feed acc.movieWatch else acc.movieWatch }
  | .episode i =>
    let feed d id :=
      Dict.feed (Aggregate.add casefold) (fun _ => { mediaType := .series }) d id event
    { acc with
      seriesWatch :=
        if watchedSince i.seriesAddedAt event then feed acc.seriesWatch i.seriesId
        else acc.seriesWatch
      seasonWatch :=
        if watchedSince i.seasonAddedAt event then feed acc.seasonWatch i.seasonId
        else acc.seasonWatch
      episodeWatch :=
        if watchedSince i.seasonAddedAt event then feed acc.episodeWatch i.episodeId
        else acc.episodeWatch }

/-- The loop body. -/
def Accumulators.addEvent (acc : Accumulators) (event : PlaybackHistoryEvent) : Accumulators :=
  match identityOf db event with
  | none => acc
  | some identity =>
    let event := event.mapTo identity
    let acc := acc.watch casefold event identity
    { acc with
      aggregates := (identity.targetKeys db).foldl
        (fun d key => d.feed (Aggregate.add casefold) newAggregate key event) acc.aggregates }

/-- The watch columns never go back. -/
def WatchTracking.take (row : WatchTracking) (a : Aggregate) : WatchTracking where
  viewCount := some (max (row.viewCount.getD 0) a.playCount)
  lastViewedAt := a.lastActivityAt.elim row.lastViewedAt (raise row.lastViewedAt)

/-- The loop over the accumulators of one table; an id without a row is passed over. -/
def writeWatch (ids : List Nat) (watch : Dict Nat Aggregate) (rows : Nat → WatchTracking)
    (id : Nat) : WatchTracking :=
  match watch.get? id with
  | some a => if id ∈ ids then (rows id).take a else rows id
  | none => rows id

/-- `rebuild_playback_history_aggregates`. -/
def rebuildPlaybackHistoryAggregates (p : PlaybackTables) : PlaybackTables :=
  let acc := p.events.foldl (Accumulators.addEvent casefold db) {}
  { events := p.events.map (remapped db)
    aggregates := acc.aggregates.entries.map fun e => e.2.row casefold e.1
    movies := writeWatch (db.movies.map Movie.id) acc.movieWatch p.movies
    series := writeWatch (db.series.map Series.id) acc.seriesWatch p.series
    seasons := writeWatch (db.seasons.map Season.id) acc.seasonWatch p.seasons
    episodes := writeWatch (db.episodes.map Episode.id) acc.episodeWatch p.episodes }

end

end MediaMasterr.Playback
