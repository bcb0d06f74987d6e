import Mathlib.Data.Int.ConditionallyCompleteOrder
import Mathlib.Order.Lattice.Nat
import Mathlib.Order.WithBot
import MediaMasterr.Foundations.Joins
import MediaMasterr.Foundations.StaleMerges
import MediaMasterr.Playback.Coverage

/-! # Supplemental play counts

`sync_tautulli_playback_data` and `_sync_playback_reporting_for_service`: play counts of
Tautulli and of the Playback Reporting plugin are merged into the view counts of movies,
series, seasons and episodes. Each of the four levels has a loop over the rows that link its
media to items of the provider, and all but episodes a second one over supplemental matches.
A loop compares with the values that its select has read and writes one row at a time. -/

namespace MediaMasterr.Playback

open MediaMasterr.Database MediaMasterr.Foundations MediaMasterr.Foundations.StaleMerges

inductive Level where
  | movies
  | series
  | seasons
  | episodes
  deriving DecidableEq, Repr

/-- `view_count` and `last_viewed_at` of a row; `⊥` is NULL. -/
abbrev Plays := WithBot Nat × WithBot Int

/-- The two columns of the four tables, by primary key. -/
abbrev PlayColumns := Level → Nat → Plays

/-! ## Links -/

/-- The columns of a season or episode by which the media servers know it. -/
structure ItemIds where
  id : Nat
  plex : Option String := none
  jellyfin : Option String := none
  emby : Option String := none
  deriving DecidableEq, Repr

structure MappedItem extends SupplementalMediaMatch where
  sourceItemId : String
  mediaType : MediaType
  deriving DecidableEq, Repr

structure SupplementTables where
  movies : List Movie := []
  movieVersions : List MovieVersion := []
  series : List Series := []
  seriesServiceRefs : List SeriesServiceRef := []
  seasons : List ItemIds := []
  episodes : List ItemIds := []
  supplementalMatches : List MappedItem := []

/-- The rows of the two selects of a level: an item of the provider and the row it is linked to.
-/
structure LinkRows where
  direct : List (String × Nat) := []
  mapped : List (String × Nat) := []
  deriving DecidableEq

/-- The column of a service; Emby's unless it is another's. -/
def ItemIds.column (service : Service) (ids : ItemIds) : Option String :=
  match service with
  | .plex => ids.plex
  | .jellyfin => ids.jellyfin
  | _ => ids.emby

variable (db : SupplementTables) (service : Service)

/-- The first select of a level. Removed movies and series are left out. -/
def directRows : Level → List (String × Nat)
  | .movies =>
    ((joinOn MovieVersion.movieId Movie.id db.movieVersions db.movies).filter fun row =>
      row.1.service == service && row.2.removedAt.isNone).map fun row =>
        (row.1.serviceItemId, row.2.id)
  | .series =>
    ((joinOn SeriesServiceRef.seriesId Series.id db.seriesServiceRefs db.series).filter fun row =>
      row.1.service == service && row.2.removedAt.isNone).map fun row =>
        (row.1.serviceId, row.2.id)
  | .seasons => db.seasons.filterMap fun ids => (ids.column service).map (·, ids.id)
  | .episodes => db.episodes.filterMap fun ids => (ids.column service).map (·, ids.id)

/-- The matches of a service with media of a type. -/
def matchesOf (mediaType : MediaType) : List MappedItem :=
  db.supplementalMatches.filter fun m => m.sourceService == service && m.mediaType == mediaType

/-- The select of supplemental matches of a level; episodes have none. -/
def supplementalRows : Level → List (String × Nat)
  | .movies =>
    (matchesOf db service .movie).flatMap fun m =>
      (db.movies.filter fun movie => m.movieId == some movie.id && movie.removedAt.isNone).map
        fun movie => (m.sourceItemId, movie.id)
  | .series =>
    (matchesOf db service .series).flatMap fun m =>
      (db.series.filter fun s =>
        m.seriesId == some s.id && m.seasonId.isNone && s.removedAt.isNone).map
        fun s => (m.sourceItemId, s.id)
  | .seasons =>
    (matchesOf db service .series).flatMap fun m =>
      (db.seasons.filter fun s => m.seasonId == some s.id).map fun s => (m.sourceItemId, s.id)
  | .episodes => []

/-- The rows of all selects of a sync. -/
def selectLinks (useMappedMatches : Bool) (level : Level) : LinkRows where
  direct := directRows db service level
  mapped := if useMappedMatches then supplementalRows db service level else []

/-- The same rows in another order; no select asks for one. -/
def LinkRows.Reorders (links links' : LinkRows) : Prop :=
  links.direct.Perm links'.direct ∧ links.mapped.Perm links'.mapped

/-! ## Tautulli -/

structure Datetime where
  wallClock : Int
  tzinfo : Option Int := none
  deriving DecidableEq, Repr

/-- `_merge_last_viewed`; a timezone is cut off. -/
def mergeLastViewed (current : WithBot Int) (incoming : Option Datetime) : WithBot Int :=
  match incoming with
  | none => current
  | some incoming => current.recBotCoe (incoming.wallClock : WithBot Int)
      fun current => ((max current incoming.wallClock : Int) : WithBot Int)

abbrev TautulliCounts := Dict Int (Nat × Option Datetime)

/-- What the sync finds, and the interpreter's `int` of a text. -/
structure TautulliWorld where
  intOfStr : String → Option Int
  clientInitialized : Bool := true
  mainServer : Option Service
  enabledTautulliConfigs : Nat := 1
  hasEnabledPlex : Bool := true
  playCounts : Option (Level → TautulliCounts)

namespace TautulliWorld

variable (world : TautulliWorld)

/-- The play counts, when the sync gets as far as to them. -/
def counts : Option (Level → TautulliCounts) :=
  if world.clientInitialized && world.mainServer.isSome && world.enabledTautulliConfigs == 1 &&
      world.hasEnabledPlex then world.playCounts
  else none

def useMappedMatches : Bool := world.mainServer != some .plex

/-- `_play_entry`. -/
def playEntry (playCounts : TautulliCounts) (sourceItemId : String) :
    Option (Nat × Option Datetime) :=
  (world.intOfStr sourceItemId).bind playCounts.get?

/-- The body of a loop. -/
def mergeLink (playCounts : TautulliCounts) (read written : Nat → Plays) (link : String × Nat) :
    Nat → Plays :=
  match world.playEntry playCounts link.1 with
  | none => written
  | some entry =>
    if (((max ((read link.2).1.unbotD 0) entry.1 : Nat) : WithBot Nat) ≠ (read link.2).1 ∨
        mergeLastViewed (read link.2).2 entry.2 ≠ (read link.2).2) then
      Function.update written link.2
        (((max ((read link.2).1.unbotD 0) entry.1 : Nat) : WithBot Nat),
          mergeLastViewed (read link.2).2 entry.2)
    else written

def mergeLinks (playCounts : TautulliCounts) (links : List (String × Nat)) (read : Nat → Plays) :
    Nat → Plays :=
  links.foldl (world.mergeLink playCounts read) read

end TautulliWorld

/-- The sync, with the rows that its selects return. -/
def syncTautulliPlaybackData (world : TautulliWorld) (links : Level → LinkRows)
    (columns : PlayColumns) : PlayColumns :=
  match world.counts with
  | none => columns
  | some counts => fun level =>
    if (counts level).entries.isEmpty then columns level
    else
      world.mergeLinks (counts level) (links level).mapped
        (world.mergeLinks (counts level) (links level).direct (columns level))

/-! ## Playback Reporting -/

/-- What the plugin and the server answer. -/
structure ReportingCounts where
  movieStats : Dict String Nat := ∅
  episodeStats : Dict String Nat := ∅
  episodeToParent : Dict String (Option String × Option String) := ∅

/-- `counts[key] = counts.get(key, 0) + n`, for a key that is there and not empty. -/
def addCount (counts : Dict String Nat) (key : Option String) (n : Nat) : Dict String Nat :=
  match key with
  | none => counts
  | some key => if key = "" then counts else counts.set key ((counts.get? key).getD 0 + n)

/-- `series_play_counts` and `season_play_counts`. -/
def parentCounts (answers : ReportingCounts) : Dict String Nat × Dict String Nat :=
  answers.episodeStats.entries.foldl (fun counts episode =>
    (addCount counts.1 ((answers.episodeToParent.get? episode.1).bind Prod.fst) episode.2,
      addCount counts.2 ((answers.episodeToParent.get? episode.1).bind Prod.snd) episode.2))
    (∅, ∅)

/-- The counts of the items of a level. -/
def reportedCounts (answers : ReportingCounts) : Level → Dict String Nat
  | .movies => answers.movieStats
  | .series => (parentCounts answers).1
  | .seasons => (parentCounts answers).2
  | .episodes => answers.episodeStats

/-- There are episodes, and the server knows about some of them. -/
def resolvesEpisodes (answers : ReportingCounts) : Bool :=
  !answers.episodeStats.entries.isEmpty && !answers.episodeToParent.entries.isEmpty

/-- Whether the sync gets to a level: the episodes come last, after two returns. -/
def reachesLevel (answers : ReportingCounts) : Level → Bool
  | .movies => !answers.movieStats.entries.isEmpty
  | .series => resolvesEpisodes answers && !(parentCounts answers).1.entries.isEmpty
  | .seasons => resolvesEpisodes answers && !(parentCounts answers).2.entries.isEmpty
  | .episodes => resolvesEpisodes answers &&
      !((parentCounts answers).1.entries.isEmpty && (parentCounts answers).2.entries.isEmpty)

/-- The body of a loop. -/
def reportLink (counts : Dict String Nat) (read written : Nat → Plays) (link : String × Nat) :
    Nat → Plays :=
  match counts.get? link.1 with
  | none => written
  | some pluginCount =>
    if pluginCount ≠ 0 ∧ (read link.2).1.unbotD 0 < pluginCount then
      Function.update written link.2 ((pluginCount : WithBot Nat), (written link.2).2)
    else written

def reportLinks (counts : Dict String Nat) (links : List (String × Nat)) (read : Nat → Plays) :
    Nat → Plays :=
  links.foldl (reportLink counts read) read

/-- The sync of a service, with the rows that its selects return; there are no answers without a
client or the plugin. -/
def syncPlaybackReportingForService (answers : Option ReportingCounts) (links : Level → LinkRows)
    (columns : PlayColumns) : PlayColumns :=
  match answers with
  | none => columns
  | some answers => fun level =>
    if reachesLevel answers level then
      reportLinks (reportedCounts answers level) (links level).mapped
        (reportLinks (reportedCounts answers level) (links level).direct (columns level))
    else columns level

end MediaMasterr.Playback
