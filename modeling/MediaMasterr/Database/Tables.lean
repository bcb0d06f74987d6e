import Mathlib.Data.List.Basic

/-! # Database tables

The rows that candidate scans, protections and the delete handlers read and
write. Columns that no modelled function reads are left out; a nullable column
is an `Option`. Primary keys count from 1, so the truth test of an id is its test
for `NULL`. Times are seconds of one clock. -/

namespace MediaMasterr.Database

inductive MediaType where
  | movie
  | series
  deriving DecidableEq, Repr

inductive Service where
  | sonarr
  | radarr
  | qbittorrent
  | jellyfin
  | emby
  | plex
  | seerr
  | tautulli
  | mdblist
  | omdb
  deriving DecidableEq, Repr

/-- The value of a member of the enumeration. -/
def Service.value : Service → String
  | .sonarr => "sonarr"
  | .radarr => "radarr"
  | .qbittorrent => "qbittorrent"
  | .jellyfin => "jellyfin"
  | .emby => "emby"
  | .plex => "plex"
  | .seerr => "seerr"
  | .tautulli => "tautulli"
  | .mdblist => "mdblist"
  | .omdb => "omdb"

inductive RequestStatus where
  | pending
  | approved
  | denied
  deriving DecidableEq, Repr

structure Movie where
  id : Nat
  tmdbId : Nat
  title : String
  size : Option Nat := none
  addedAt : Option Nat := none
  removedAt : Option Nat := none
  imdbId : Option String := none
  arrTags : Option (List String) := none
  deriving DecidableEq, Repr

structure MovieVersion where
  id : Nat
  movieId : Nat
  service : Service
  serviceItemId : String
  serviceMediaId : String
  libraryId : String := ""
  path : Option String := none
  size : Nat := 0
  addedAt : Option Nat := none
  container : Option String := none
  videoCodec : Option String := none
  videoHdr : Option Bool := none
  videoDolbyVision : Option Bool := none
  videoWidth : Option Nat := none
  videoHeight : Option Nat := none
  deriving DecidableEq, Repr

structure MovieArrRef where
  id : Nat
  movieId : Nat
  serviceConfigId : Nat
  arrMovieId : Nat
  arrMoviePath : Option String := none
  deriving DecidableEq, Repr

structure Series where
  id : Nat
  tmdbId : Nat
  title : String
  size : Option Nat := none
  addedAt : Option Nat := none
  removedAt : Option Nat := none
  imdbId : Option String := none
  tvdbId : Option String := none
  arrTags : Option (List String) := none
  deriving DecidableEq, Repr

structure SeriesServiceRef where
  id : Nat
  seriesId : Nat
  service : Service
  serviceId : String
  libraryId : String := ""
  path : Option String := none
  deriving DecidableEq, Repr

structure SeriesArrRef where
  id : Nat
  seriesId : Nat
  serviceConfigId : Nat
  arrSeriesId : Nat
  arrSeriesPath : Option String := none
  deriving DecidableEq, Repr

structure Season where
  id : Nat
  seriesId : Nat
  seasonNumber : Nat
  size : Option Nat := none
  episodeCount : Option Nat := none
  viewCount : Option Nat := none
  lastViewedAt : Option Nat := none
  airDate : Option Nat := none
  addedAt : Option Nat := none
  path : Option String := none
  episodePaths : List String := []
  jellyfinSeasonId : Option String := none
  embySeasonId : Option String := none
  plexSeasonRatingKey : Option String := none
  deriving DecidableEq, Repr

structure Episode where
  id : Nat
  seasonId : Nat
  episodeNumber : Nat
  name : Option String := none
  airDate : Option Nat := none
  size : Option Nat := none
  path : Option String := none
  viewCount : Nat := 0
  lastViewedAt : Option Nat := none
  jellyfinEpisodeId : Option String := none
  embyEpisodeId : Option String := none
  plexRatingKey : Option String := none
  deriving DecidableEq, Repr

/-- The JSON columns of a candidate are kept as their text. -/
structure ReclaimCandidate where
  id : Nat
  mediaType : MediaType
  matchedRuleIds : List Nat := []
  matchedCriteria : String := ""
  reason : String := ""
  reasonData : Option String := none
  movieId : Option Nat := none
  movieVersionId : Option Nat := none
  seriesId : Option Nat := none
  seasonId : Option Nat := none
  episodeId : Option Nat := none
  estimatedSpaceBytes : Option Nat := none
  deleteAttempts : Nat := 0
  lastDeleteAttemptAt : Option Nat := none
  lastDeleteError : Option String := none
  createdAt : Nat := 0
  deriving DecidableEq, Repr

structure ProtectedMedia where
  id : Nat
  mediaType : MediaType
  protectedByUserId : Option Nat := none
  movieId : Option Nat := none
  movieVersionId : Option Nat := none
  seriesId : Option Nat := none
  seasonId : Option Nat := none
  episodeId : Option Nat := none
  source : String := "manual"
  sourceRuleId : Option Nat := none
  reason : Option String := none
  permanent : Bool := true
  expiresAt : Option Nat := none
  createdAt : Nat := 0
  deriving DecidableEq, Repr

structure ProtectionRequest where
  id : Nat
  mediaType : MediaType
  requestedByUserId : Nat := 0
  reason : Option String := none
  movieId : Option Nat := none
  movieVersionId : Option Nat := none
  seriesId : Option Nat := none
  seasonId : Option Nat := none
  episodeId : Option Nat := none
  candidateId : Option Nat := none
  status : RequestStatus := .pending
  requestedExpiresAt : Option Nat := none
  targetScope : Option String := none
  seasonNumberSnapshot : Option Nat := none
  episodeNumberSnapshot : Option Nat := none
  episodeNameSnapshot : Option String := none
  reviewedByUserId : Option Nat := none
  reviewedAt : Option Nat := none
  adminNotes : Option String := none
  deriving DecidableEq, Repr

structure DeleteRequest where
  id : Nat
  mediaType : MediaType
  requestedByUserId : Nat := 0
  reason : Option String := none
  movieId : Option Nat := none
  movieVersionId : Option Nat := none
  seriesId : Option Nat := none
  seasonId : Option Nat := none
  episodeId : Option Nat := none
  status : RequestStatus := .pending
  targetScope : Option String := none
  seasonNumberSnapshot : Option Nat := none
  episodeNumberSnapshot : Option Nat := none
  episodeNameSnapshot : Option String := none
  reviewedByUserId : Option Nat := none
  reviewedAt : Option Nat := none
  adminNotes : Option String := none
  executedAt : Option Nat := none
  executionError : Option String := none
  createdAt : Nat := 0
  deriving DecidableEq, Repr

structure ReclaimHistory where
  approvedBy : String
  mediaType : MediaType
  tmdbId : Nat
  name : String
  path : Option String := none
  size : Option Nat := none
  action : String := "deleted"
  destinationPath : Option String := none
  deriving DecidableEq, Repr

/-- A JSON value of which only integers are used. -/
inductive JsonNumber where
  | int (n : Int)
  | other
  deriving DecidableEq, Repr

/-- The entries of a rule's action that are read: `outcome`, `arr_action` and
`auto_delete_delay_days`. -/
structure ReclaimRule where
  id : Nat
  mediaType : MediaType
  enabled : Bool := true
  targetScope : Option String := none
  outcome : Option String := none
  arrAction : Option String := none
  autoDeleteDelayDays : Option JsonNumber := none
  deriving DecidableEq, Repr

structure MediaFavorite where
  mediaType : MediaType
  tmdbId : Nat
  usernameNormalized : String
  deriving DecidableEq, Repr

/-- A path mapping; a mapping of any service has no `serviceType`. -/
structure PathMapping where
  sourcePrefix : String
  localPrefix : String
  serviceType : Option Service := none
  serviceConfigId : Option Nat := none
  deriving DecidableEq, Repr

structure GeneralSettings where
  pathMappings : List PathMapping := []
  moveEnabled : Bool := false
  moveDestinationMovies : Option String := none
  moveDestinationSeries : Option String := none
  mediaServerFallbackEnabled : Bool := true
  defaultArrDeleteBehavior : String := "unmonitor"
  addArrImportExclusionsOnDelete : Bool := true
  autoDeleteEnabled : Bool := false
  autoDeleteMovieDelayDays : Int := 14
  autoDeleteSeriesDelayDays : Int := 7
  favoritesIgnoreEnabled : Bool := false
  favoritesProtectAllUsers : Bool := false
  favoritesUsernames : List String := []
  deriving DecidableEq, Repr

structure Tables where
  movies : List Movie := []
  movieVersions : List MovieVersion := []
  movieArrRefs : List MovieArrRef := []
  series : List Series := []
  seriesServiceRefs : List SeriesServiceRef := []
  seriesArrRefs : List SeriesArrRef := []
  seasons : List Season := []
  episodes : List Episode := []
  candidates : List ReclaimCandidate := []
  protectedMedia : List ProtectedMedia := []
  protectionRequests : List ProtectionRequest := []
  deleteRequests : List DeleteRequest := []
  history : List ReclaimHistory := []
  rules : List ReclaimRule := []
  favorites : List MediaFavorite := []
  settings : Option GeneralSettings := none

/-! ## Targets -/

/-- The columns by which candidates, protections and requests name their media. -/
structure MediaTarget where
  mediaType : MediaType
  movieId : Option Nat := none
  movieVersionId : Option Nat := none
  seriesId : Option Nat := none
  seasonId : Option Nat := none
  episodeId : Option Nat := none
  deriving DecidableEq, Repr

def ReclaimCandidate.target (c : ReclaimCandidate) : MediaTarget :=
  ⟨c.mediaType, c.movieId, c.movieVersionId, c.seriesId, c.seasonId, c.episodeId⟩

def ProtectedMedia.target (p : ProtectedMedia) : MediaTarget :=
  ⟨p.mediaType, p.movieId, p.movieVersionId, p.seriesId, p.seasonId, p.episodeId⟩

def ProtectionRequest.target (r : ProtectionRequest) : MediaTarget :=
  ⟨r.mediaType, r.movieId, r.movieVersionId, r.seriesId, r.seasonId, r.episodeId⟩

def DeleteRequest.target (r : DeleteRequest) : MediaTarget :=
  ⟨r.mediaType, r.movieId, r.movieVersionId, r.seriesId, r.seasonId, r.episodeId⟩

/-- The protection counts: it is permanent, or has no expiry, or one in the future. -/
def ProtectedMedia.isActive (p : ProtectedMedia) (now : Nat) : Bool :=
  p.permanent || p.expiresAt.all (now < ·)

/-! ## Scope columns -/

section Scope

variable (seasonId episodeId : Option Nat)

/-- `_is_series_scope`. -/
def isSeriesScope : Bool := seasonId.isNone && episodeId.isNone

/-- `_is_season_scope`. -/
def isSeasonScope : Bool := seasonId.isSome && episodeId.isNone

/-- `_is_episode_scope`. -/
def isEpisodeScope : Bool := episodeId.isSome

end Scope

namespace Tables

variable (db : Tables)

def findMovie (id : Nat) : Option Movie := db.movies.find? (·.id == id)

def findVersion (id : Nat) : Option MovieVersion := db.movieVersions.find? (·.id == id)

def findSeries (id : Nat) : Option Series := db.series.find? (·.id == id)

def findSeason (id : Nat) : Option Season := db.seasons.find? (·.id == id)

def findEpisode (id : Nat) : Option Episode := db.episodes.find? (·.id == id)

def findRule (id : Nat) : Option ReclaimRule := db.rules.find? (·.id == id)

/-- The settings row, or the defaults that every reader uses without one. -/
def effectiveSettings : GeneralSettings := db.settings.getD {}

end Tables

/-! ## Statements that delete handlers share -/

namespace Tables

variable (db : Tables)

/-- `db.delete` of the candidate with this primary key, when it is still there. -/
def deleteCandidate (id : Nat) : Tables :=
  { db with candidates := db.candidates.filter (·.id ≠ id) }

/-- `_mark_candidate_delete_failure`, without the shortening of the text. -/
def markCandidateDeleteFailure (now id : Nat) (error : String) : Tables :=
  { db with
    candidates := db.candidates.map fun c =>
      if c.id = id then
        { c with
          deleteAttempts := c.deleteAttempts + 1
          lastDeleteAttemptAt := some now
          lastDeleteError := some (if error = "" then "Deletion failed" else error) }
      else c }

/-- `_mark_candidate_delete_failures`. -/
def markCandidateDeleteFailures (now : Nat) (ids : List Nat) (error : String) : Tables :=
  ids.eraseDups.foldl (fun db id => db.markCandidateDeleteFailure now id error) db

/-- `_mark_unexplained_delete_failures`: only candidates without an error are marked. -/
def markUnexplainedDeleteFailures (now : Nat) (ids : List Nat) (error : String) : Tables :=
  let remaining := (db.candidates.filter fun c => c.id ∈ ids ∧ c.lastDeleteError = none).map (·.id)
  db.markCandidateDeleteFailures now remaining error

/-- Set `removed_at` and clear `added_at` of a series. -/
def removeSeries (now seriesId : Nat) : Tables :=
  { db with
    series := db.series.map fun s =>
      if s.id = seriesId then { s with removedAt := some now, addedAt := none } else s }

/-- Set `removed_at` and clear `added_at` of a movie. -/
def removeMovie (now movieId : Nat) : Tables :=
  { db with
    movies := db.movies.map fun m =>
      if m.id = movieId then { m with removedAt := some now, addedAt := none } else m }

/-- Take the size of deleted files from a movie's size, not below 0. -/
def shrinkMovie (movieId size : Nat) : Tables :=
  { db with
    movies := db.movies.map fun m =>
      if m.id = movieId then { m with size := m.size.map (· - size) } else m }

/-- `_soft_remove_series_if_empty`. -/
def softRemoveSeriesIfEmpty (now seriesId : Nat) : Tables :=
  if db.seasons.any (·.seriesId == seriesId) then db else db.removeSeries now seriesId

/-- `_soft_remove_movie_if_empty`. -/
def softRemoveMovieIfEmpty (now movieId : Nat) : Tables :=
  if db.movieVersions.any (·.movieId == movieId) then db else db.removeMovie now movieId

/-- Delete the pending requests that refer to a row and clear the reference of the others. -/
def settleRequests {α : Type} (status : α → RequestStatus) (refers : α → Bool) (clear : α → α)
    (requests : List α) : List α :=
  (requests.filter fun r => !(refers r && status r == .pending)).map fun r =>
    if refers r then clear r else r

/-- The statements that delete a season row with the rows that refer to it. -/
def deleteSeasonRow (now seriesId seasonId : Nat) : Tables :=
  let db := { db with
    candidates := db.candidates.filter (·.seasonId ≠ some seasonId)
    protectionRequests := settleRequests ProtectionRequest.status
      (fun r => r.seasonId == some seasonId)
      (fun r => { r with seasonId := none, episodeId := none }) db.protectionRequests
    deleteRequests := settleRequests DeleteRequest.status
      (fun r => r.seasonId == some seasonId)
      (fun r => { r with seasonId := none, episodeId := none }) db.deleteRequests
    protectedMedia := db.protectedMedia.filter (·.seasonId ≠ some seasonId)
    seasons := db.seasons.filter (·.id ≠ seasonId) }
  db.softRemoveSeriesIfEmpty now seriesId

/-- The statements that delete an episode row with the rows that refer to it. -/
def deleteEpisodeRow (episodeId : Nat) : Tables :=
  { db with
    protectedMedia := db.protectedMedia.filter (·.episodeId ≠ some episodeId)
    protectionRequests := settleRequests ProtectionRequest.status
      (fun r => r.episodeId == some episodeId) (fun r => { r with episodeId := none })
      db.protectionRequests
    deleteRequests := settleRequests DeleteRequest.status
      (fun r => r.episodeId == some episodeId) (fun r => { r with episodeId := none })
      db.deleteRequests
    episodes := db.episodes.filter (·.id ≠ episodeId) }

end Tables

end MediaMasterr.Database
