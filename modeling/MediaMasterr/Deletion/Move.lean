import MediaMasterr.Deletion.Services

/-! # Moves

`_move_specific_candidates_impl`: the files of a candidate are moved to the
configured destination, and the rows follow. Calls that cannot change the result
(Arr, the media server, webhooks) are left out: their failures are only logged. -/

namespace MediaMasterr.Deletion

open MediaMasterr.Foundations MediaMasterr.Database MediaMasterr.Filesystem

/-- A move on the disk: `move_media`, `move_directory` and `move_season_files`. -/
inductive MoveCall where
  | media (src destinationRoot : LocalPath)
  | directory (src destinationRoot : LocalPath)
  | seasonFiles (seriesPath destinationRoot : LocalPath) (episodePaths : List String)
  deriving DecidableEq, Repr

/-- What the disk answers: a successful move gives the destination path. -/
structure MoveOutcomes where
  disk : DiskView := {}
  move : MoveCall → Outcome String := fun _ => .ok ""

/-- The state of the candidate loops. -/
structure MoveRun where
  db : Tables
  moved : Nat := 0
  failed : Nat := 0

namespace Move

variable (env : Environment) (outcomes : MoveOutcomes)

/-- The candidates of the job, less the favorites. -/
def loadCandidates (db : Tables) (candidateIds : List Nat) : List ReclaimCandidate :=
  let candidates := db.candidates.filter (·.id ∈ candidateIds)
  if db.effectiveSettings.favoritesIgnoreEnabled then
    let allowed :=
      filterMovieCandidatesByFavorites env.caseTables db
        (candidates.filter (·.mediaType = .movie)) ++
        filterSeriesCandidatesByFavorites env.caseTables db
          (candidates.filter (·.mediaType = .series))
    candidates.filter (·.id ∈ allowed.map ReclaimCandidate.id)
  else candidates

/-- The destination of a media type, when one is configured. -/
def destinationRoot (settings : GeneralSettings) (mediaType : MediaType) : Option LocalPath :=
  let text := match mediaType with
    | .movie => settings.moveDestinationMovies.getD ""
    | .series => settings.moveDestinationSeries.getD ""
  if PythonText.strip text = "" then none else some (LocalPath.ofString text)

/-! ## Movies -/

/-- The version that is moved, its movie and the move. -/
def movieMove (rows : Tables) (candidate : ReclaimCandidate) :
    Option (MovieVersion × Movie × MoveCall) := do
  let versionId ← truthyId candidate.movieVersionId
  let version ← rows.findVersion versionId
  let movie ← rows.findMovie version.movieId
  let root ← destinationRoot rows.effectiveSettings candidate.mediaType
  let localPath ← resolvePath outcomes.disk (some version.service) none version.path
    rows.effectiveSettings.pathMappings
  return (version, movie, .media localPath root)

/-- The statements after the move of a version. -/
def recordMovieMove (approvedBy dest : String) (version : MovieVersion) (movie : Movie)
    (db : Tables) : Tables :=
  let db := { db with
    candidates := db.candidates.filter (·.movieVersionId ≠ some version.id)
    deleteRequests := db.deleteRequests.filter (·.movieVersionId ≠ some version.id) }
  let db := match db.findVersion version.id with
    | none => db
    | some row =>
      let db := db.shrinkMovie row.movieId row.size
      { db with movieVersions :=
        db.movieVersions.filter (·.id ≠ row.id) }.softRemoveMovieIfEmpty env.now
        row.movieId
  { db with
    history := db.history ++
      [{ approvedBy, mediaType := .movie, tmdbId := movie.tmdbId, name := movie.title,
         path := version.path, size := some version.size, action := "moved",
         destinationPath := some dest }] }

/-- One movie candidate; `rows` are the tables that the job has loaded. -/
def moveMovieStep (rows : Tables) (approvedBy : String) (run : MoveRun)
    (candidate : ReclaimCandidate) :
    MoveRun :=
  match movieMove outcomes rows candidate with
  | none => { run with failed := run.failed + 1 }
  | some (version, movie, call) =>
    match outcomes.move call with
    | .error _ => { run with failed := run.failed + 1 }
    | .ok dest =>
      { run with
        db := recordMovieMove env approvedBy dest version movie run.db
        moved := run.moved + 1 }

/-! ## Series and seasons -/

/-- What is moved of a series: all of it, or a season. -/
structure SeriesMove where
  series : Series
  ref : SeriesServiceRef
  season : Option Season := none
  call : MoveCall

/-- The season folder of a candidate and the move of the season. -/
def seasonMove (rows : Tables) (candidate : ReclaimCandidate) (ref : SeriesServiceRef)
    (seriesPath root : LocalPath) : Option (Season × MoveCall) := do
  let season ← candidate.seasonId.bind rows.findSeason
  let mappings := rows.effectiveSettings.pathMappings
  let folder ← resolvePath outcomes.disk (some ref.service) none season.path mappings <|>
    findSeasonFolder outcomes.disk env.search seriesPath season.seasonNumber
  -- a flat series keeps its other seasons: only the files of this one are moved
  if folder = seriesPath then return (season, .seasonFiles seriesPath root season.episodePaths)
  else return (season, .directory folder (root.joinParts (seriesPath.parts.getLast?.toList)))

/-- The move of a series candidate; episodes cannot be moved. -/
def seriesMove (rows : Tables) (candidate : ReclaimCandidate) : Option SeriesMove := do
  let series ← (truthyId candidate.seriesId).bind rows.findSeries
  let settings := rows.effectiveSettings
  let root ← destinationRoot settings .series
  let ref ← (rows.seriesServiceRefs.filter (·.seriesId = series.id)).find? fun ref =>
    (truthyText ref.path).isSome
  let seriesPath ← resolvePath outcomes.disk (some ref.service) none ref.path settings.pathMappings
  if candidate.episodeId.isSome then none
  else if candidate.seasonId.isSome then do
    let (season, call) ← seasonMove env outcomes rows candidate ref seriesPath root
    return { series, ref, season, call }
  else return { series, ref, call := .directory seriesPath root }

/-- The statements after the move of a season. -/
def recordSeasonMove (seriesId : Nat) (season : Season) (db : Tables) : Tables :=
  let db := { db with
    series := db.series.map fun (s : Series) =>
      if s.id = seriesId then { s with size := s.size.map (· - season.size.getD 0) } else s }
  if (db.findSeason season.id).isSome then db.deleteSeasonRow env.now seriesId season.id else db

/-- The statements after the move of a series or a season. -/
def recordSeriesMove (approvedBy dest : String) (candidate : ReclaimCandidate) (move : SeriesMove)
    (db : Tables) : Tables :=
  let db := db.deleteCandidate candidate.id
  let db := match move.season with
    | some season => recordSeasonMove env move.series.id season db
    | none => db.removeSeries env.now move.series.id
  { db with
    history := db.history ++
      [{ approvedBy, mediaType := .series, tmdbId := move.series.tmdbId
         name := match move.season with
           | some season => move.series.title ++ " S" ++ twoDigits season.seasonNumber
           | none => move.series.title
         path := move.ref.path
         size := match move.season with
           | some season => season.size
           | none => move.series.size
         action := "moved", destinationPath := some dest }] }

/-- One series candidate; `rows` are the tables that the job has loaded. -/
def moveSeriesStep (rows : Tables) (approvedBy : String) (run : MoveRun)
    (candidate : ReclaimCandidate) :
    MoveRun :=
  match seriesMove env outcomes rows candidate with
  | none => { run with failed := run.failed + 1 }
  | some move =>
    match outcomes.move move.call with
    | .error _ => { run with failed := run.failed + 1 }
    | .ok dest =>
      { run with
        db := recordSeriesMove env approvedBy dest candidate move run.db
        moved := run.moved + 1 }

end Move

/-- `_move_specific_candidates_impl`: the tables afterwards, and the moved and failed counts. -/
def moveSpecificCandidatesImpl (env : Environment) (outcomes : MoveOutcomes) (db : Tables)
    (candidateIds : List Nat) (approvedBy : String) : Tables × Nat × Nat :=
  if candidateIds.isEmpty then (db, 0, 0)
  else if !db.effectiveSettings.moveEnabled then (db, 0, candidateIds.length)
  else
    let candidates := Move.loadCandidates env db candidateIds
    let movies := (candidates.filter (·.mediaType = .movie)).foldl
      (Move.moveMovieStep env outcomes db approvedBy) { db }
    let run := (candidates.filter (·.mediaType = .series)).foldl
      (Move.moveSeriesStep env outcomes movies.db approvedBy) movies
    (run.db, run.moved, run.failed)

end MediaMasterr.Deletion
