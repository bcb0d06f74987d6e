import Mathlib.Algebra.Ring.Nat
import MediaMasterr.Deletion.Batches

/-! # Movie deletion

`_delete_movie_candidates`: every candidate goes to the Radarr instances that hold
its files, in one batch an instance. A version candidate that no instance can
delete alone goes to the media server; so does a movie that no instance handled. -/

namespace MediaMasterr.Deletion

open MediaMasterr.Foundations MediaMasterr.Database MediaMasterr.Filesystem

/-- The outcomes of a run. Those of version deletions are by candidate, those of the batches by
configuration (and by Radarr id and version for the moves), those of the clean-up after an
unmonitoring by version, those of the fallback by candidate and version. A sibling clean-up
answers with the number of files that it removed, whether or not it raised. -/
structure MovieOutcomes where
  deleteMovieVersion : Nat → Outcome Unit := fun _ => .ok ()
  versionDisk : Nat → DiskView := fun _ => {}
  versionCleanup : Nat → Nat := fun _ => 0
  removeEmptied : Nat → Nat → Outcome Unit := fun _ _ => .ok ()
  moveDisk : Nat → Nat → Nat → DiskView := fun _ _ _ => {}
  moveMedia : Nat → Nat → Nat → Outcome Unit := fun _ _ _ => .ok ()
  deleteMovies : Nat → Outcome Unit := fun _ => .ok ()
  unmonitorMovies : Nat → Outcome Unit := fun _ => .ok ()
  unmonitorDisk : Nat → DiskView := fun _ => {}
  unmonitorCleanup : Nat → Nat := fun _ => 0
  deleteItem : Nat → Outcome Unit := fun _ => .ok ()
  fallbackDeleteItem : Nat → Nat → Outcome Unit := fun _ _ => .ok ()
  fallbackDisk : Nat → Nat → DiskView := fun _ _ => {}
  fallbackCleanup : Nat → Nat → Nat := fun _ _ => 0
  rescanDeleted : Nat → Bool := fun _ => true
  rescanUnmonitored : Nat → Bool := fun _ => true

/-- An entry of a Radarr batch. -/
structure MovieJob where
  candidates : List ReclaimCandidate
  movieId : Nat
  radarrId : Nat
  title : String
  tmdbId : Nat
  targetVersionIds : List (Option Nat)
  deriving DecidableEq

namespace MovieJob

variable (job : MovieJob)

/-- `all_candidate_ids`. -/
def allCandidateIds : List Nat := job.candidates.map ReclaimCandidate.id

/-- `is_whole_movie`. -/
def isWholeMovie : Bool := job.targetVersionIds.isEmpty || none ∈ job.targetVersionIds

/-- `concrete_delete_target_version_ids` and `concrete_unmonitor_target_version_ids`. -/
def concreteVersionIds : List Nat := job.targetVersionIds.filterMap id

end MovieJob

namespace Movie

variable (env : Environment) (outcomes : MovieOutcomes) (db : Tables)

/-- The candidates that the query selects, less the favorites. -/
def loadCandidates (restrictToIds : List Nat) : List ReclaimCandidate :=
  let joined := db.candidates.filter fun c =>
    c.mediaType = .movie ∧ ((c.movieId.bind db.findMovie).any fun movie => movie.removedAt.isNone)
  filterMovieCandidatesByFavorites env.caseTables db (restrictTo restrictToIds joined)

def versionsOf (movieId : Nat) : List MovieVersion :=
  db.movieVersions.filter (·.movieId = movieId)

def movieRefs (movieId : Nat) : List MovieArrRef :=
  db.movieArrRefs.filter (·.movieId = movieId)

/-- `movie_data[movie_id]`, without its refs. -/
def movieData (movieId : Nat) : Option Movie :=
  (db.findMovie movieId).filter (·.removedAt.isNone)

/-! ## Routing -/

/-- The refs whose configuration is in `radarr_clients`. -/
def activeRefs (refs : List MovieArrRef) : List MovieArrRef :=
  refs.filter fun ref => (env.services.radarrClientsOrMain.lookup ref.serviceConfigId).isSome

/-- `_path_matches_arr_folder` for a version and a Radarr folder. -/
def folderContains (path : Option String) (service : Option Service) (folder : Option String)
    (config : Nat) : Bool :=
  pathMatchesArrFolder path folder db.effectiveSettings.pathMappings service (some .radarr)
    (some config)

/-- `_match_version_to_arr`. -/
def matchVersionToArr (path : Option String) (service : Option Service)
    (refs : List MovieArrRef) : List (Nat × Nat) :=
  let active := activeRefs env refs
  let matched := active.filter fun ref =>
    folderContains db path service ref.arrMoviePath ref.serviceConfigId
  if matched.isEmpty then
    match active with
    | [ref] => [(ref.serviceConfigId, ref.arrMovieId)]
    | _ => []
  else (matched.map fun ref => (ref.serviceConfigId, ref.arrMovieId)).eraseDups

/-- `refs_by_pair.get(pair)`: the path of the last ref with this pair. -/
def folderOfPair (refs : List MovieArrRef) (pair : Nat × Nat) : Option String :=
  (refs.reverse.find? fun ref => (ref.serviceConfigId, ref.arrMovieId) = pair).bind
    (·.arrMoviePath)

/-- `_candidate_covers_full_radarr_entry`. -/
def candidateCoversFullRadarrEntry (movieId : Nat) (selectedVersionIds : List Nat)
    (matchedRefs : List (Nat × Nat)) (refs : List MovieArrRef) : Bool :=
  let versions := versionsOf db movieId
  let onlyRefAllSelected := refs.length == 1 &&
    selectedVersionIds.all (fun id => versions.any (·.id == id)) &&
    versions.all (fun v => v.id ∈ selectedVersionIds)
  if selectedVersionIds.isEmpty || matchedRefs.isEmpty || versions.isEmpty then false
  else matchedRefs.all fun pair =>
    match truthyText (folderOfPair refs pair) with
    | some folder =>
      let refVersions := versions.filter fun v =>
        folderContains db v.path (some v.service) (some folder) pair.1
      if refVersions.isEmpty then onlyRefAllSelected
      else refVersions.all (·.id ∈ selectedVersionIds)
    -- without a folder only a sole ref with every version selected is provably safe
    | none => onlyRefAllSelected

section Candidates

variable (candidates : List ReclaimCandidate)

def versionCandidates : List ReclaimCandidate := candidates.filter (·.movieVersionId.isSome)

def wholeMovieCandidates : List ReclaimCandidate := candidates.filter (·.movieVersionId.isNone)

/-- `movie_arr_action[movie_id]`. -/
def arrAction (movieId : Nat) : Option ArrDeleteAction :=
  (candidates.filter (·.movieId = some movieId)).foldl
    (fun current c => some (mergeArrAction current (getArrAction c db.rules
      (coerceArrDeleteFallback db.effectiveSettings.defaultArrDeleteBehavior)))) none

/-- `candidate_version_ids_by_movie[movie_id]`. -/
def candidateVersionIds (movieId : Nat) : List (Option Nat) :=
  ((candidates.filter (·.movieId = some movieId)).map (·.movieVersionId)).eraseDups

/-- The Radarr entries that a version candidate is routed to; `none` sends it to the media
server. -/
def versionRoute (candidate : ReclaimCandidate) : Option (List (Nat × Nat)) :=
  match candidate.movieId, candidate.movieVersionId with
  | some movieId, some versionId =>
    let refs := movieRefs db movieId
    if (movieData db movieId).isNone || refs.isEmpty then none
    else
      let version := db.findVersion versionId
      let matched := matchVersionToArr env db (version.bind (·.path)) (version.map (·.service)) refs
      let action := (arrAction db candidates movieId).getD .delete
      -- Radarr unmonitors the whole movie; the files of this version alone are removed later
      if matched ≠ [] ∧ action = .unmonitor then some matched
      else if matched ≠ [] ∧ action = .delete ∧
          candidateCoversFullRadarrEntry db movieId
            ((candidateVersionIds candidates movieId).filterMap id) matched refs then some matched
      else none
  | _, _ => none

/-- `unmatched_version_candidates`. -/
def unmatchedVersionCandidates : List ReclaimCandidate :=
  (versionCandidates candidates).filter fun c => (versionRoute env db candidates c).isNone

/-- The candidates of a movie that Radarr is asked to handle. -/
def routedCandidates (movieId : Nat) : List ReclaimCandidate :=
  ((versionCandidates candidates).filter fun c =>
      c.movieId = some movieId ∧ (versionRoute env db candidates c).isSome) ++
    (wholeMovieCandidates candidates).filter fun c =>
      c.movieId = some movieId ∧ (movieData db movieId).isSome

/-- `movie_arr_routing[movie_id]`: a version goes to the entries that hold it, a whole movie to
every connected instance that knows it. -/
def routing (movieId : Nat) : List (Nat × Nat) :=
  ((routedCandidates env db candidates movieId).flatMap fun c =>
    if c.movieVersionId.isSome then (versionRoute env db candidates c).getD []
    else (activeRefs env (movieRefs db movieId)).map fun ref =>
      (ref.serviceConfigId, ref.arrMovieId)).eraseDups

/-- The movies of the candidates: those of version candidates come first. -/
def movieIds : List Nat :=
  ((versionCandidates candidates ++ wholeMovieCandidates candidates).filterMap
    (·.movieId)).eraseDups

/-- The entries of one movie, with the configuration of each. -/
def movieJobs (movieId : Nat) : List (Nat × MovieJob) :=
  match movieData db movieId with
  | none => []
  | some movie =>
    (routing env db candidates movieId).map fun (config, radarrId) =>
      (config, ⟨routedCandidates env db candidates movieId, movieId, radarrId, movie.title,
        movie.tmdbId, candidateVersionIds candidates movieId⟩)

/-- The entries of the delete batches, or of the unmonitor batches. -/
def jobs (unmonitor : Bool) : List (Nat × MovieJob) :=
  ((movieIds candidates).filter fun id =>
    (arrAction db candidates id = some .unmonitor) = (unmonitor = true)).flatMap
      (movieJobs env db candidates)

def configs (unmonitor : Bool) : List Nat :=
  ((jobs env db candidates unmonitor).map Prod.fst).eraseDups

/-- The batch of one configuration. -/
def batch (unmonitor : Bool) (config : Nat) : List MovieJob :=
  ((jobs env db candidates unmonitor).filter (·.1 = config)).map Prod.snd

end Candidates

/-! ## Versions on the media server -/

/-- The error texts of `_delete_movie_version_candidates`. -/
def partialDeleteError : String :=
  "Partial movie-version delete requires media server fallback, " ++
    "or a Radarr delete that covers the full Radarr movie entry"

/-- The version that the media server is asked to delete for a candidate, or the reason why it
is not asked. -/
def versionTarget (service : Service) (candidate : ReclaimCandidate) :
    Except String (MovieVersion × Movie) :=
  match candidate.movieVersionId.bind db.findVersion with
  | none => .error "Movie version missing from database"
  | some version =>
    match db.findMovie version.movieId with
    | none => .error "Movie missing for candidate version"
    | some movie =>
      let sameItemVersions := (versionsOf db movie.id).filter fun v =>
        v.service = service ∧ v.serviceItemId = version.serviceItemId
      if version.service ≠ service then
        .error ("Version belongs to " ++ version.service.value ++ ", main media server is " ++
          service.value)
      else if (service = .jellyfin ∨ service = .emby) ∧ sameItemVersions.length ≠ 1 then
        .error ("Exact version delete unsupported: " ++
          "multiple versions share one Emby/Jellyfin item id")
      else .ok (version, movie)

/-- The file whose siblings are removed with a version. -/
def localPath (disk : DiskView) (service : Option Service) (version : MovieVersion) :
    Option LocalPath :=
  resolvePath disk service none version.path db.effectiveSettings.pathMappings

/-- The call of `sibling_cleanup`, when the path of the version resolves. -/
def cleanupEvents (candidates : List ReclaimCandidate) (disk : DiskView)
    (service : Option Service) (removed : Nat) (version : MovieVersion) : List Event :=
  match localPath db disk service version with
  | none => []
  | some path => [⟨candidates, .siblingCleanup path, 0 < removed⟩]

/-- The statements that remove a version row with the file. -/
def deleteVersionRow (now versionId : Nat) (db : Tables) : Tables :=
  match db.findVersion versionId with
  | none => db
  | some version =>
    let db := db.shrinkMovie version.movieId version.size
    { db with movieVersions := db.movieVersions.filter (·.id ≠ versionId) }.softRemoveMovieIfEmpty
      now version.movieId

/-- The calls that remove an emptied movie from Radarr. -/
def removeEmptiedEvents (candidate : ReclaimCandidate) (movieId : Nat) : List Event :=
  (movieRefs db movieId).filterMap fun ref =>
    (env.services.radarrClientsOrMain.lookup ref.serviceConfigId).map fun client =>
      ⟨[candidate], .radarr client ref.serviceConfigId
        (.deleteMovies [ref.arrMovieId] false
          db.effectiveSettings.addArrImportExclusionsOnDelete),
        (outcomes.removeEmptied candidate.id ref.id).succeeded⟩

/-- One candidate of `_delete_movie_version_candidates`; `rows` are the tables that it
loads. -/
def deleteVersionStep (rows : Tables) (approvedBy : String) (service : Service) (run : Run)
    (candidate : ReclaimCandidate) : Run :=
  let fail := fun error =>
    { run with db := run.db.markCandidateDeleteFailure env.now candidate.id error }
  match versionTarget rows service candidate with
  | .error error => fail error
  | .ok (version, movie) =>
    let call := Call.deleteMovieVersion version.serviceItemId version.serviceMediaId
    match outcomes.deleteMovieVersion candidate.id with
    | .error e =>
      { fail ("Version delete failed via " ++ service.value ++ ": " ++ e) with
        events := run.events ++ [⟨[candidate], call, false⟩] }
    | .ok _ =>
      let db := deleteVersionRow env.now version.id (run.db.deleteCandidate candidate.id)
      let emptied := (run.db.findVersion version.id).isSome ∧
        ((db.findMovie version.movieId).any fun movie => movie.removedAt.isSome) ∧
        getArrAction candidate rows.rules
          (coerceArrDeleteFallback rows.effectiveSettings.defaultArrDeleteBehavior) = .removeIfEmpty
      { run with
        db := { db with
          history := db.history ++
            [{ approvedBy, mediaType := .movie, tmdbId := movie.tmdbId, name := movie.title,
               path := version.path, size := some version.size }] }
        events := run.events ++ ⟨[candidate], call, true⟩ ::
          (cleanupEvents rows [candidate] (outcomes.versionDisk candidate.id) (some service)
            (outcomes.versionCleanup candidate.id) version ++
            if emptied then removeEmptiedEvents env outcomes rows candidate version.movieId
            else [])
        deletedCount := run.deletedCount + 1 }

/-- `_delete_movie_version_candidates`. -/
def deleteMovieVersionCandidates (approvedBy : String) (candidates : List ReclaimCandidate) : Run :=
  let failAll := fun error =>
    candidates.foldl (fun db c => db.markCandidateDeleteFailure env.now c.id error) db
  if !db.effectiveSettings.mediaServerFallbackEnabled then { db := failAll partialDeleteError }
  else
    match env.services.mainMediaServerType with
    | none => { db := failAll "No main media server configured" }
    | some service =>
      candidates.foldl (deleteVersionStep env outcomes db approvedBy service) { db }

/-! ## The delete batches -/

/-- `move_enabled and move_destination_movies and move_destination_movies.strip()`. -/
def moveDestination (settings : GeneralSettings) : Option String :=
  if settings.moveEnabled then
    settings.moveDestinationMovies.filter fun destination => PythonText.strip destination ≠ ""
  else none

/-- The moves before one entry of a batch is deleted. -/
def moveEvents (destination : String) (config : Nat) (job : MovieJob) : List Event :=
  (versionsOf db job.movieId).filterMap fun version =>
    if truthyText version.path = none then none
    else
      (localPath db (outcomes.moveDisk config job.radarrId version.id) (some version.service)
        version).map fun path =>
          ⟨job.candidates, .moveMedia path destination,
            (outcomes.moveMedia config job.radarrId version.id).succeeded⟩

/-- The calls of one delete batch. -/
def deleteBatchEvents (client : ClientId) (config : Nat) (batch : List MovieJob) : List Event :=
  let settings := db.effectiveSettings
  let deletion := fun deleteFiles => Event.mk (batch.flatMap (·.candidates))
    (.radarr client config (.deleteMovies (batch.map (·.radarrId)) deleteFiles
      settings.addArrImportExclusionsOnDelete)) (outcomes.deleteMovies config).succeeded
  match moveDestination settings with
  | none => [deletion true]
  | some destination =>
    batch.flatMap (moveEvents outcomes db destination config) ++ [deletion false]

/-- The delete batches: all entries of a batch are handled, or all are marked as failed. -/
def deleteRoute (candidates : List ReclaimCandidate) (rows : Tables) : BatchRoute MovieJob where
  clients := env.services.radarrClientsOrMain
  batch := batch env db candidates false
  calls := deleteBatchEvents outcomes rows
  error := fun config _ => (outcomes.deleteMovies config).error?
  arrId := MovieJob.radarrId
  candidateIds := MovieJob.allCandidateIds
  failure := "Radarr delete failed"

/-- The size of a movie's targeted versions. -/
def targetSize (job : MovieJob) (movieId : Nat) : Nat :=
  (((versionsOf db movieId).filter (·.id ∈ job.concreteVersionIds)).map (·.size)).sum

/-- The statements that delete the targeted version rows of a movie. -/
def deleteVersionRows (now : Nat) (job : MovieJob) (movieId : Nat) (db : Tables) : Tables :=
  let db := db.shrinkMovie movieId (targetSize db job movieId)
  { db with
    movieVersions := db.movieVersions.filter (·.id ∉ job.concreteVersionIds)
    }.softRemoveMovieIfEmpty now movieId

/-- The statements that mark one movie as removed, or delete its targeted versions. -/
def removeTargets (now : Nat) (db : Tables) (job : MovieJob) : Tables :=
  match db.findMovie job.movieId with
  | none => db
  | some movie =>
    if job.isWholeMovie then db.removeMovie now movie.id
    else deleteVersionRows now job movie.id db

/-- The statements that record one movie as removed, or its targeted versions. -/
def recordRemoval (now : Nat) (db : Tables) (job : MovieJob) : Tables :=
  job.allCandidateIds.foldl Tables.deleteCandidate (removeTargets now db job)

/-- The size in the history row of a deleted movie. -/
def deletedSize (db : Tables) (job : MovieJob) : Option Nat :=
  (db.findMovie job.movieId).bind fun movie =>
    if job.isWholeMovie then movie.size
    else some (targetSize db job movie.id)

/-- The statements after a deletion of one movie. -/
def finalizeDelete (now : Nat) (approvedBy : String) (db : Tables) (job : MovieJob) : Tables :=
  let removed := recordRemoval now db job
  { removed with
    history := removed.history ++
      [{ approvedBy, mediaType := .movie, tmdbId := job.tmdbId, name := job.title,
         size := deletedSize db job }] }

/-! ## The unmonitor batches -/

/-- The call of one unmonitor batch. -/
def unmonitorBatchEvents (client : ClientId) (config : Nat) (batch : List MovieJob) : List Event :=
  [⟨batch.flatMap (·.candidates),
    .radarr client config (.unmonitorMovies (batch.map (·.radarrId))),
    (outcomes.unmonitorMovies config).succeeded⟩]

/-- The unmonitor batches. -/
def unmonitorRoute (candidates : List ReclaimCandidate) : BatchRoute MovieJob where
  clients := env.services.radarrClientsOrMain
  batch := batch env db candidates true
  calls := unmonitorBatchEvents outcomes
  error := fun config _ => (outcomes.unmonitorMovies config).error?
  arrId := MovieJob.radarrId
  candidateIds := MovieJob.allCandidateIds
  failure := "Radarr unmonitor failed"

/-- The version is one whose files an entry cleans up. -/
def targetsVersion (job : MovieJob) (version : MovieVersion) : Bool :=
  job.isWholeMovie || version.id ∈ job.concreteVersionIds

section CleanUp

-- The candidates that the run has loaded.
variable (candidates : List ReclaimCandidate)

/-- The candidates whose target has one of these versions of the movie. -/
def candidatesFor (movieId : Nat) (versions : List MovieVersion) : List ReclaimCandidate :=
  candidates.filter fun c => c.movieId = some movieId ∧
    (c.movieVersionId = none ∨ ∃ v ∈ versions, c.movieVersionId = some v.id)

/-- The clean-ups on the disk for an unmonitored movie. -/
def unmonitorCleanupEvents (job : MovieJob) : List Event :=
  ((versionsOf db job.movieId).filter fun v =>
      truthyText v.path ≠ none ∧ targetsVersion job v).flatMap fun v =>
    cleanupEvents db (candidatesFor candidates job.movieId [v]) (outcomes.unmonitorDisk v.id)
      env.services.mainMediaServerType (outcomes.unmonitorCleanup v.id) v

/-- `service_versions`. -/
def serviceVersions (service : Service) (job : MovieJob) : List MovieVersion :=
  (versionsOf db job.movieId).filter fun v => v.service = service ∧ targetsVersion job v

/-- A version that the entry does not target still uses the item. -/
def itemShared (service : Service) (job : MovieJob) (itemId : String) : Bool :=
  !job.isWholeMovie && (versionsOf db job.movieId).any fun v =>
    v.service == service && v.serviceItemId == itemId && v.id ∉ job.concreteVersionIds

/-- The targeted versions that use the item. -/
def itemUsers (service : Service) (job : MovieJob) (itemId : String) : List MovieVersion :=
  (serviceVersions db service job).filter (·.serviceItemId = itemId)

/-- The item deletions for an unmonitored movie; `deleted` are the items deleted so far. -/
def itemEvents (service : Service) (job : MovieJob) : List MovieVersion → List String → List Event
  | [], _ => []
  | version :: rest, deleted =>
    let item := version.serviceItemId
    if item ∈ deleted ∨ itemShared db service job item then itemEvents service job rest deleted
    else
      let ok := (outcomes.deleteItem version.id).succeeded
      ⟨candidatesFor candidates job.movieId (itemUsers db service job item), .deleteItem item,
          ok⟩ ::
        itemEvents service job rest (if ok then item :: deleted else deleted)

/-- The calls that remove the files of an unmonitored movie. -/
def cleanUpEvents (job : MovieJob) : List Event :=
  if (db.findMovie job.movieId).isNone then []
  else
    unmonitorCleanupEvents env outcomes db candidates job ++
      match env.services.mainMediaServerType with
      | some service =>
        if db.effectiveSettings.mediaServerFallbackEnabled then
          itemEvents outcomes db candidates service job (serviceVersions db service job) []
        else []
      | none => []

/-- The clean-up of one unmonitored movie, and the statements after it. -/
def finalizeUnmonitor (approvedBy : String) (run : Run) (job : MovieJob) : Run :=
  let removed := recordRemoval env.now run.db job
  { run with
    events := run.events ++ cleanUpEvents env outcomes run.db candidates job
    db := { removed with
      history := removed.history ++
        [{ approvedBy, mediaType := .movie, tmdbId := job.tmdbId, name := job.title,
           size := (removed.findMovie job.movieId).bind (·.size), action := "unmonitored" }] }
    deletedCount := run.deletedCount + 1 }

end CleanUp

/-! ## The fallback -/

/-- The first version of each item, in order. -/
def firstOfItems (versions : List MovieVersion) : List MovieVersion :=
  (versions.map (·.serviceItemId)).eraseDups.filterMap fun item =>
    versions.find? (·.serviceItemId == item)

/-- The item deletions of the fallback: those up to the first failure. -/
def fallbackItemEvents (candidate : ReclaimCandidate) : List MovieVersion → List Event
  | [] => []
  | version :: rest =>
    let ok := (outcomes.fallbackDeleteItem candidate.id version.id).succeeded
    ⟨[candidate], .deleteItem version.serviceItemId, ok⟩ ::
      if ok then fallbackItemEvents candidate rest else []

/-- The versions of a candidate's movie on the main media server, when the fallback tries to
delete them. -/
def fallbackVersions (service : Service) (candidate : ReclaimCandidate) :
    Option (Movie × List MovieVersion) :=
  match candidate.movieId.bind db.findMovie with
  | none => none
  | some movie =>
    let versions := (versionsOf db movie.id).filter (·.service = service)
    if movie.tmdbId = 0 ∨ versions = [] then none else some (movie, versions)

/-- The items of a movie are all deleted. -/
def fallbackSucceeds (candidate : ReclaimCandidate) (versions : List MovieVersion) : Bool :=
  (firstOfItems versions).all fun v => (outcomes.fallbackDeleteItem candidate.id v.id).succeeded

/-- The calls that the fallback makes for a candidate. -/
def fallbackEvents (service : Service) (candidate : ReclaimCandidate) : List Event :=
  match fallbackVersions db service candidate with
  | none => []
  | some (_, versions) =>
    fallbackItemEvents outcomes candidate (firstOfItems versions) ++
      if fallbackSucceeds outcomes candidate versions then
        versions.flatMap fun v =>
          cleanupEvents db [candidate] (outcomes.fallbackDisk candidate.id v.id) (some service)
            (outcomes.fallbackCleanup candidate.id v.id) v
      else []

/-- One candidate of `_delete_movies_via_media_server`; `rows` are the tables that it
loads. -/
def fallbackStep (rows : Tables) (approvedBy : String) (service : Service) (run : Run)
    (candidate : ReclaimCandidate) : Run :=
  let run := { run with events := run.events ++ fallbackEvents outcomes rows service candidate }
  match fallbackVersions rows service candidate with
  | none => run
  | some (movie, versions) =>
    if fallbackSucceeds outcomes candidate versions then
      let db := (run.db.removeMovie env.now movie.id).deleteCandidate candidate.id
      { run with
        db := { db with
          history := db.history ++
            [{ approvedBy, mediaType := .movie, tmdbId := movie.tmdbId, name := movie.title,
               size := movie.size }] }
        deletedCount := run.deletedCount + 1 }
    else run

/-- What happens to the whole-movie candidates that no instance handled. -/
def fallback (approvedBy error : String) (unhandled : List ReclaimCandidate) (run : Run) : Run :=
  if run.db.effectiveSettings.mediaServerFallbackEnabled then
    match env.services.mainMediaServerType with
    | none => run
    | some service => unhandled.foldl (fallbackStep env outcomes run.db approvedBy service) run
  else
    { run with
      db := unhandled.foldl
        (fun db c => db.markUnexplainedDeleteFailures env.now [c.id] error) run.db }

/-- The calls of `_best_effort_radarr_rescan`. -/
def rescanEvents (rescanOk : Nat → Bool) (refresh : List (Nat × List Nat)) : List Event :=
  refresh.filterMap fun entry =>
    (env.services.radarrClientsOrMain.lookup entry.1).map fun client =>
      ⟨[], .radarr client entry.1 (.rescanMovies (entry.2.insertionSort (· ≤ ·))),
        rescanOk entry.1⟩

/-! ## The phases of a run -/

section Phases

variable (approvedBy : String) (candidates : List ReclaimCandidate)

/-- The run of the version candidates that no instance takes. -/
def versionPhase : Run :=
  deleteMovieVersionCandidates env outcomes db approvedBy
    (unmatchedVersionCandidates env db candidates)

def deleting : BatchRun MovieJob :=
  let rows := (versionPhase env outcomes db approvedBy candidates).db
  (deleteRoute env outcomes db candidates rows).runBatches env.now
    (configs env db candidates false) rows

/-- The movies that the delete batches record as removed. -/
def deletedJobs : List MovieJob :=
  firstOfEach MovieJob.movieId (deleting env outcomes db approvedBy candidates).handled

def unmonitoring : BatchRun MovieJob :=
  (unmonitorRoute env outcomes db candidates).runBatches env.now (configs env db candidates true)
    ((deletedJobs env outcomes db approvedBy candidates).foldl
      (finalizeDelete env.now approvedBy) (deleting env outcomes db approvedBy candidates).db)

/-- The movies that the unmonitor batches record as removed. -/
def unmonitoredJobs : List MovieJob :=
  firstOfEach MovieJob.movieId (unmonitoring env outcomes db approvedBy candidates).handled

/-- The clean-up of the unmonitored movies. -/
def cleaning : Run :=
  (unmonitoredJobs env outcomes db approvedBy candidates).foldl
    (finalizeUnmonitor env outcomes candidates approvedBy)
    { db := (unmonitoring env outcomes db approvedBy candidates).db }

/-- The run before the fallback. -/
def batched : Run where
  db := (cleaning env outcomes db approvedBy candidates).db
  events := (versionPhase env outcomes db approvedBy candidates).events ++
    (deleting env outcomes db approvedBy candidates).events ++
    rescanEvents env outcomes.rescanDeleted
      (deleting env outcomes db approvedBy candidates).refresh ++
    (unmonitoring env outcomes db approvedBy candidates).events ++
    (cleaning env outcomes db approvedBy candidates).events ++
    rescanEvents env outcomes.rescanUnmonitored
      (unmonitoring env outcomes db approvedBy candidates).refresh
  deletedCount := (versionPhase env outcomes db approvedBy candidates).deletedCount +
    (deletedJobs env outcomes db approvedBy candidates).length +
    (cleaning env outcomes db approvedBy candidates).deletedCount

/-- The whole-movie candidates whose movie no instance handled. -/
def unhandled : List ReclaimCandidate :=
  (wholeMovieCandidates candidates).filter fun c =>
    !(((deleting env outcomes db approvedBy candidates).handled ++
      (unmonitoring env outcomes db approvedBy candidates).handled).any fun job =>
        c.movieId == some job.movieId)

/-- The error of a whole-movie candidate that stays because the fallback is disabled. -/
def fallbackDisabledError : String :=
  if (jobs env db candidates false ++ jobs env db candidates true).isEmpty then
    "Media server fallback disabled and movie was not found in any active Radarr instance"
  else
    "Media server fallback disabled and movie was not handled by any active Radarr instance"

end Phases

end Movie

open Movie in
/-- `_delete_movie_candidates`. -/
def deleteMovieCandidates (env : Environment) (outcomes : MovieOutcomes) (db : Tables)
    (restrictToIds : List Nat) (approvedBy : String) : Run :=
  let candidates := loadCandidates env db restrictToIds
  fallback env outcomes approvedBy (fallbackDisabledError env db candidates)
    (unhandled env outcomes db approvedBy candidates)
    (batched env outcomes db approvedBy candidates)

end MediaMasterr.Deletion
