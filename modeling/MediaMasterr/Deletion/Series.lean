import MediaMasterr.Deletion.Batches

/-! # Series deletion

`_delete_series_candidates`: every series goes to the Sonarr instances that know
it, in one batch an instance; a series with the action `unmonitor` loses its
folder and its media-server item; what no instance handled falls back to the
media server. -/

namespace MediaMasterr.Deletion

open MediaMasterr.Foundations MediaMasterr.Database MediaMasterr.Filesystem

/-- The outcomes of a run. A call for an entry of a batch is keyed by configuration, series
id and Sonarr id, the others by configuration, series or candidate. -/
structure SeriesOutcomes where
  moveDisk : Nat → Nat → Nat → DiskView := fun _ _ _ => {}
  moveDirectory : Nat → Nat → Nat → Outcome Unit := fun _ _ _ => .ok ()
  deleteSeries : Nat → Nat → Nat → Outcome Unit := fun _ _ _ => .ok ()
  unmonitorSeries : Nat → Outcome Unit := fun _ => .ok ()
  folderDisk : Nat → DiskView := fun _ => {}
  rmtree : Nat → Outcome Unit := fun _ => .ok ()
  deleteItem : Nat → Outcome Unit := fun _ => .ok ()
  fallbackDeleteItem : Nat → Outcome Unit := fun _ => .ok ()
  refreshDeleted : Nat → Bool := fun _ => true
  refreshUnmonitored : Nat → Bool := fun _ => true

/-- An entry of a Sonarr batch. -/
structure SeriesJob where
  candidate : ReclaimCandidate
  seriesId : Nat
  sonarrId : Nat
  title : String
  tmdbId : Nat
  deriving DecidableEq

namespace Series

variable (env : Environment) (outcomes : SeriesOutcomes) (db : Tables)

/-- The candidates that the query selects, less the favorites. -/
def loadCandidates (restrictToIds : List Nat) : List ReclaimCandidate :=
  let joined := db.candidates.filter fun c =>
    c.mediaType = .series ∧ isSeriesScope c.seasonId c.episodeId ∧
      ((c.seriesId.bind db.findSeries).any fun series => series.removedAt.isNone)
  filterSeriesCandidatesByFavorites env.caseTables db (restrictTo restrictToIds joined)

/-- `series_data[series_id]["refs"]`: the join yields the refs once for each series-type
candidate of the series. -/
def infoRefs (seriesId : Nat) : List SeriesArrRef :=
  (db.candidates.filter fun c => c.mediaType = .series ∧ c.seriesId = some seriesId).flatMap
    fun _ => seriesRefs db seriesId

/-- `series_arr_routing[series_id]`: configurations and ids of the connected instances. -/
def routing (seriesId : Nat) : List (Nat × Nat) :=
  (((infoRefs db seriesId).filter fun ref =>
    (env.services.sonarrClientsOrMain.lookup ref.serviceConfigId).isSome).map fun ref =>
      (ref.serviceConfigId, ref.arrSeriesId)).eraseDups

section Batches

variable (candidates : List ReclaimCandidate)

/-- `series_arr_action[series_id]`. -/
def arrAction (seriesId : Nat) : Option ArrDeleteAction :=
  (candidates.filter (·.seriesId = some seriesId)).foldl
    (fun current c => some (mergeArrAction current (getArrAction c db.rules
      (coerceArrDeleteFallback db.effectiveSettings.defaultArrDeleteBehavior)))) none

/-- The series ids of the candidates, in order. -/
def seriesIds : List Nat := (candidates.filterMap (·.seriesId)).eraseDups

/-- The entries of one series, with the configuration of each. -/
def seriesJobs (seriesId : Nat) : List (Nat × SeriesJob) :=
  match candidates.find? (·.seriesId == some seriesId), db.findSeries seriesId with
  | some candidate, some series =>
    (routing env db seriesId).map fun (config, sonarrId) =>
      (config, ⟨candidate, seriesId, sonarrId, series.title, series.tmdbId⟩)
  | _, _ => []

/-- The entries of the delete batches, or of the unmonitor batches. -/
def jobs (unmonitor : Bool) : List (Nat × SeriesJob) :=
  ((seriesIds candidates).filter fun id =>
    (arrAction db candidates id = some .unmonitor) = (unmonitor = true)).flatMap
      (seriesJobs env db candidates)

def configs (unmonitor : Bool) : List Nat :=
  ((jobs env db candidates unmonitor).map Prod.fst).eraseDups

/-- The batch of one configuration. -/
def batch (unmonitor : Bool) (config : Nat) : List SeriesJob :=
  ((jobs env db candidates unmonitor).filter (·.1 = config)).map Prod.snd

end Batches

/-! ## The delete batches -/

/-- `move_enabled and move_destination_series and move_destination_series.strip()`. -/
def moveDestination (settings : GeneralSettings) : Option String :=
  if settings.moveEnabled then
    settings.moveDestinationSeries.filter fun destination => PythonText.strip destination ≠ ""
  else none

/-- The directory that is moved before an entry is deleted, when it is found. -/
def moveSource (config : Nat) (job : SeriesJob) : Option LocalPath :=
  match db.seriesServiceRefs.find? fun r => r.seriesId = job.seriesId ∧ r.path.isSome with
  | some ref =>
    resolvePath (outcomes.moveDisk config job.seriesId job.sonarrId) (some ref.service) none
      ref.path db.effectiveSettings.pathMappings
  | none => none

/-- The calls for one entry of a delete batch. -/
def deleteJobEvents (client : ClientId) (config : Nat) (job : SeriesJob) : List Event :=
  let settings := db.effectiveSettings
  let deleted := (outcomes.deleteSeries config job.seriesId job.sonarrId).succeeded
  let deletion := fun deleteFiles => Call.sonarr client (.ofConfig config)
    (.deleteSeries job.sonarrId deleteFiles settings.addArrImportExclusionsOnDelete)
  match moveDestination settings with
  | none => [⟨[job.candidate], deletion true, deleted⟩]
  | some destination =>
    match moveSource outcomes db config job with
    | some source =>
      [⟨[job.candidate], .moveDirectory source destination,
          (outcomes.moveDirectory config job.seriesId job.sonarrId).succeeded⟩,
        ⟨[job.candidate], deletion false, deleted⟩]
    | none => [⟨[job.candidate], deletion false, deleted⟩]

/-- The entries of a batch that are attempted: those up to the first failure. -/
def attempted (config : Nat) : List SeriesJob → List SeriesJob
  | [] => []
  | job :: rest =>
    if (outcomes.deleteSeries config job.seriesId job.sonarrId).succeeded then
      job :: attempted config rest
    else [job]

/-- The error that ends a batch. -/
def batchError (config : Nat) : List SeriesJob → Option String
  | [] => none
  | job :: rest =>
    match outcomes.deleteSeries config job.seriesId job.sonarrId with
    | .ok _ => batchError config rest
    | .error e => some e

/-- The calls of one delete batch. -/
def deleteBatchEvents (client : ClientId) (config : Nat) (batch : List SeriesJob) : List Event :=
  (attempted outcomes config batch).flatMap (deleteJobEvents outcomes db client config)

/-- The delete batches: all entries of a batch are handled, or all are marked as failed. -/
def deleteRoute (candidates : List ReclaimCandidate) : BatchRoute SeriesJob where
  clients := env.services.sonarrClientsOrMain
  batch := batch env db candidates false
  calls := deleteBatchEvents outcomes db
  error := batchError outcomes
  arrId := SeriesJob.sonarrId
  candidateIds := fun job => [job.candidate.id]
  failure := "Sonarr delete failed"

/-- The statements that record one handled series as removed. -/
def recordRemoval (now : Nat) (approvedBy action : String) (db : Tables) (job : SeriesJob) :
    Tables :=
  let size := (db.findSeries job.seriesId).bind (·.size)
  let db := (db.removeSeries now job.seriesId).deleteCandidate job.candidate.id
  { db with
    history := db.history ++
      [{ approvedBy, mediaType := .series, tmdbId := job.tmdbId, name := job.title, size,
         action }] }

/-! ## The unmonitor batches -/

/-- The call of one unmonitor batch. -/
def unmonitorBatchEvents (client : ClientId) (config : Nat) (batch : List SeriesJob) :
    List Event :=
  [⟨batch.map SeriesJob.candidate,
    .sonarr client (.ofConfig config) (.unmonitorSeries (batch.map SeriesJob.sonarrId)),
    (outcomes.unmonitorSeries config).succeeded⟩]

/-- The unmonitor batches. -/
def unmonitorRoute (candidates : List ReclaimCandidate) : BatchRoute SeriesJob where
  clients := env.services.sonarrClientsOrMain
  batch := batch env db candidates true
  calls := unmonitorBatchEvents outcomes
  error := fun config _ => (outcomes.unmonitorSeries config).error?
  arrId := SeriesJob.sonarrId
  candidateIds := fun job => [job.candidate.id]
  failure := "Sonarr unmonitor failed"

/-- The folder of an unmonitored series: the first ref path that exists, as it is or
mapped. -/
def seriesFolder (seriesId : Nat) : Option LocalPath :=
  let disk := outcomes.folderDisk seriesId
  (infoRefs db seriesId).findSome? fun ref =>
    match truthyText ref.arrSeriesPath with
    | none => none
    | some path =>
      let initial := LocalPath.ofString path
      let localPath :=
        if disk.pathExists initial then some initial
        else resolvePath disk (some .sonarr) none (some path) db.effectiveSettings.pathMappings
      localPath.filter disk.pathExists

/-- The media-server item of an unmonitored series. -/
def mediaServerItem (seriesId : Nat) : Option String :=
  if db.effectiveSettings.mediaServerFallbackEnabled then
    match env.services.mainMediaServerType with
    | some service =>
      (db.seriesServiceRefs.find? fun r => r.seriesId = seriesId ∧ r.service = service).map
        (·.serviceId)
    | none => none
  else none

/-- The calls that remove the files of an unmonitored series. -/
def cleanUpEvents (job : SeriesJob) : List Event :=
  let removed :=
    match seriesFolder outcomes db job.seriesId with
    | some folder =>
      [Event.mk [job.candidate] (.rmtree folder) (outcomes.rmtree job.seriesId).succeeded]
    | none => []
  let synced :=
    match mediaServerItem env db job.seriesId with
    | some item =>
      [Event.mk [job.candidate] (.deleteItem item) (outcomes.deleteItem job.seriesId).succeeded]
    | none => []
  removed ++ synced

/-! ## The fallback -/

/-- The item of a candidate's series on the main media server. -/
def fallbackItem (candidate : ReclaimCandidate) : Option (Nat × String) :=
  match candidate.seriesId, env.services.mainMediaServerType with
  | some seriesId, some service =>
    if (db.findSeries seriesId).any (·.tmdbId ≠ 0) then
      (db.seriesServiceRefs.find? fun r => r.seriesId = seriesId ∧ r.service = service).map
        fun r => (seriesId, r.serviceId)
    else none
  | _, _ => none

/-- The call that the fallback makes for a candidate. -/
def fallbackEvents (candidate : ReclaimCandidate) : List Event :=
  match fallbackItem env db candidate with
  | none => []
  | some (_, item) =>
    [⟨[candidate], .deleteItem item, (outcomes.fallbackDeleteItem candidate.id).succeeded⟩]

/-- The series that the fallback deletes for a candidate. -/
def fallbackJob (candidate : ReclaimCandidate) : Option SeriesJob :=
  match fallbackItem env db candidate with
  | none => none
  | some (seriesId, _) =>
    if (outcomes.fallbackDeleteItem candidate.id).succeeded then
      (db.findSeries seriesId).map fun series =>
        ⟨candidate, seriesId, 0, series.title, series.tmdbId⟩
    else none

/-- One candidate of `_delete_series_via_media_server`; `rows` are the tables that it
loads. -/
def fallbackStep (rows : Tables) (approvedBy : String) (run : Run)
    (candidate : ReclaimCandidate) : Run :=
  let run := { run with events := run.events ++ fallbackEvents env outcomes rows candidate }
  match fallbackJob env outcomes rows candidate with
  | none => run
  | some job =>
    { run with
      db := recordRemoval env.now approvedBy "deleted" run.db job
      deletedCount := run.deletedCount + 1 }

/-- The candidates whose series no instance handled. -/
def unhandled (candidates : List ReclaimCandidate) (handled : List SeriesJob) :
    List ReclaimCandidate :=
  candidates.filter fun c => !(handled.any fun job => c.seriesId == some job.seriesId)

/-- What happens to the candidates whose series no instance handled. -/
def fallback (rows : Tables) (approvedBy : String) (unhandled : List ReclaimCandidate)
    (run : Run) : Run :=
  if rows.effectiveSettings.mediaServerFallbackEnabled then
    unhandled.foldl (fallbackStep env outcomes rows approvedBy) run
  else
    { run with
      db := unhandled.foldl (fun db c => db.markUnexplainedDeleteFailures env.now [c.id]
        ("Media server fallback disabled and series was not handled " ++
          "by any active Sonarr instance")) run.db }

/-! ## The phases of a run -/

section Phases

variable (approvedBy : String) (candidates : List ReclaimCandidate)

def deleting : BatchRun SeriesJob :=
  (deleteRoute env outcomes db candidates).runBatches env.now (configs env db candidates false) db

/-- The series that the delete batches record as removed. -/
def deletedJobs : List SeriesJob :=
  firstOfEach SeriesJob.seriesId (deleting env outcomes db candidates).handled

def unmonitoring : BatchRun SeriesJob :=
  (unmonitorRoute env outcomes db candidates).runBatches env.now (configs env db candidates true)
    ((deletedJobs env outcomes db candidates).foldl (recordRemoval env.now approvedBy "deleted")
      (deleting env outcomes db candidates).db)

/-- The series that the unmonitor batches record as removed. -/
def unmonitoredJobs : List SeriesJob :=
  firstOfEach SeriesJob.seriesId (unmonitoring env outcomes db approvedBy candidates).handled

/-- The run before the fallback. -/
def batched : Run where
  db := (unmonitoredJobs env outcomes db approvedBy candidates).foldl
    (recordRemoval env.now approvedBy "unmonitored")
    (unmonitoring env outcomes db approvedBy candidates).db
  events := (deleting env outcomes db candidates).events ++
    sonarrRefreshEvents env.services outcomes.refreshDeleted
      (deleting env outcomes db candidates).refresh ++
    (unmonitoring env outcomes db approvedBy candidates).events ++
    (unmonitoredJobs env outcomes db approvedBy candidates).flatMap
      (cleanUpEvents env outcomes db) ++
    sonarrRefreshEvents env.services outcomes.refreshUnmonitored
      (unmonitoring env outcomes db approvedBy candidates).refresh
  deletedCount := (deletedJobs env outcomes db candidates).length +
    (unmonitoredJobs env outcomes db approvedBy candidates).length

/-- The candidates that are left to the fallback. -/
def remaining : List ReclaimCandidate :=
  unhandled candidates ((deleting env outcomes db candidates).handled ++
    (unmonitoring env outcomes db approvedBy candidates).handled)

end Phases

end Series

open Series in
/-- `_delete_series_candidates`. -/
def deleteSeriesCandidates (env : Environment) (outcomes : SeriesOutcomes) (db : Tables)
    (restrictToIds : List Nat) (approvedBy : String) : Run :=
  let candidates := loadCandidates env db restrictToIds
  fallback env outcomes db approvedBy (remaining env outcomes db approvedBy candidates)
    (batched env outcomes db approvedBy candidates)

namespace Series

variable {env : Environment} {outcomes : SeriesOutcomes} {db : Tables}
variable {candidates : List ReclaimCandidate} {approvedBy : String}

/-! ## The entries of the batches -/

theorem routing_client {seriesId config sonarrId : Nat}
    (h : (config, sonarrId) ∈ routing env db seriesId) :
    (env.services.sonarrClientsOrMain.lookup config).isSome := by
  simp only [routing, List.mem_eraseDups, List.mem_map, List.mem_filter, Prod.mk.injEq] at h
  obtain ⟨ref, ⟨-, hclient⟩, rfl, -⟩ := h
  exact hclient

/-- What an entry of a batch is. -/
theorem mem_batch {unmonitor : Bool} {config : Nat} {job : SeriesJob}
    (h : job ∈ batch env db candidates unmonitor config) :
    job.candidate ∈ candidates ∧ job.candidate.seriesId = some job.seriesId ∧
      ((arrAction db candidates job.seriesId = some .unmonitor) = (unmonitor = true)) ∧
      config ∈ configs env db candidates unmonitor ∧
      (env.services.sonarrClientsOrMain.lookup config).isSome := by
  simp only [batch, List.mem_map, List.mem_filter, decide_eq_true_eq] at h
  obtain ⟨⟨config', job'⟩, ⟨hjobs, rfl⟩, rfl⟩ := h
  have hconfig : config' ∈ configs env db candidates unmonitor := by
    simp only [configs, List.mem_eraseDups, List.mem_map]
    exact ⟨_, hjobs, rfl⟩
  simp only [jobs, List.mem_flatMap, List.mem_filter, decide_eq_true_eq] at hjobs
  obtain ⟨seriesId, ⟨-, haction⟩, hjob⟩ := hjobs
  unfold seriesJobs at hjob
  split at hjob
  · rename_i candidate series hcandidate hseries
    obtain ⟨⟨config, sonarrId⟩, hrouting, heq⟩ := List.mem_map.mp hjob
    obtain ⟨rfl, rfl⟩ := Prod.mk.injEq .. ▸ heq
    exact ⟨List.mem_of_find?_eq_some hcandidate, by simpa using List.find?_some hcandidate,
      haction, hconfig, routing_client hrouting⟩
  · simp at hjob

theorem mem_deletedJobs {job : SeriesJob} (h : job ∈ deletedJobs env outcomes db candidates) :
    ∃ config ∈ configs env db candidates false,
      (deleteRoute env outcomes db candidates).handles config ∧
        job ∈ batch env db candidates false config :=
  BatchRoute.mem_handled.mp (mem_of_mem_firstOfEach h)

theorem mem_unmonitoredJobs {job : SeriesJob}
    (h : job ∈ unmonitoredJobs env outcomes db approvedBy candidates) :
    ∃ config ∈ configs env db candidates true,
      (unmonitorRoute env outcomes db candidates).handles config ∧
        job ∈ batch env db candidates true config :=
  BatchRoute.mem_handled.mp (mem_of_mem_firstOfEach h)

/-! ## What a run changes -/

/-- The series that a run records as removed. -/
def removals (env : Environment) (outcomes : SeriesOutcomes) (db : Tables) (approvedBy : String)
    (candidates : List ReclaimCandidate) : List SeriesJob :=
  deletedJobs env outcomes db candidates ++ unmonitoredJobs env outcomes db approvedBy candidates ++
    if db.effectiveSettings.mediaServerFallbackEnabled then
      (remaining env outcomes db approvedBy candidates).filterMap (fallbackJob env outcomes db)
    else []

/-- An observation that no mark changes, and that the record of a removal keeps exactly under
a condition, is kept by a run exactly under all the conditions. -/
theorem run_keeps_iff {P : Tables → Prop} {Q : SeriesJob → Prop} {restrictToIds : List Nat}
    (hmarks : ∀ {db db' : Tables}, db.Marks db' → (P db' ↔ P db))
    (hremoval : ∀ (action : String) (db : Tables) (job : SeriesJob),
      P (recordRemoval env.now approvedBy action db job) ↔ P db ∧ Q job) :
    P (deleteSeriesCandidates env outcomes db restrictToIds approvedBy).db ↔
      P db ∧ ∀ job ∈ removals env outcomes db approvedBy (loadCandidates env db restrictToIds),
        Q job := by
  have hfold : ∀ action (jobs : List SeriesJob) (db : Tables),
      P (jobs.foldl (recordRemoval env.now approvedBy action) db) ↔ P db ∧ ∀ job ∈ jobs, Q job :=
    fun action jobs db => Loops.foldl_keeps_iff (I := fun _ => True) (fun _ _ _ _ => trivial)
      (fun job _ db _ => hremoval action db job) trivial
  set candidates := loadCandidates env db restrictToIds with hcandidates
  have hbatched : P (batched env outcomes db approvedBy candidates).db ↔
      P db ∧ (∀ job ∈ deletedJobs env outcomes db candidates, Q job) ∧
        ∀ job ∈ unmonitoredJobs env outcomes db approvedBy candidates, Q job := by
    dsimp only [batched]
    rw [hfold, unmonitoring, hmarks BatchRoute.runBatches_marks, hfold, deleting,
      hmarks BatchRoute.runBatches_marks, and_assoc]
  dsimp only [deleteSeriesCandidates, fallback, removals]
  rw [← hcandidates]
  split_ifs with hfallback
  · rw [Loops.foldl_keeps_iff (P := fun run : Run => P run.db) (I := fun _ => True)
      (Q := fun c => ∀ job, fallbackJob env outcomes db c = some job → Q job)
      (fun _ _ _ _ => trivial) ?_ trivial, hbatched]
    · simp only [List.mem_append, List.mem_filterMap]
      grind
    · intro c _ run _
      dsimp only [fallbackStep]
      cases fallbackJob env outcomes db c with
      | none => simp
      | some job => simp [hremoval]
  · rw [hmarks (Tables.marks_foldl
      (fun db c => Tables.marks_markUnexplainedDeleteFailures _ _ _) _ _),
      hbatched]
    simp only [List.append_nil, List.mem_append]
    grind

theorem recordRemoval_hasCandidate_iff (now : Nat) (approvedBy action : String) (db : Tables)
    (job : SeriesJob) (id : Nat) :
    (recordRemoval now approvedBy action db job).HasCandidate id ↔
      db.HasCandidate id ∧ id ≠ job.candidate.id := by
  show ((db.removeSeries now job.seriesId).deleteCandidate job.candidate.id).HasCandidate id ↔ _
  rw [Tables.hasCandidate_deleteCandidate]
  rfl

theorem recordRemoval_seriesInLibrary_iff (now : Nat) (approvedBy action : String) (db : Tables)
    (job : SeriesJob) (id : Nat) :
    (recordRemoval now approvedBy action db job).SeriesInLibrary id ↔
      db.SeriesInLibrary id ∧ id ≠ job.seriesId :=
  Tables.seriesInLibrary_removeSeries

/-- The calls of a run, by phase. -/
theorem events_eq (env : Environment) (outcomes : SeriesOutcomes) (db : Tables)
    (restrictToIds : List Nat) (approvedBy : String) :
    (deleteSeriesCandidates env outcomes db restrictToIds approvedBy).events =
      (batched env outcomes db approvedBy (loadCandidates env db restrictToIds)).events ++
        if db.effectiveSettings.mediaServerFallbackEnabled then
          (remaining env outcomes db approvedBy (loadCandidates env db restrictToIds)).flatMap
            (fallbackEvents env outcomes db)
        else [] := by
  have htrace : ∀ (run : Run) c, (fallbackStep env outcomes db approvedBy run c).events =
      run.events ++ fallbackEvents env outcomes db c := by
    intro run c
    dsimp only [fallbackStep]
    cases fallbackJob env outcomes db c <;> rfl
  dsimp only [deleteSeriesCandidates, fallback]
  split_ifs with hfallback
  · exact Loops.foldl_trace htrace _ _
  · simp

end Series

end MediaMasterr.Deletion
