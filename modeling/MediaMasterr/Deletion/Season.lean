import MediaMasterr.Deletion.Services

/-! # Season deletion

`_delete_season_candidates`: Sonarr first, one ref after the other, then the media
server. The outcomes of the calls are inputs, by candidate and ref, since each
call site runs at most once for them. -/

namespace MediaMasterr.Deletion

open MediaMasterr.Foundations MediaMasterr.Database MediaMasterr.Filesystem

/-- The outcomes of a run: candidate id, then ref id where the call is made for a ref. -/
structure SeasonOutcomes where
  getEpisodes : Nat → Nat → Outcome (List SonarrEpisode) := fun _ _ => .ok []
  updateSeasonMonitoring : Nat → Nat → Outcome Unit := fun _ _ => .ok ()
  disk : Nat → Nat → DiskView := fun _ _ => {}
  rmtree : Nat → Nat → Outcome Unit := fun _ _ => .ok ()
  deleteSeasonFiles : Nat → Nat → Outcome Unit := fun _ _ => .ok ()
  getSeries : Nat → Outcome (List (Option Nat)) := fun _ => .ok []
  deleteSeries : Nat → Outcome Unit := fun _ => .ok ()
  deleteItem : Nat → Outcome Unit := fun _ => .ok ()
  refreshSeries : Nat → Bool := fun _ => true

/-- A candidate with the rows its loop iteration reads. -/
structure SeasonTask where
  candidate : ReclaimCandidate
  season : Season
  series : Series

/-- `_season_media_server_id`. -/
def seasonMediaServerId (season : Season) : Option Service → Option String
  | some .jellyfin => season.jellyfinSeasonId
  | some .emby => season.embySeasonId
  | some .plex => season.plexSeasonRatingKey
  | _ => none

/-- What the loop over the refs has found so far. -/
structure SeasonAttempt where
  deleted : Bool := false
  lastError : Option String := none
  used : Option (SeriesArrRef × ClientId) := none
  events : List Event := []

namespace Season

variable (env : Environment) (outcomes : SeasonOutcomes) (settings : GeneralSettings)

/-- The candidates that the query selects, less the favorites. -/
def loadCandidates (db : Tables) (restrictToIds : List Nat) : List ReclaimCandidate :=
  let joined := db.candidates.filter fun c =>
    c.mediaType = .series ∧ isSeasonScope c.seasonId c.episodeId ∧
      (c.seasonId.bind db.findSeason).isSome ∧
      ((c.seriesId.bind db.findSeries).any fun series => series.removedAt.isNone)
  filterSeriesCandidatesByFavorites env.caseTables db (restrictTo restrictToIds joined)

/-- The season and series of a candidate, when both ids resolve. -/
def taskOf (db : Tables) (candidate : ReclaimCandidate) : Option SeasonTask :=
  match candidate.seasonId.bind db.findSeason, candidate.seriesId.bind db.findSeries with
  | some season, some series => some ⟨candidate, season, series⟩
  | _, _ => none

/-- The refs of the task's series in the order in which they are tried. -/
def orderedRefs (db : Tables) (task : SeasonTask) : List SeriesArrRef :=
  orderSeriesArrRefs settings.pathMappings env.services.mainMediaServerType
    (task.season.path :: task.season.episodePaths.map some) (seriesRefs db task.series.id)

def label (task : SeasonTask) : String := "S" ++ twoDigits task.season.seasonNumber

/-- `season_file_ids`. -/
def seasonFileIds (season : Season) (episodes : List SonarrEpisode) : List Nat :=
  (episodes.filter fun ep => ep.seasonNumber = some season.seasonNumber).filterMap
    (·.episodeFileId)

/-- The folder that the unmonitor branch removes. -/
def seasonFolder (disk : DiskView) (season : Season) (ref : SeriesArrRef) : Option LocalPath :=
  match ref.arrSeriesPath with
  | none => none
  | some seriesPath =>
    if seriesPath = "" then none
    else
      let initial := LocalPath.ofString seriesPath
      let localSeriesPath :=
        if disk.isDir initial then some initial
        else resolvePath disk (some .sonarr) (some ref.serviceConfigId) (some seriesPath)
          settings.pathMappings
      match localSeriesPath with
      | some path =>
        if disk.isDir path then
          (findSeasonFolder disk env.search path season.seasonNumber).filter disk.isDir
        else none
      | none => none

/-- The removal of the files once a ref's season is unmonitored. -/
def removeFiles (action : ArrDeleteAction) (task : SeasonTask) (ref : SeriesArrRef)
    (client : ClientId) (a : SeasonAttempt) : SeasonAttempt :=
  let candidate := task.candidate
  if action = .unmonitor then
    match seasonFolder env settings (outcomes.disk candidate.id ref.id) task.season ref with
    | none => { a with lastError := some "Could not locate season folder" }
    | some folder =>
      match outcomes.rmtree candidate.id ref.id with
      | .ok _ => { a with deleted := true, events :=
        a.events ++ [⟨[candidate], .rmtree folder, true⟩] }
      | .error e =>
        { a with lastError := some e, events := a.events ++ [⟨[candidate], .rmtree folder, false⟩] }
  else
    let request := SonarrRequest.deleteSeasonFiles ref.arrSeriesId task.season.seasonNumber
    match outcomes.deleteSeasonFiles candidate.id ref.id with
    | .ok _ =>
      { a with deleted := true, events :=
        a.events ++ [sonarrEvent candidate client ref request true] }
    | .error e =>
      { a with
        lastError := some e
        events := a.events ++ [sonarrEvent candidate client ref request false] }

/-- One iteration of the loop over the refs. -/
def tryRef (action : ArrDeleteAction) (task : SeasonTask) (ref : SeriesArrRef)
    (a : SeasonAttempt) : SeasonAttempt :=
  match env.services.refClient ref with
  | none => a
  | some client =>
    let candidate := task.candidate
    let event := fun request ok => sonarrEvent candidate client ref request ok
    match outcomes.getEpisodes candidate.id ref.id with
    | .error e =>
      { a with
        lastError := some e
        events := a.events ++ [event (.getEpisodes ref.arrSeriesId) false] }
    | .ok episodes =>
      let a := { a with events := a.events ++ [event (.getEpisodes ref.arrSeriesId) true] }
      if (seasonFileIds task.season episodes).isEmpty then
        { a with lastError := some ("No Sonarr episode files found for " ++ label task) }
      else
        let request := SonarrRequest.updateSeasonMonitoring ref.arrSeriesId task.season.seasonNumber
        match outcomes.updateSeasonMonitoring candidate.id ref.id with
        | .error e => { a with lastError := some e, events := a.events ++ [event request false] }
        | .ok _ =>
          removeFiles env outcomes settings action task ref client
            { a with used := some (ref, client), events := a.events ++ [event request true] }

/-- The loop over the refs: it ends with the first that deletes the files. -/
def tryRefs (action : ArrDeleteAction) (task : SeasonTask) (refs : List SeriesArrRef) :
    SeasonAttempt :=
  Loops.untilDone SeasonAttempt.deleted (tryRef env outcomes settings action task) refs {}

/-- The media-server client and item that a season can be deleted with. -/
def mediaServerItem (season : Season) : Option String :=
  truthyText (seasonMediaServerId season env.services.mainMediaServerType)

/-- The calls that follow a deletion through Sonarr or the disk. -/
def followUpEvents (action : ArrDeleteAction) (task : SeasonTask) (a : SeasonAttempt) :
    List Event :=
  let candidate := task.candidate
  let synced :=
    if settings.mediaServerFallbackEnabled then
      match mediaServerItem env task.season with
      | some item => [⟨[candidate], .deleteItem item, (outcomes.deleteItem candidate.id).succeeded⟩]
      | none => []
    else []
  let emptied :=
    match a.used with
    | some (ref, client) =>
      if action = .unmonitor then []
      else emptySeriesEvents candidate client ref settings.addArrImportExclusionsOnDelete
        (outcomes.getSeries candidate.id) (outcomes.deleteSeries candidate.id)
    | none => []
  synced ++ emptied

/-- The fallback to the media server when no ref deleted the files: its calls, and the
failure it records. -/
def fallback (task : SeasonTask) (a : SeasonAttempt) : List Event × Option String :=
  if !settings.mediaServerFallbackEnabled then
    let error := a.lastError.getD ""
    ([], some (if error = "" then "Media server fallback disabled for season deletion" else error))
  else
    match mediaServerItem env task.season with
    | none => ([], some "No deletion method available for season")
    | some item =>
      match outcomes.deleteItem task.candidate.id with
      | .ok _ => ([⟨[task.candidate], .deleteItem item, true⟩], none)
      | .error e =>
        ([⟨[task.candidate], .deleteItem item, false⟩],
          some ("Media server season deletion failed: " ++ e))

/-- The database statements after a deletion. -/
def finalize (approvedBy : String) (action : ArrDeleteAction) (task : SeasonTask)
    (db : Tables) : Tables :=
  let db := db.deleteCandidate task.candidate.id
  let db :=
    { db with
      series := db.series.map fun (s : Series) =>
        if s.id = task.series.id then
          { s with size := s.size.map (· - task.season.size.getD 0) }
        else s }
  let db :=
    if (db.findSeason task.season.id).isSome then
      db.deleteSeasonRow env.now task.series.id task.season.id
    else db
  { db with
    history := db.history ++
      [{ approvedBy, mediaType := .series, tmdbId := task.series.tmdbId,
         name := task.series.title ++ " " ++ label task, size := task.season.size,
         action := historyAction action }] }

section Task

-- `rows` are the tables as the handler loaded them, `run.db` as they are now.
variable (rows : Tables)

/-- The arr action of a task. -/
def taskAction (task : SeasonTask) : ArrDeleteAction :=
  getArrAction task.candidate rows.rules
    (coerceArrDeleteFallback settings.defaultArrDeleteBehavior)

/-- The attempt on the refs of a task's series. -/
def taskAttempt (task : SeasonTask) : SeasonAttempt :=
  tryRefs env outcomes settings (taskAction settings rows task) task
    (orderedRefs env settings rows task)

/-- The calls of one task. -/
def taskEvents (task : SeasonTask) : List Event :=
  let a := taskAttempt env outcomes settings rows task
  a.events ++
    if a.deleted then followUpEvents env outcomes settings (taskAction settings rows task) task a
    else (fallback env outcomes settings task a).1

/-- The failure that one task records, if any. -/
def taskFailure (task : SeasonTask) : Option String :=
  let a := taskAttempt env outcomes settings rows task
  if a.deleted then none else (fallback env outcomes settings task a).2

/-- One iteration of the candidate loop. -/
def processTask (approvedBy : String) (run : Run) (task : SeasonTask) : Run :=
  let run := { run with events := run.events ++ taskEvents env outcomes settings rows task }
  match taskFailure env outcomes settings rows task with
  | some error =>
    { run with db := run.db.markCandidateDeleteFailure env.now task.candidate.id error }
  | none =>
    { run with
      db := finalize env approvedBy (taskAction settings rows task) task run.db
      deletedCount := run.deletedCount + 1
      refresh :=
        match (taskAttempt env outcomes settings rows task).used with
        | some (ref, _) => addRefresh run.refresh ref.serviceConfigId ref.arrSeriesId
        | none => run.refresh }

end Task

/-- The tasks of a run: the loaded candidates whose rows are found. -/
def tasks (db : Tables) (restrictToIds : List Nat) : List SeasonTask :=
  (loadCandidates env db restrictToIds).filterMap (taskOf db)

end Season

/-- The candidate loop of `_delete_season_candidates`. -/
def Season.processTasks (env : Environment) (outcomes : SeasonOutcomes) (db : Tables)
    (restrictToIds : List Nat) (approvedBy : String) : Run :=
  (Season.tasks env db restrictToIds).foldl
    (Season.processTask env outcomes db.effectiveSettings db approvedBy) { db }

/-- `_delete_season_candidates`. -/
def deleteSeasonCandidates (env : Environment) (outcomes : SeasonOutcomes) (db : Tables)
    (restrictToIds : List Nat) (approvedBy : String) : Run :=
  let run := Season.processTasks env outcomes db restrictToIds approvedBy
  { run with
    events := run.events ++ sonarrRefreshEvents env.services outcomes.refreshSeries run.refresh }

namespace Season

variable {env : Environment} {outcomes : SeasonOutcomes} {settings : GeneralSettings}
variable {action : ArrDeleteAction} {task : SeasonTask}

/-! ## What one ref can do -/

/-- The calls that remove the files once a ref's season is unmonitored. -/
def removalEvents (env : Environment) (outcomes : SeasonOutcomes) (settings : GeneralSettings)
    (action : ArrDeleteAction) (task : SeasonTask) (ref : SeriesArrRef) (client : ClientId) :
    List Event :=
  if action = .unmonitor then
    match seasonFolder env settings (outcomes.disk task.candidate.id ref.id) task.season ref with
    | none => []
    | some folder =>
      [⟨[task.candidate], .rmtree folder, (outcomes.rmtree task.candidate.id ref.id).succeeded⟩]
  else
    [sonarrEvent task.candidate client ref
      (.deleteSeasonFiles ref.arrSeriesId task.season.seasonNumber)
      (outcomes.deleteSeasonFiles task.candidate.id ref.id).succeeded]

/-- The calls that a ref's turn makes. -/
def refEvents (env : Environment) (outcomes : SeasonOutcomes) (settings : GeneralSettings)
    (action : ArrDeleteAction) (task : SeasonTask) (ref : SeriesArrRef) : List Event :=
  match env.services.refClient ref with
  | none => []
  | some client =>
    let fetched := sonarrEvent task.candidate client ref (.getEpisodes ref.arrSeriesId)
    let unmonitored := sonarrEvent task.candidate client ref
      (.updateSeasonMonitoring ref.arrSeriesId task.season.seasonNumber)
    match outcomes.getEpisodes task.candidate.id ref.id with
    | .error _ => [fetched false]
    | .ok episodes =>
      if (seasonFileIds task.season episodes).isEmpty then [fetched true]
      else
        match outcomes.updateSeasonMonitoring task.candidate.id ref.id with
        | .error _ => [fetched true, unmonitored false]
        | .ok _ =>
          fetched true :: unmonitored true ::
            removalEvents env outcomes settings action task ref client

/-- The removal step succeeds: the folder is found and removed, or Sonarr deletes the
files. -/
def Removes (env : Environment) (outcomes : SeasonOutcomes) (settings : GeneralSettings)
    (action : ArrDeleteAction) (task : SeasonTask) (ref : SeriesArrRef) : Prop :=
  if action = .unmonitor then
    (seasonFolder env settings (outcomes.disk task.candidate.id ref.id) task.season ref).isSome ∧
      (outcomes.rmtree task.candidate.id ref.id).succeeded
  else (outcomes.deleteSeasonFiles task.candidate.id ref.id).succeeded

/-- A ref's turn deletes the files: its instance is reached, lists files of the season, and
the unmonitoring and the removal succeed. -/
def RefDeletes (env : Environment) (outcomes : SeasonOutcomes) (settings : GeneralSettings)
    (action : ArrDeleteAction) (task : SeasonTask) (ref : SeriesArrRef) : Prop :=
  ∃ client episodes, env.services.refClient ref = some client ∧
    outcomes.getEpisodes task.candidate.id ref.id = .ok episodes ∧
    seasonFileIds task.season episodes ≠ [] ∧
    (outcomes.updateSeasonMonitoring task.candidate.id ref.id).succeeded ∧
    Removes env outcomes settings action task ref

theorem removeFiles_spec (env : Environment) (outcomes : SeasonOutcomes)
    (settings : GeneralSettings) (action : ArrDeleteAction) (task : SeasonTask)
    (ref : SeriesArrRef) (client : ClientId) (a : SeasonAttempt) :
    let b := removeFiles env outcomes settings action task ref client a
    b.events = a.events ++ removalEvents env outcomes settings action task ref client ∧
      b.used = a.used ∧
      (b.deleted = true ↔ a.deleted = true ∨ Removes env outcomes settings action task ref) := by
  dsimp only [removeFiles, removalEvents, Removes]
  by_cases haction : action = .unmonitor
  · cases hfolder : seasonFolder env settings (outcomes.disk task.candidate.id ref.id)
      task.season ref with
    | none => simp [haction]
    | some folder =>
      cases outcomes.rmtree task.candidate.id ref.id <;> simp [haction, Outcome.succeeded]
  · cases outcomes.deleteSeasonFiles task.candidate.id ref.id <;>
      simp [haction, Outcome.succeeded]

/-- Everything a ref's turn does to the attempt. -/
theorem tryRef_spec (env : Environment) (outcomes : SeasonOutcomes) (settings : GeneralSettings)
    (action : ArrDeleteAction) (task : SeasonTask) (ref : SeriesArrRef) (a : SeasonAttempt) :
    let b := tryRef env outcomes settings action task ref a
    b.events = a.events ++ refEvents env outcomes settings action task ref ∧
      (b.used = a.used ∨ ∃ client, env.services.refClient ref = some client ∧
        b.used = some (ref, client)) ∧
      (b.deleted = true ↔
        a.deleted = true ∨ RefDeletes env outcomes settings action task ref) := by
  dsimp only [tryRef, refEvents, RefDeletes]
  cases hc : env.services.refClient ref with
  | none => simp
  | some client =>
    cases he : outcomes.getEpisodes task.candidate.id ref.id with
    | error e => simp
    | ok episodes =>
      by_cases hfiles : seasonFileIds task.season episodes = []
      · simp [hfiles]
      · cases hm : outcomes.updateSeasonMonitoring task.candidate.id ref.id with
        | error e => simp [hfiles, Outcome.succeeded]
        | ok u =>
          have hspec := removeFiles_spec env outcomes settings action task ref client
          simp [hfiles, Outcome.succeeded, fun a => (hspec a).1, fun a => (hspec a).2.1,
            fun a => (hspec a).2.2]

theorem tryRef_deleted_iff {ref : SeriesArrRef} {a : SeasonAttempt} (hs : a.deleted = false) :
    (tryRef env outcomes settings action task ref a).deleted = true ↔
      RefDeletes env outcomes settings action task ref := by
  rw [(tryRef_spec ..).2.2, hs]
  simp

/-! ## What the loop over the refs can do -/

section Refs

variable {refs : List SeriesArrRef}

theorem tryRefs_deleted_iff :
    (tryRefs env outcomes settings action task refs).deleted = true ↔
      ∃ ref ∈ refs, RefDeletes env outcomes settings action task ref :=
  Loops.untilDone_done_iff (fun _ _ _ hs => tryRef_deleted_iff hs) rfl

theorem tryRefs_used : ∀ used, (tryRefs env outcomes settings action task refs).used = some used →
    used.1 ∈ refs ∧ env.services.refClient used.1 = some used.2 := by
  refine Loops.untilDone_invariant (P := fun (a : SeasonAttempt) => ∀ used, a.used = some used →
    used.1 ∈ refs ∧ env.services.refClient used.1 = some used.2) ?_ (by simp)
  intro ref href a ha used hused
  rcases (tryRef_spec env outcomes settings action task ref a).2.1 with hold | ⟨client, hclient, hnew⟩
  · exact ha used (hold ▸ hused)
  · rw [hnew, Option.some.injEq] at hused
    rw [← hused]
    exact ⟨href, hclient⟩

theorem tryRefs_events : ∀ e ∈ (tryRefs env outcomes settings action task refs).events,
    ∃ ref ∈ refs, e ∈ refEvents env outcomes settings action task ref := by
  refine Loops.untilDone_invariant (P := fun (a : SeasonAttempt) => ∀ e ∈ a.events,
    ∃ ref ∈ refs, e ∈ refEvents env outcomes settings action task ref) ?_ (by simp)
  intro ref href a ha e he
  rw [(tryRef_spec ..).1] at he
  rcases List.mem_append.mp he with hold | hnew
  · exact ha e hold
  · exact ⟨ref, href, hnew⟩

/-- Every ref is tried when none deletes. -/
theorem tryRefs_visits {ref : SeriesArrRef} (href : ref ∈ refs)
    (hnone : ∀ ref' ∈ refs, ¬RefDeletes env outcomes settings action task ref')
    {e : Event} (he : e ∈ refEvents env outcomes settings action task ref) :
    e ∈ (tryRefs env outcomes settings action task refs).events := by
  refine Loops.untilDone_visits (P := fun (a : SeasonAttempt) => e ∈ a.events) href ?_ ?_ ?_ rfl
  · intro ref' href' a hs
    exact Bool.eq_false_iff.mpr fun hdone => hnone ref' href' ((tryRef_deleted_iff hs).mp hdone)
  · intro ref' a ha
    rw [(tryRef_spec ..).1]
    exact List.mem_append_left _ ha
  · intro a
    rw [(tryRef_spec ..).1]
    exact List.mem_append_right _ he

end Refs

/-! ## The calls of a whole run -/

section Events

variable {rows : Tables} {approvedBy : String} {run : Run}

theorem processTask_events (env : Environment) (outcomes : SeasonOutcomes)
    (settings : GeneralSettings)
    (rows : Tables) (approvedBy : String) (run : Run) (task : SeasonTask) :
    (processTask env outcomes settings rows approvedBy run task).events =
      run.events ++ taskEvents env outcomes settings rows task := by
  dsimp only [processTask]
  split <;> rfl

theorem taskAttempt_used {used : SeriesArrRef × ClientId}
    (h : (taskAttempt env outcomes settings rows task).used = some used) :
    used.1 ∈ seriesRefs rows task.series.id ∧ env.services.refClient used.1 = some used.2 := by
  obtain ⟨href, hclient⟩ := tryRefs_used used h
  exact ⟨(mem_orderSeriesArrRefs ..).mp href, hclient⟩

/-- A configuration is refreshed for a ref that had a client. -/
theorem processTask_refresh {entry : Nat × List Nat}
    (h : entry ∈ (processTask env outcomes settings rows approvedBy run task).refresh) :
    (∃ old ∈ run.refresh, old.1 = entry.1) ∨ ∃ ref ∈ seriesRefs rows task.series.id,
      (env.services.refClient ref).isSome ∧ entry.1 = ref.serviceConfigId := by
  dsimp only [processTask] at h
  split at h
  · exact Or.inl ⟨entry, h, rfl⟩
  · cases hused : (taskAttempt env outcomes settings rows task).used with
    | none =>
      rw [hused] at h
      exact Or.inl ⟨entry, h, rfl⟩
    | some used =>
      rw [hused] at h
      obtain ⟨href, hclient⟩ := taskAttempt_used hused
      rcases addRefresh_config h with hconfig | hold
      · exact Or.inr ⟨used.1, href, by simp [hclient], hconfig⟩
      · exact Or.inl hold

end Events

section Run

variable {db : Tables} {restrictToIds : List Nat} {approvedBy : String}

theorem mem_events {e : Event} :
    e ∈ (deleteSeasonCandidates env outcomes db restrictToIds approvedBy).events ↔
      (∃ task ∈ tasks env db restrictToIds,
        e ∈ taskEvents env outcomes db.effectiveSettings db task) ∨
      e ∈ sonarrRefreshEvents env.services outcomes.refreshSeries
        (processTasks env outcomes db restrictToIds approvedBy).refresh := by
  have htrace := Loops.foldl_trace
    (processTask_events env outcomes db.effectiveSettings db approvedBy)
    (tasks env db restrictToIds) { db }
  simp only [deleteSeasonCandidates, List.mem_append]
  rw [processTasks, htrace]
  simp

/-- Only configurations of refs that had a client are refreshed. -/
theorem processTasks_refresh :
    ∀ entry ∈ (processTasks env outcomes db restrictToIds approvedBy).refresh,
    ∃ task ∈ tasks env db restrictToIds, ∃ ref ∈ seriesRefs db task.series.id,
      (env.services.refClient ref).isSome ∧ entry.1 = ref.serviceConfigId := by
  refine Loops.foldl_invariant (P := fun (run : Run) => ∀ entry ∈ run.refresh,
    ∃ task ∈ tasks env db restrictToIds, ∃ ref ∈ seriesRefs db task.series.id,
      (env.services.refClient ref).isSome ∧ entry.1 = ref.serviceConfigId) ?_ (by simp)
  intro task htask run hrun entry hentry
  rcases processTask_refresh hentry with ⟨old, hold, hconfig⟩ | ⟨ref, href, hclient, hconfig⟩
  · obtain ⟨task', htask', ref, href, hclient, hold'⟩ := hrun old hold
    exact ⟨task', htask', ref, href, hclient, hconfig ▸ hold'⟩
  · exact ⟨task, htask, ref, href, hclient, hconfig⟩

end Run

end Season

end MediaMasterr.Deletion
