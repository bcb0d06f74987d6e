import MediaMasterr.Deletion.Season

/-! # Episode deletion

`_delete_episode_candidates`: one candidate at a time, the file of the first
Sonarr entry that carries its numbers, ref after ref, then the media server. -/

namespace MediaMasterr.Deletion

open MediaMasterr.Foundations MediaMasterr.Database MediaMasterr.Filesystem

/-- The outcomes of a run: candidate id, then ref id where the call is made for a ref. -/
structure EpisodeOutcomes where
  getEpisodes : Nat → Nat → Outcome (List SonarrEpisode) := fun _ _ => .ok []
  unmonitorEpisode : Nat → Nat → Outcome Unit := fun _ _ => .ok ()
  deleteEpisodeFile : Nat → Nat → Outcome Unit := fun _ _ => .ok ()
  getSeries : Nat → Outcome (List (Option Nat)) := fun _ => .ok []
  deleteSeries : Nat → Outcome Unit := fun _ => .ok ()
  deleteItem : Nat → Outcome Unit := fun _ => .ok ()
  refreshSeries : Nat → Bool := fun _ => true

/-- A candidate with the rows its loop iteration reads. -/
structure EpisodeTask where
  candidate : ReclaimCandidate
  episode : Episode
  season : Season
  series : Series

/-- `_episode_media_server_id`. -/
def episodeMediaServerId (episode : Episode) : Option Service → Option String
  | some .jellyfin => episode.jellyfinEpisodeId
  | some .emby => episode.embyEpisodeId
  | some .plex => episode.plexRatingKey
  | _ => none

/-- What the loop over the refs has found so far. -/
structure EpisodeAttempt where
  used : Option (SeriesArrRef × ClientId) := none
  lastError : Option String := none
  events : List Event := []

/-- `deleted_via_sonarr`: the ref and the client are kept on success only. -/
def EpisodeAttempt.deleted (a : EpisodeAttempt) : Bool := a.used.isSome

namespace Episode

variable (env : Environment) (outcomes : EpisodeOutcomes) (settings : GeneralSettings)

/-- The candidates that the query selects, less the favorites. -/
def loadCandidates (db : Tables) (restrictToIds : List Nat) : List ReclaimCandidate :=
  let joined := db.candidates.filter fun c =>
    c.mediaType = .series ∧ isEpisodeScope c.episodeId ∧
      (c.episodeId.bind db.findEpisode).isSome ∧ (c.seasonId.bind db.findSeason).isSome ∧
      ((c.seriesId.bind db.findSeries).any fun series => series.removedAt.isNone)
  filterSeriesCandidatesByFavorites env.caseTables db (restrictTo restrictToIds joined)

/-- The episode, season and series of a candidate, when the three ids resolve. -/
def taskOf (db : Tables) (candidate : ReclaimCandidate) : Option EpisodeTask :=
  match candidate.episodeId.bind db.findEpisode, candidate.seasonId.bind db.findSeason,
    candidate.seriesId.bind db.findSeries with
  | some episode, some season, some series => some ⟨candidate, episode, season, series⟩
  | _, _, _ => none

/-- The refs of the task's series in the order in which they are tried. -/
def orderedRefs (db : Tables) (task : EpisodeTask) : List SeriesArrRef :=
  orderSeriesArrRefs settings.pathMappings env.services.mainMediaServerType
    (task.episode.path :: task.season.path :: task.season.episodePaths.map some)
    (seriesRefs db task.series.id)

def label (task : EpisodeTask) : String :=
  "S" ++ twoDigits task.season.seasonNumber ++ "E" ++ twoDigits task.episode.episodeNumber

/-- `matching`: the Sonarr entries with the numbers of the episode. -/
def matching (task : EpisodeTask) (episodes : List SonarrEpisode) : List SonarrEpisode :=
  episodes.filter fun ep => ep.seasonNumber = some task.season.seasonNumber ∧
    ep.episodeNumber = some task.episode.episodeNumber

/-- The calls that remove one episode file through a ref, and the error that stopped
them. -/
def removeFile (action : ArrDeleteAction) (task : EpisodeTask) (ref : SeriesArrRef)
    (client : ClientId) (entry : SonarrEpisode) (fileId : Nat) : List Event × Option String :=
  let candidate := task.candidate
  let event := fun request ok => sonarrEvent candidate client ref request ok
  let deleteFile : List Event × Option String :=
    match outcomes.deleteEpisodeFile candidate.id ref.id with
    | .ok _ => ([event (.deleteEpisodeFile fileId) true], none)
    | .error e => ([event (.deleteEpisodeFile fileId) false], some e)
  match truthyId entry.id with
  | some episodeId =>
    if action = .unmonitor then
      match outcomes.unmonitorEpisode candidate.id ref.id with
      | .ok _ => (event (.unmonitorEpisode episodeId) true :: deleteFile.1, deleteFile.2)
      | .error e => ([event (.unmonitorEpisode episodeId) false], some e)
    else deleteFile
  | none => deleteFile

/-- One iteration of the loop over the refs. -/
def tryRef (action : ArrDeleteAction) (task : EpisodeTask) (ref : SeriesArrRef)
    (a : EpisodeAttempt) : EpisodeAttempt :=
  match env.services.refClient ref with
  | none => a
  | some client =>
    let candidate := task.candidate
    let fetched := sonarrEvent candidate client ref (.getEpisodes ref.arrSeriesId)
    match outcomes.getEpisodes candidate.id ref.id with
    | .error e => { a with lastError := some e, events := a.events ++ [fetched false] }
    | .ok episodes =>
      let a := { a with events := a.events ++ [fetched true] }
      match matching task episodes with
      | [] => { a with lastError := some ("No Sonarr episode found for " ++ label task) }
      | entry :: _ =>
        match truthyId entry.episodeFileId with
        | none => { a with lastError := some ("No episode file in Sonarr for " ++ label task) }
        | some fileId =>
          let (events, error) := removeFile outcomes action task ref client entry fileId
          let a := { a with events := a.events ++ events }
          match error with
          | none => { a with used := some (ref, client) }
          | some e => { a with lastError := some e }

/-- The loop over the refs: it ends with the first that deletes the file. -/
def tryRefs (action : ArrDeleteAction) (task : EpisodeTask) (refs : List SeriesArrRef) :
    EpisodeAttempt :=
  Loops.untilDone EpisodeAttempt.deleted (tryRef env outcomes action task) refs {}

/-- The media-server client and item that an episode can be deleted with. -/
def mediaServerItem (episode : Episode) : Option String :=
  truthyText (episodeMediaServerId episode env.services.mainMediaServerType)

/-- The calls that follow a deletion through Sonarr: the media-server item goes whatever the
fallback setting. -/
def followUpEvents (action : ArrDeleteAction) (task : EpisodeTask) (a : EpisodeAttempt) :
    List Event :=
  let candidate := task.candidate
  let synced : List Event :=
    match mediaServerItem env task.episode with
    | some item => [⟨[candidate], .deleteItem item, (outcomes.deleteItem candidate.id).succeeded⟩]
    | none => []
  let emptied :=
    match a.used with
    | some (ref, client) =>
      if action = .removeIfEmpty then
        emptySeriesEvents candidate client ref settings.addArrImportExclusionsOnDelete
          (outcomes.getSeries candidate.id) (outcomes.deleteSeries candidate.id)
      else []
    | none => []
  synced ++ emptied

/-- The fallback to the media server when no ref deleted the file: its calls, and the
failure it records. -/
def fallback (task : EpisodeTask) (a : EpisodeAttempt) : List Event × Option String :=
  let error := a.lastError.getD ""
  if !settings.mediaServerFallbackEnabled then
    ([], some (if error = "" then "Media server fallback disabled for episode deletion" else error))
  else
    match mediaServerItem env task.episode with
    | none =>
      ([], some (if error = "" then "No deletion method available for episode" else error))
    | some item =>
      match outcomes.deleteItem task.candidate.id with
      | .ok _ => ([⟨[task.candidate], .deleteItem item, true⟩], none)
      | .error e =>
        ([⟨[task.candidate], .deleteItem item, false⟩],
          some ("Media server episode deletion failed: " ++ e))

/-- The size that the season and the series lose: that of the row as it is now, else as it
was loaded. -/
def deletedSize (db : Tables) (task : EpisodeTask) : Option Nat :=
  match (db.findEpisode task.episode.id).bind (·.size) with
  | some size => some size
  | none => task.episode.size

/-- The database statements after a deletion. -/
def finalize (approvedBy : String) (action : ArrDeleteAction) (task : EpisodeTask)
    (db : Tables) : Tables :=
  let size := deletedSize db task
  let db := db.deleteCandidate task.candidate.id
  let db :=
    if (db.findEpisode task.episode.id).isSome then db.deleteEpisodeRow task.episode.id else db
  let db :=
    { db with
      seasons := db.seasons.map fun (s : Database.Season) =>
        if s.id = task.season.id then
          { s with
            size := s.size.map (· - size.getD 0)
            episodeCount := s.episodeCount.map (· - 1) }
        else s
      series := db.series.map fun (s : Series) =>
        if s.id = task.series.id then { s with size := s.size.map (· - size.getD 0) } else s }
  let db :=
    if (db.findSeason task.season.id).isSome ∧ !db.episodes.any (·.seasonId == task.season.id) then
      db.deleteSeasonRow env.now task.series.id task.season.id
    else db
  { db with
    history := db.history ++
      [{ approvedBy, mediaType := .series, tmdbId := task.series.tmdbId,
         name := task.series.title ++ " " ++ label task, size, action := historyAction action }] }

section Task

-- `rows` are the tables as the handler loaded them, `run.db` as they are now.
variable (rows : Tables)

/-- The arr action of a task. -/
def taskAction (task : EpisodeTask) : ArrDeleteAction :=
  getArrAction task.candidate rows.rules
    (coerceArrDeleteFallback settings.defaultArrDeleteBehavior)

/-- The attempt on the refs of a task's series. -/
def taskAttempt (task : EpisodeTask) : EpisodeAttempt :=
  tryRefs env outcomes (taskAction settings rows task) task
    (orderedRefs env settings rows task)

/-- The calls of one task. -/
def taskEvents (task : EpisodeTask) : List Event :=
  let a := taskAttempt env outcomes settings rows task
  a.events ++
    if a.deleted then followUpEvents env outcomes settings (taskAction settings rows task) task a
    else (fallback env outcomes settings task a).1

/-- The failure that one task records, if any. -/
def taskFailure (task : EpisodeTask) : Option String :=
  let a := taskAttempt env outcomes settings rows task
  if a.deleted then none else (fallback env outcomes settings task a).2

/-- One iteration of the candidate loop. -/
def processTask (approvedBy : String) (run : Run) (task : EpisodeTask) : Run :=
  let run := { run with events := run.events ++ taskEvents env outcomes settings rows task }
  match taskFailure env outcomes settings rows task with
  | some error =>
    { run with db := run.db.markCandidateDeleteFailure env.now task.candidate.id error }
  | none =>
    { run with
      db := finalize env approvedBy (taskAction settings rows task) task run.db
      deletedCount := run.deletedCount + 1
      refresh :=
        match (taskAttempt env outcomes settings rows task).used with
        | some (ref, _) => addRefresh run.refresh ref.serviceConfigId ref.arrSeriesId
        | none => run.refresh }

end Task

/-- The tasks of a run: the loaded candidates whose rows are found. -/
def tasks (db : Tables) (restrictToIds : List Nat) : List EpisodeTask :=
  (loadCandidates env db restrictToIds).filterMap (taskOf db)

end Episode

/-- The candidate loop of `_delete_episode_candidates`. -/
def Episode.processTasks (env : Environment) (outcomes : EpisodeOutcomes) (db : Tables)
    (restrictToIds : List Nat) (approvedBy : String) : Run :=
  (Episode.tasks env db restrictToIds).foldl
    (Episode.processTask env outcomes db.effectiveSettings db approvedBy) { db }

/-- `_delete_episode_candidates`. -/
def deleteEpisodeCandidates (env : Environment) (outcomes : EpisodeOutcomes) (db : Tables)
    (restrictToIds : List Nat) (approvedBy : String) : Run :=
  let run := Episode.processTasks env outcomes db restrictToIds approvedBy
  { run with
    events := run.events ++ sonarrRefreshEvents env.services outcomes.refreshSeries run.refresh }

namespace Episode

variable {env : Environment} {outcomes : EpisodeOutcomes} {settings : GeneralSettings}
variable {action : ArrDeleteAction} {task : EpisodeTask} {ref : SeriesArrRef}
variable {a : EpisodeAttempt}

/-! ## What one ref can do -/

/-- The file that the handler removes for a task, from an inventory: that of the first
matching entry. -/
def chosenFile (task : EpisodeTask) (episodes : List SonarrEpisode) :
    Option (SonarrEpisode × Nat) :=
  match matching task episodes with
  | [] => none
  | entry :: _ => (truthyId entry.episodeFileId).map fun fileId => (entry, fileId)

/-- The calls that a ref's turn makes. -/
def refEvents (env : Environment) (outcomes : EpisodeOutcomes) (action : ArrDeleteAction)
    (task : EpisodeTask) (ref : SeriesArrRef) : List Event :=
  match env.services.refClient ref with
  | none => []
  | some client =>
    let fetched := sonarrEvent task.candidate client ref (.getEpisodes ref.arrSeriesId)
    match outcomes.getEpisodes task.candidate.id ref.id with
    | .error _ => [fetched false]
    | .ok episodes =>
      match chosenFile task episodes with
      | none => [fetched true]
      | some (entry, fileId) =>
        fetched true :: (removeFile outcomes action task ref client entry fileId).1

/-- A ref's turn deletes the file: its instance is reached, lists the episode with a file,
and the deletion (after the unmonitoring, where that is asked for) succeeds. -/
def RefDeletes (env : Environment) (outcomes : EpisodeOutcomes) (action : ArrDeleteAction)
    (task : EpisodeTask) (ref : SeriesArrRef) : Prop :=
  ∃ client episodes entry fileId, env.services.refClient ref = some client ∧
    outcomes.getEpisodes task.candidate.id ref.id = .ok episodes ∧
    chosenFile task episodes = some (entry, fileId) ∧
    (action = .unmonitor → (truthyId entry.id).isSome →
      (outcomes.unmonitorEpisode task.candidate.id ref.id).succeeded) ∧
    (outcomes.deleteEpisodeFile task.candidate.id ref.id).succeeded

theorem removeFile_error_eq_none_iff (outcomes : EpisodeOutcomes) (action : ArrDeleteAction)
    (task : EpisodeTask) (ref : SeriesArrRef) (client : ClientId) (entry : SonarrEpisode)
    (fileId : Nat) :
    (removeFile outcomes action task ref client entry fileId).2 = none ↔
      (action = .unmonitor → (truthyId entry.id).isSome →
        (outcomes.unmonitorEpisode task.candidate.id ref.id).succeeded) ∧
      (outcomes.deleteEpisodeFile task.candidate.id ref.id).succeeded := by
  dsimp only [removeFile]
  cases truthyId entry.id with
  | none => cases outcomes.deleteEpisodeFile task.candidate.id ref.id <;> simp [Outcome.succeeded]
  | some episodeId =>
    by_cases h : action = .unmonitor
    · cases outcomes.unmonitorEpisode task.candidate.id ref.id <;>
        cases outcomes.deleteEpisodeFile task.candidate.id ref.id <;>
        simp [h, Outcome.succeeded]
    · cases outcomes.deleteEpisodeFile task.candidate.id ref.id <;> simp [h, Outcome.succeeded]

/-- Everything a ref's turn does to the attempt. -/
theorem tryRef_spec (env : Environment) (outcomes : EpisodeOutcomes) (action : ArrDeleteAction)
    (task : EpisodeTask) (ref : SeriesArrRef) (a : EpisodeAttempt) :
    (tryRef env outcomes action task ref a).events =
        a.events ++ refEvents env outcomes action task ref ∧
      ((RefDeletes env outcomes action task ref ∧
          ∃ client, env.services.refClient ref = some client ∧
            (tryRef env outcomes action task ref a).used = some (ref, client)) ∨
        (¬RefDeletes env outcomes action task ref ∧
          (tryRef env outcomes action task ref a).used = a.used)) := by
  dsimp only [tryRef, refEvents, RefDeletes, chosenFile]
  cases hc : env.services.refClient ref with
  | none => simp
  | some client =>
    cases he : outcomes.getEpisodes task.candidate.id ref.id with
    | error e => simp
    | ok episodes =>
      cases hm : matching task episodes with
      | nil => simp [hm]
      | cons entry rest =>
        cases hf : truthyId entry.episodeFileId with
        | none => simp [hm, hf]
        | some fileId =>
          have herr := removeFile_error_eq_none_iff outcomes action task ref client entry fileId
          cases hr : (removeFile outcomes action task ref client entry fileId).2 with
          | none => simp [hm, hf, hr, ← herr]
          | some e => simp [hm, hf, hr, ← herr]

theorem tryRef_deleted_iff (hs : a.deleted = false) :
    (tryRef env outcomes action task ref a).deleted = true ↔
      RefDeletes env outcomes action task ref := by
  rcases (tryRef_spec env outcomes action task ref a).2 with ⟨hdel, client, -, hused⟩ | ⟨hnot, hused⟩
  · simp [EpisodeAttempt.deleted, hused, hdel]
  · have hnone : (tryRef env outcomes action task ref a).deleted = false := by
      rw [← hs, EpisodeAttempt.deleted, EpisodeAttempt.deleted, hused]
    simp [hnone, hnot]

/-! ## What the loop over the refs can do -/

section Refs

variable {refs : List SeriesArrRef}

theorem tryRefs_deleted_iff :
    (tryRefs env outcomes action task refs).deleted = true ↔
      ∃ ref ∈ refs, RefDeletes env outcomes action task ref :=
  Loops.untilDone_done_iff (fun _ _ _ hs => tryRef_deleted_iff hs) rfl

theorem tryRefs_used : ∀ used, (tryRefs env outcomes action task refs).used = some used →
    used.1 ∈ refs ∧ env.services.refClient used.1 = some used.2 := by
  refine Loops.untilDone_invariant (P := fun (a : EpisodeAttempt) => ∀ used, a.used = some used →
    used.1 ∈ refs ∧ env.services.refClient used.1 = some used.2) ?_ (by simp)
  intro ref href a ha used hused
  rcases (tryRef_spec env outcomes action task ref a).2 with ⟨-, client, hclient, hnew⟩ | ⟨-, hold⟩
  · rw [hnew, Option.some.injEq] at hused
    rw [← hused]
    exact ⟨href, hclient⟩
  · exact ha used (hold ▸ hused)

theorem tryRefs_events : ∀ e ∈ (tryRefs env outcomes action task refs).events,
    ∃ ref ∈ refs, e ∈ refEvents env outcomes action task ref := by
  refine Loops.untilDone_invariant (P := fun (a : EpisodeAttempt) => ∀ e ∈ a.events,
    ∃ ref ∈ refs, e ∈ refEvents env outcomes action task ref) ?_ (by simp)
  intro ref href a ha e he
  rw [(tryRef_spec ..).1] at he
  rcases List.mem_append.mp he with hold | hnew
  · exact ha e hold
  · exact ⟨ref, href, hnew⟩

/-- Every ref is tried when none deletes. -/
theorem tryRefs_visits {ref : SeriesArrRef} (href : ref ∈ refs)
    (hnone : ∀ ref' ∈ refs, ¬RefDeletes env outcomes action task ref')
    {e : Event} (he : e ∈ refEvents env outcomes action task ref) :
    e ∈ (tryRefs env outcomes action task refs).events := by
  refine Loops.untilDone_visits (P := fun (a : EpisodeAttempt) => e ∈ a.events) href ?_ ?_ ?_ rfl
  · intro ref' href' a hs
    exact Bool.eq_false_iff.mpr fun hdone => hnone ref' href' ((tryRef_deleted_iff hs).mp hdone)
  · intro ref' a ha
    rw [(tryRef_spec ..).1]
    exact List.mem_append_left _ ha
  · intro a
    rw [(tryRef_spec ..).1]
    exact List.mem_append_right _ he

/-- A successful attempt ends with a ref that deletes, and makes all of its calls. -/
theorem tryRefs_ends (h : (tryRefs env outcomes action task refs).deleted = true) :
    ∃ ref ∈ refs, RefDeletes env outcomes action task ref ∧
      ∀ e ∈ refEvents env outcomes action task ref,
        e ∈ (tryRefs env outcomes action task refs).events := by
  obtain ⟨ref, href, a, ha, heq⟩ := Loops.untilDone_ends rfl h
  have hresult : tryRefs env outcomes action task refs = tryRef env outcomes action task ref a :=
    heq
  refine ⟨ref, href, (tryRef_deleted_iff ha).mp (hresult ▸ h), fun e he => ?_⟩
  rw [hresult, (tryRef_spec ..).1]
  exact List.mem_append_right _ he

end Refs

/-! ## The calls of a whole run -/

section Events

variable {rows : Tables} {approvedBy : String} {run : Run}

theorem processTask_events (env : Environment) (outcomes : EpisodeOutcomes)
    (settings : GeneralSettings)
    (rows : Tables) (approvedBy : String) (run : Run) (task : EpisodeTask) :
    (processTask env outcomes settings rows approvedBy run task).events =
      run.events ++ taskEvents env outcomes settings rows task := by
  dsimp only [processTask]
  split <;> rfl

theorem taskAttempt_used {used : SeriesArrRef × ClientId}
    (h : (taskAttempt env outcomes settings rows task).used = some used) :
    used.1 ∈ seriesRefs rows task.series.id ∧ env.services.refClient used.1 = some used.2 := by
  obtain ⟨href, hclient⟩ := tryRefs_used used h
  exact ⟨(mem_orderSeriesArrRefs ..).mp href, hclient⟩

/-- A configuration is refreshed for a ref that had a client. -/
theorem processTask_refresh {entry : Nat × List Nat}
    (h : entry ∈ (processTask env outcomes settings rows approvedBy run task).refresh) :
    (∃ old ∈ run.refresh, old.1 = entry.1) ∨ ∃ ref ∈ seriesRefs rows task.series.id,
      (env.services.refClient ref).isSome ∧ entry.1 = ref.serviceConfigId := by
  dsimp only [processTask] at h
  split at h
  · exact Or.inl ⟨entry, h, rfl⟩
  · cases hused : (taskAttempt env outcomes settings rows task).used with
    | none =>
      rw [hused] at h
      exact Or.inl ⟨entry, h, rfl⟩
    | some used =>
      rw [hused] at h
      obtain ⟨href, hclient⟩ := taskAttempt_used hused
      rcases addRefresh_config h with hconfig | hold
      · exact Or.inr ⟨used.1, href, by simp [hclient], hconfig⟩
      · exact Or.inl hold

end Events

section Run

variable {db : Tables} {restrictToIds : List Nat} {approvedBy : String}

theorem mem_events {e : Event} :
    e ∈ (deleteEpisodeCandidates env outcomes db restrictToIds approvedBy).events ↔
      (∃ task ∈ tasks env db restrictToIds,
        e ∈ taskEvents env outcomes db.effectiveSettings db task) ∨
      e ∈ sonarrRefreshEvents env.services outcomes.refreshSeries
        (processTasks env outcomes db restrictToIds approvedBy).refresh := by
  have htrace := Loops.foldl_trace
    (processTask_events env outcomes db.effectiveSettings db approvedBy)
    (tasks env db restrictToIds) { db }
  simp only [deleteEpisodeCandidates, List.mem_append]
  rw [processTasks, htrace]
  simp

/-- Only configurations of refs that had a client are refreshed. -/
theorem processTasks_refresh :
    ∀ entry ∈ (processTasks env outcomes db restrictToIds approvedBy).refresh,
    ∃ task ∈ tasks env db restrictToIds, ∃ ref ∈ seriesRefs db task.series.id,
      (env.services.refClient ref).isSome ∧ entry.1 = ref.serviceConfigId := by
  refine Loops.foldl_invariant (P := fun (run : Run) => ∀ entry ∈ run.refresh,
    ∃ task ∈ tasks env db restrictToIds, ∃ ref ∈ seriesRefs db task.series.id,
      (env.services.refClient ref).isSome ∧ entry.1 = ref.serviceConfigId) ?_ (by simp)
  intro task htask run hrun entry hentry
  rcases processTask_refresh hentry with ⟨old, hold, hconfig⟩ | ⟨ref, href, hclient, hconfig⟩
  · obtain ⟨task', htask', ref, href, hclient, hold'⟩ := hrun old hold
    exact ⟨task', htask', ref, href, hclient, hconfig ▸ hold'⟩
  · exact ⟨task, htask, ref, href, hclient, hconfig⟩

end Run

end Episode

end MediaMasterr.Deletion
