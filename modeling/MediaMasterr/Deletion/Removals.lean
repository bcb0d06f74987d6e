import MediaMasterr.Deletion.Series

/-! # Records of removal and files

A series or movie that a run records as removed should have lost files in that
run. The move before a deletion and the clean-up after an unmonitoring swallow
their failures, so the record holds exactly when one of their steps succeeds. -/

namespace MediaMasterr.Deletion

open MediaMasterr.Foundations MediaMasterr.Database MediaMasterr.Filesystem

namespace Series

variable {env : Environment} {outcomes : SeriesOutcomes} {db : Tables}
variable {candidates : List ReclaimCandidate} {approvedBy : String} {seriesId : Nat}

/-- The calls for a candidate of the series. -/
abbrev OfSeries (seriesId : Nat) (c : ReclaimCandidate) : Prop := c.seriesId = some seriesId

/-! ## Which calls remove files -/

/-- The entry's turn in a delete batch removes or moves files. -/
def JobRemoves (outcomes : SeriesOutcomes) (db : Tables) (config : Nat) (job : SeriesJob) : Prop :=
  if moveDestination db.effectiveSettings = none then
    (outcomes.deleteSeries config job.seriesId job.sonarrId).succeeded
  else (moveSource outcomes db config job).isSome ∧
    (outcomes.moveDirectory config job.seriesId job.sonarrId).succeeded

/-- The clean-up of an unmonitored series removes files. -/
def CleansUp (env : Environment) (outcomes : SeriesOutcomes) (db : Tables) (seriesId : Nat) :
    Prop :=
  ((seriesFolder outcomes db seriesId).isSome ∧ (outcomes.rmtree seriesId).succeeded) ∨
    ((mediaServerItem env db seriesId).isSome ∧ (outcomes.deleteItem seriesId).succeeded)

theorem removesFiles_deleteJobEvents {covers : ReclaimCandidate → Prop} {client : ClientId}
    {config : Nat} {job : SeriesJob} :
    RemovesFiles covers (deleteJobEvents outcomes db client config job) ↔
      JobRemoves outcomes db config job ∧ covers job.candidate := by
  dsimp only [deleteJobEvents, JobRemoves]
  cases hmove : moveDestination db.effectiveSettings with
  | none => simp [Call.removesFiles]
  | some destination =>
    cases moveSource outcomes db config job <;> simp [Call.removesFiles]

theorem removesFiles_cleanUpEvents {covers : ReclaimCandidate → Prop} {job : SeriesJob} :
    RemovesFiles covers (cleanUpEvents env outcomes db job) ↔
      CleansUp env outcomes db job.seriesId ∧ covers job.candidate := by
  unfold cleanUpEvents CleansUp
  cases seriesFolder outcomes db job.seriesId <;>
    cases mediaServerItem env db job.seriesId <;> simp [Call.removesFiles, or_and_right]

theorem removesFiles_fallbackEvents {c : ReclaimCandidate} {job : SeriesJob}
    (h : fallbackJob env outcomes db c = some job) :
    c = job.candidate ∧ c.seriesId = some job.seriesId ∧
      RemovesFiles (OfSeries job.seriesId) (fallbackEvents env outcomes db c) := by
  unfold fallbackJob at h
  split at h
  · exact absurd h (by simp)
  · rename_i seriesId item hitem
    split_ifs at h with hok
    obtain ⟨series, hseries, rfl⟩ := Option.map_eq_some_iff.mp h
    have hid : c.seriesId = some seriesId := by
      unfold fallbackItem at hitem
      split at hitem
      · rename_i id service hid hservice
        split_ifs at hitem
        obtain ⟨ref, -, href⟩ := Option.map_eq_some_iff.mp hitem
        rw [hid, (Prod.mk.inj href).1]
      · exact absurd hitem (by simp)
    refine ⟨rfl, hid, ?_⟩
    simpa [fallbackEvents, hitem, hok, Call.removesFiles] using hid

theorem ofSeries_of_removesFiles_fallbackEvents {c : ReclaimCandidate}
    (h : RemovesFiles (OfSeries seriesId) (fallbackEvents env outcomes db c)) :
    c.seriesId = some seriesId := by
  unfold fallbackEvents at h
  split at h
  · simp at h
  · simp only [succeeds_cons, List.mem_singleton, exists_eq_left, succeeds_nil, or_false] at h
    exact h.2.2

theorem attempted_eq {config : Nat} {batch : List SeriesJob}
    (h : batchError outcomes config batch = none) : attempted outcomes config batch = batch ∧
      ∀ job ∈ batch, (outcomes.deleteSeries config job.seriesId job.sonarrId).succeeded := by
  induction batch with
  | nil => simp [attempted]
  | cons job batch ih =>
    rw [batchError] at h
    cases hdelete : outcomes.deleteSeries config job.seriesId job.sonarrId with
    | error e => simp [hdelete] at h
    | ok _ =>
      rw [hdelete] at h
      obtain ⟨hattempted, hall⟩ := ih h
      simp [attempted, hdelete, hattempted, Outcome.succeeded]
      exact hall

theorem mem_of_mem_attempted {config : Nat} {batch : List SeriesJob} {job : SeriesJob}
    (h : job ∈ attempted outcomes config batch) : job ∈ batch := by
  induction batch with
  | nil => exact h
  | cons job' batch ih =>
    rw [attempted] at h
    split_ifs at h
    · rcases List.mem_cons.mp h with rfl | h
      · exact List.mem_cons_self
      · exact List.mem_cons_of_mem _ (ih h)
    · exact List.mem_singleton.mp h ▸ List.mem_cons_self

/-! ## Removal records -/

/-- A delete batch with this series raises no exception. -/
def DeletedInBatch (env : Environment) (outcomes : SeriesOutcomes) (db : Tables)
    (candidates : List ReclaimCandidate) (seriesId : Nat) : Prop :=
  ∃ config, batchError outcomes config (batch env db candidates false config) = none ∧
    ∃ job ∈ batch env db candidates false config, job.seriesId = seriesId

/-- An unmonitor batch with this series raises no exception. -/
def UnmonitoredInBatch (env : Environment) (outcomes : SeriesOutcomes) (db : Tables)
    (candidates : List ReclaimCandidate) (seriesId : Nat) : Prop :=
  ∃ config, (outcomes.unmonitorSeries config).succeeded ∧
    ∃ job ∈ batch env db candidates true config, job.seriesId = seriesId

/-- The directory of the series is moved before some entry of a delete batch is deleted. -/
def DirectoryMoved (env : Environment) (outcomes : SeriesOutcomes) (db : Tables)
    (candidates : List ReclaimCandidate) (seriesId : Nat) : Prop :=
  ∃ config, ∃ job ∈ attempted outcomes config (batch env db candidates false config),
    job.seriesId = seriesId ∧ (moveSource outcomes db config job).isSome ∧
      (outcomes.moveDirectory config seriesId job.sonarrId).succeeded

/-- Whenever a batch that moves directories, or one that unmonitors, is handled, a file step
for each of its series succeeds. -/
def RemovalsBacked (env : Environment) (outcomes : SeriesOutcomes) (db : Tables)
    (candidates : List ReclaimCandidate) : Prop :=
  ∀ seriesId,
    (moveDestination db.effectiveSettings ≠ none →
      DeletedInBatch env outcomes db candidates seriesId →
        DirectoryMoved env outcomes db candidates seriesId) ∧
    (UnmonitoredInBatch env outcomes db candidates seriesId →
      CleansUp env outcomes db seriesId)

theorem exists_mem_deletedJobs (h : DeletedInBatch env outcomes db candidates seriesId) :
    ∃ job ∈ deletedJobs env outcomes db candidates, job.seriesId = seriesId := by
  obtain ⟨config, herror, job, hjob, rfl⟩ := h
  obtain ⟨-, -, -, hconfig, hclient⟩ := mem_batch hjob
  refine exists_mem_firstOfEach (BatchRoute.mem_handled.mpr ⟨config, hconfig, ?_, hjob⟩)
  simp [BatchRoute.handles, deleteRoute, hclient, herror]

theorem exists_mem_unmonitoredJobs (approvedBy : String)
    (h : UnmonitoredInBatch env outcomes db candidates seriesId) :
    ∃ job ∈ unmonitoredJobs env outcomes db approvedBy candidates, job.seriesId = seriesId := by
  obtain ⟨config, hok, job, hjob, rfl⟩ := h
  obtain ⟨-, -, -, hconfig, hclient⟩ := mem_batch hjob
  refine exists_mem_firstOfEach (BatchRoute.mem_handled.mpr ⟨config, hconfig, ?_, hjob⟩)
  simp [BatchRoute.handles, unmonitorRoute, hclient, hok]

theorem deletedInBatch_of_mem {job : SeriesJob}
    (h : job ∈ deletedJobs env outcomes db candidates) :
    job.candidate.seriesId = some job.seriesId ∧ job.candidate ∈ candidates ∧
      DeletedInBatch env outcomes db candidates job.seriesId := by
  obtain ⟨config, -, hhandles, hjob⟩ := mem_deletedJobs h
  obtain ⟨hcandidate, hseries, -⟩ := mem_batch hjob
  simp only [BatchRoute.handles, deleteRoute, Bool.and_eq_true,
    Option.isNone_iff_eq_none] at hhandles
  exact ⟨hseries, hcandidate, config, hhandles.2, job, hjob, rfl⟩

theorem unmonitoredInBatch_of_mem {job : SeriesJob}
    (h : job ∈ unmonitoredJobs env outcomes db approvedBy candidates) :
    job.candidate.seriesId = some job.seriesId ∧ job.candidate ∈ candidates ∧
      UnmonitoredInBatch env outcomes db candidates job.seriesId := by
  obtain ⟨config, -, hhandles, hjob⟩ := mem_unmonitoredJobs h
  obtain ⟨hcandidate, hseries, -⟩ := mem_batch hjob
  simp only [BatchRoute.handles, unmonitorRoute, Bool.and_eq_true, Option.isNone_iff_eq_none,
    Outcome.error?_eq_none_iff] at hhandles
  exact ⟨hseries, hcandidate, config, hhandles.2, job, hjob, rfl⟩

/-- The successful calls of one kind in the delete batches, from those of an entry's turn. -/
theorem succeeds_deleting {kind : Call → Bool} {P : Nat → SeriesJob → Prop}
    (hturn : ∀ {covers : ReclaimCandidate → Prop} {client : ClientId} {config : Nat}
      {job : SeriesJob}, Succeeds kind covers (deleteJobEvents outcomes db client config job) ↔
        P config job ∧ covers job.candidate) :
    Succeeds kind (OfSeries seriesId) (deleting env outcomes db candidates).events ↔
      ∃ config, ∃ job ∈ attempted outcomes config (batch env db candidates false config),
        job.seriesId = seriesId ∧ P config job := by
  simp only [deleting, BatchRoute.runBatches_events, succeeds_flatMap]
  constructor
  · rintro ⟨config, -, hcalls⟩
    unfold BatchRoute.callsOf at hcalls
    split at hcalls
    · simp at hcalls
    · obtain ⟨job, hjob, hcall⟩ := succeeds_flatMap.mp hcalls
      obtain ⟨hok, hcovers⟩ := hturn.mp hcall
      have hseries := (mem_batch (mem_of_mem_attempted hjob)).2.1
      exact ⟨config, job, hjob, Option.some.inj (hseries.symm.trans hcovers), hok⟩
  · rintro ⟨config, job, hjob, rfl, hok⟩
    obtain ⟨-, hseries, -, hconfig, hclient⟩ := mem_batch (mem_of_mem_attempted hjob)
    obtain ⟨client, hclient⟩ := Option.isSome_iff_exists.mp hclient
    refine ⟨config, hconfig, ?_⟩
    simp only [BatchRoute.callsOf, deleteRoute, hclient]
    exact succeeds_flatMap.mpr ⟨job, hjob, hturn.mpr ⟨hok, hseries⟩⟩

/-- The calls of the delete batches that remove files of a series. -/
theorem removesFiles_deleting :
    RemovesFiles (OfSeries seriesId) (deleting env outcomes db candidates).events ↔
      ∃ config, ∃ job ∈ attempted outcomes config (batch env db candidates false config),
        job.seriesId = seriesId ∧ JobRemoves outcomes db config job :=
  succeeds_deleting removesFiles_deleteJobEvents

theorem not_removesFiles_unmonitoring {covers : ReclaimCandidate → Prop} :
    ¬RemovesFiles covers (unmonitoring env outcomes db approvedBy candidates).events := by
  simp only [unmonitoring, BatchRoute.runBatches_events, succeeds_flatMap]
  rintro ⟨config, -, hremoves⟩
  unfold BatchRoute.callsOf at hremoves
  split at hremoves <;> simp [unmonitorRoute, unmonitorBatchEvents, Call.removesFiles] at hremoves

/-- A series that a delete batch handles loses files exactly when the move succeeds, where
directories are moved. -/
theorem deletedInBatch_removes (h : DeletedInBatch env outcomes db candidates seriesId) :
    RemovesFiles (OfSeries seriesId) (deleting env outcomes db candidates).events ↔
      (moveDestination db.effectiveSettings ≠ none →
        DirectoryMoved env outcomes db candidates seriesId) := by
  rw [removesFiles_deleting]
  by_cases hmove : moveDestination db.effectiveSettings = none
  · obtain ⟨config, herror, job, hjob, rfl⟩ := h
    obtain ⟨hattempted, hall⟩ := attempted_eq herror
    simp only [hmove, ne_eq, not_true_eq_false, false_implies, iff_true]
    refine ⟨config, job, by rwa [hattempted], rfl, ?_⟩
    simpa [JobRemoves, hmove] using hall job hjob
  · simp only [ne_eq, hmove, not_false_eq_true, true_implies, JobRemoves, if_false, DirectoryMoved]
    grind

section Run

variable {restrictToIds : List Nat}

theorem mem_loadCandidates {c : ReclaimCandidate} (h : c ∈ loadCandidates env db restrictToIds) :
    c ∈ db.candidates ∧ ∀ seriesId, c.seriesId = some seriesId → db.SeriesInLibrary seriesId := by
  have hmem : c ∈ db.candidates ∧
      ((c.seriesId.bind db.findSeries).any fun series => series.removedAt.isNone) = true := by
    unfold loadCandidates filterSeriesCandidatesByFavorites restrictTo at h
    split_ifs at h <;> simp only [List.mem_filter, decide_eq_true_eq] at h <;> grind
  refine ⟨hmem.1, fun seriesId hseries => ?_⟩
  simpa [hseries, Option.any_eq_true, Tables.SeriesInLibrary] using hmem.2

theorem not_handled_of_mem_remaining {c : ReclaimCandidate}
    (h : c ∈ remaining env outcomes db approvedBy candidates)
      (hseries : c.seriesId = some seriesId) :
    ¬DeletedInBatch env outcomes db candidates seriesId ∧
      ¬UnmonitoredInBatch env outcomes db candidates seriesId := by
  simp only [remaining, unhandled, List.mem_filter, Bool.not_eq_true', List.any_eq_false,
    List.mem_append] at h
  constructor
  · intro hdeleted
    obtain ⟨job, hjob, rfl⟩ := exists_mem_deletedJobs hdeleted
    exact h.2 job (Or.inl (mem_of_mem_firstOfEach hjob)) (by simp [hseries])
  · intro hunmonitored
    obtain ⟨job, hjob, rfl⟩ := exists_mem_unmonitoredJobs approvedBy hunmonitored
    exact h.2 job (Or.inr (mem_of_mem_firstOfEach hjob)) (by simp [hseries])

/-- One series is not in a delete batch and in an unmonitor batch. -/
theorem series_ne_of_mem_batches {config config' : Nat} {job job' : SeriesJob}
    (h : job ∈ batch env db candidates false config)
    (h' : job' ∈ batch env db candidates true config') : job.seriesId ≠ job'.seriesId := by
  intro hseries
  have hdelete := (mem_batch h).2.2.1
  have hunmonitor := (mem_batch h').2.2.1
  simp [← hseries] at hunmonitor
  simp [hunmonitor] at hdelete

theorem run_hasCandidate_iff {id : Nat} :
    (deleteSeriesCandidates env outcomes db restrictToIds approvedBy).db.HasCandidate id ↔
      db.HasCandidate id ∧
        ∀ job ∈ removals env outcomes db approvedBy (loadCandidates env db restrictToIds),
          id ≠ job.candidate.id :=
  run_keeps_iff Tables.Marks.hasCandidate_iff fun action db job =>
    recordRemoval_hasCandidate_iff env.now approvedBy action db job id

theorem run_seriesInLibrary_iff {id : Nat} :
    (deleteSeriesCandidates env outcomes db restrictToIds approvedBy).db.SeriesInLibrary id ↔
      db.SeriesInLibrary id ∧
        ∀ job ∈ removals env outcomes db approvedBy (loadCandidates env db restrictToIds),
          id ≠ job.seriesId :=
  run_keeps_iff Tables.Marks.seriesInLibrary_iff fun action db job =>
    recordRemoval_seriesInLibrary_iff env.now approvedBy action db job id

theorem removesFiles_run :
    RemovesFiles (OfSeries seriesId)
        (deleteSeriesCandidates env outcomes db restrictToIds approvedBy).events ↔
      RemovesFiles (OfSeries seriesId)
          (deleting env outcomes db (loadCandidates env db restrictToIds)).events ∨
        (UnmonitoredInBatch env outcomes db (loadCandidates env db restrictToIds) seriesId ∧
          CleansUp env outcomes db seriesId) ∨
        (db.effectiveSettings.mediaServerFallbackEnabled = true ∧
          ∃ c ∈ remaining env outcomes db approvedBy (loadCandidates env db restrictToIds),
            RemovesFiles (OfSeries seriesId) (fallbackEvents env outcomes db c)) := by
  have hcleaned : (∃ job ∈ unmonitoredJobs env outcomes db approvedBy
        (loadCandidates env db restrictToIds),
      RemovesFiles (OfSeries seriesId) (cleanUpEvents env outcomes db job)) ↔
      UnmonitoredInBatch env outcomes db (loadCandidates env db restrictToIds) seriesId ∧
        CleansUp env outcomes db seriesId := by
    simp only [removesFiles_cleanUpEvents]
    constructor
    · rintro ⟨job, hjob, hclean, hcovers⟩
      obtain ⟨hseries, -, hunmonitored⟩ := unmonitoredInBatch_of_mem hjob
      obtain rfl : job.seriesId = seriesId := Option.some.inj (hseries.symm.trans hcovers)
      exact ⟨hunmonitored, hclean⟩
    · rintro ⟨hunmonitored, hclean⟩
      obtain ⟨job, hjob, rfl⟩ := exists_mem_unmonitoredJobs approvedBy hunmonitored
      exact ⟨job, hjob, hclean, (unmonitoredInBatch_of_mem hjob).1⟩
  rw [events_eq]
  simp only [batched, succeeds_append, succeeds_sonarrRefreshEvents,
    not_removesFiles_unmonitoring, succeeds_flatMap, hcleaned, or_false, or_assoc]
  split_ifs with hfallback <;> simp [hfallback]

/-- No removal is recorded without a file step that succeeds: what no step removed stays, with
its candidate. -/
def RemovalsFollowFiles (env : Environment) (outcomes : SeriesOutcomes) (db : Tables)
    (restrictToIds : List Nat) (approvedBy : String) : Prop :=
  let run := deleteSeriesCandidates env outcomes db restrictToIds approvedBy
  ∀ c ∈ loadCandidates env db restrictToIds, ∀ seriesId, c.seriesId = some seriesId →
    ¬RemovesFiles (OfSeries seriesId) run.events →
      run.db.HasCandidate c.id ∧ run.db.SeriesInLibrary seriesId

/-- What a run records as removed lost files, when every handled batch is backed. -/
theorem removals_removesFiles
    (hbacked : RemovalsBacked env outcomes db (loadCandidates env db restrictToIds))
    {job : SeriesJob}
    (hjob : job ∈ removals env outcomes db approvedBy (loadCandidates env db restrictToIds)) :
    job.candidate ∈ loadCandidates env db restrictToIds ∧
      job.candidate.seriesId = some job.seriesId ∧
      RemovesFiles (OfSeries job.seriesId)
        (deleteSeriesCandidates env outcomes db restrictToIds approvedBy).events := by
  rw [removesFiles_run]
  simp only [removals, List.mem_append, or_assoc] at hjob
  rcases hjob with hdeleted | hunmonitored | hfallback
  · obtain ⟨hseries, hmem, hbatch⟩ := deletedInBatch_of_mem hdeleted
    exact ⟨hmem, hseries, Or.inl ((deletedInBatch_removes hbatch).mpr
      fun hmove => (hbacked job.seriesId).1 hmove hbatch)⟩
  · obtain ⟨hseries, hmem, hbatch⟩ := unmonitoredInBatch_of_mem hunmonitored
    exact ⟨hmem, hseries, Or.inr (Or.inl ⟨hbatch, (hbacked job.seriesId).2 hbatch⟩)⟩
  · split_ifs at hfallback with henabled
    · obtain ⟨c, hc, hcjob⟩ := List.mem_filterMap.mp hfallback
      obtain ⟨rfl, hseries, hremoves⟩ := removesFiles_fallbackEvents hcjob
      exact ⟨(List.mem_filter.mp hc).1, hseries, Or.inr (Or.inr ⟨henabled, _, hc, hremoves⟩)⟩
    · simp at hfallback

theorem removalsFollowFiles_iff (hids : (db.candidates.map (·.id)).Nodup) :
    RemovalsFollowFiles env outcomes db restrictToIds approvedBy ↔
      RemovalsBacked env outcomes db (loadCandidates env db restrictToIds) := by
  constructor
  · intro hfollow seriesId
    -- a series recorded as removed has a candidate, so its files are removed by some phase
    have hremoved : ∀ job ∈ removals env outcomes db approvedBy
        (loadCandidates env db restrictToIds), job.candidate ∈ loadCandidates env db restrictToIds →
        job.candidate.seriesId = some job.seriesId → RemovesFiles (OfSeries job.seriesId)
          (deleteSeriesCandidates env outcomes db restrictToIds approvedBy).events := by
      intro job hjob hmem hseries
      by_contra hnone
      have hkept := (hfollow job.candidate hmem job.seriesId hseries hnone).2
      exact (run_seriesInLibrary_iff.mp hkept).2 job hjob rfl
    constructor
    · intro hmove hdeleted
      refine (deletedInBatch_removes hdeleted).mp ?_ hmove
      obtain ⟨job, hjob, rfl⟩ := exists_mem_deletedJobs hdeleted
      obtain ⟨hseries, hmem, -⟩ := deletedInBatch_of_mem hjob
      have hrun := hremoved job (by simp [removals, hjob]) hmem hseries
      rcases removesFiles_run.mp hrun with h | ⟨hunmonitored, -⟩ | ⟨-, c, hc, hremoves⟩
      · exact h
      · obtain ⟨_, -, _, hdelete, hsame⟩ := hdeleted
        obtain ⟨_, -, _, hunmonitor, hsame'⟩ := hunmonitored
        exact absurd (hsame.trans hsame'.symm) (series_ne_of_mem_batches hdelete hunmonitor)
      · exact absurd hdeleted
          (not_handled_of_mem_remaining hc (ofSeries_of_removesFiles_fallbackEvents hremoves)).1
    · intro hunmonitored
      obtain ⟨job, hjob, rfl⟩ := exists_mem_unmonitoredJobs approvedBy hunmonitored
      obtain ⟨hseries, hmem, -⟩ := unmonitoredInBatch_of_mem hjob
      have hrun := hremoved job (by simp [removals, hjob]) hmem hseries
      rcases removesFiles_run.mp hrun with h | ⟨-, hclean⟩ | ⟨-, c, hc, hremoves⟩
      · obtain ⟨config, job', hjob', hsame, -⟩ := removesFiles_deleting.mp h
        obtain ⟨_, -, _, hunmonitor, hsame'⟩ := hunmonitored
        exact absurd (hsame.trans hsame'.symm)
          (series_ne_of_mem_batches (mem_of_mem_attempted hjob') hunmonitor)
      · exact hclean
      · exact absurd hunmonitored
          (not_handled_of_mem_remaining hc (ofSeries_of_removesFiles_fallbackEvents hremoves)).2
  · intro hbacked c hc seriesId hseries hnone
    obtain ⟨hcand, hlib⟩ := mem_loadCandidates hc
    constructor
    · rw [run_hasCandidate_iff]
      refine ⟨⟨c, hcand, rfl⟩, fun job hjob hid => hnone ?_⟩
      obtain ⟨hmem, hjobSeries, hremoves⟩ := removals_removesFiles hbacked hjob
      have hsame : c = job.candidate :=
        List.inj_on_of_nodup_map hids hcand (mem_loadCandidates hmem).1 hid
      rw [hsame, hjobSeries] at hseries
      exact Option.some.inj hseries ▸ hremoves
    · rw [run_seriesInLibrary_iff]
      refine ⟨hlib seriesId hseries, fun job hjob hid => hnone ?_⟩
      exact hid ▸ (removals_removesFiles hbacked hjob).2.2

end Run

end Series

/-- One Sonarr instance, without a media server. -/
def sonarrOnly : Environment where
  services := { sonarrMain := some 1, sonarrClients := [(1, 1)] }
  caseTables := ⟨id, id⟩
  search _ _ := false
  now := 0

end MediaMasterr.Deletion
