import MediaMasterr.Deletion.Removals

/-! # Completed Sonarr deletes

The delete batches of series are recorded as a whole: an exception of one call
leaves the completed calls of its batch without a record. A series that Sonarr
deleted is recorded exactly when some batch with it raises no exception. -/

namespace MediaMasterr.Database.Tables

/-- What the rows of the history are about. -/
def historyKeys (db : Tables) : List (MediaType × Nat) :=
  db.history.map fun row => (row.mediaType, row.tmdbId)

theorem markCandidateDeleteFailures_history (db : Tables) (now : Nat) (ids : List Nat)
    (error : String) : (db.markCandidateDeleteFailures now ids error).history = db.history := by
  rw [markCandidateDeleteFailures]
  refine Foundations.Loops.foldl_invariant
    (P := fun db' : Tables => db'.history = db.history) ?_ rfl
  exact fun _ _ _ h => h

end MediaMasterr.Database.Tables

namespace MediaMasterr.Deletion

open MediaMasterr.Foundations MediaMasterr.Database MediaMasterr.Filesystem

/-- `delete_series` of a Sonarr client. -/
def Call.deletesSeries : Call → Bool
  | .sonarr _ _ (.deleteSeries ..) => true
  | _ => false

theorem BatchRoute.runBatches_history {J : Type} {route : BatchRoute J} {now : Nat}
    {configs : List Nat} {db : Tables} :
    (route.runBatches now configs db).db.history = db.history := by
  refine Loops.foldl_invariant (P := fun run : BatchRun J => run.db.history = db.history) ?_ rfl
  intro config _ run h
  dsimp only [runBatch]
  cases route.clients.lookup config with
  | none => exact h
  | some client =>
    cases route.error config (route.batch config) with
    | none => exact h
    | some e => exact (Tables.markCandidateDeleteFailures_history _ _ _ _).trans h

theorem firstOfEach_nodup {J : Type} (key : J → Nat) (jobs : List J) :
    ((firstOfEach key jobs).map key).Nodup :=
  List.pairwise_map.mpr (firstOfEach_pairwise key jobs)

namespace Series

variable {env : Environment} {outcomes : SeriesOutcomes} {db : Tables}
variable {candidates : List ReclaimCandidate} {approvedBy : String} {seriesId : Nat}
variable {restrictToIds : List Nat}

/-! ## The history of a run -/

theorem recordRemoval_historyKeys (now : Nat) (approvedBy action : String) (db : Tables)
    (job : SeriesJob) : (recordRemoval now approvedBy action db job).historyKeys =
      db.historyKeys ++ [(.series, job.tmdbId)] := by
  dsimp only [recordRemoval, Tables.historyKeys]
  rw [List.map_append]
  rfl

theorem foldl_recordRemoval_historyKeys (now : Nat) (approvedBy action : String) (db : Tables)
    (jobs : List SeriesJob) :
    (jobs.foldl (recordRemoval now approvedBy action) db).historyKeys =
      db.historyKeys ++ jobs.map fun job => (.series, job.tmdbId) := by
  rw [Loops.foldl_trace (recordRemoval_historyKeys now approvedBy action), List.map_eq_flatMap]

/-- A run writes one history row for each removal that it records. -/
theorem run_historyKeys :
    (deleteSeriesCandidates env outcomes db restrictToIds approvedBy).db.historyKeys =
      db.historyKeys ++ (removals env outcomes db approvedBy
        (loadCandidates env db restrictToIds)).map fun job => (.series, job.tmdbId) := by
  set candidates := loadCandidates env db restrictToIds with hcandidates
  have hbatches : ∀ {route : BatchRoute SeriesJob} {configs : List Nat} {db : Tables},
      (route.runBatches env.now configs db).db.historyKeys = db.historyKeys := by
    intro route configs db
    rw [Tables.historyKeys, BatchRoute.runBatches_history, Tables.historyKeys]
  have hbatched : (batched env outcomes db approvedBy candidates).db.historyKeys =
      db.historyKeys ++ (deletedJobs env outcomes db candidates ++
        unmonitoredJobs env outcomes db approvedBy candidates).map
          fun job => (.series, job.tmdbId) := by
    dsimp only [batched]
    rw [foldl_recordRemoval_historyKeys, unmonitoring, hbatches, foldl_recordRemoval_historyKeys,
      deleting, hbatches, List.map_append, List.append_assoc]
  dsimp only [deleteSeriesCandidates, fallback, removals]
  rw [← hcandidates, List.map_append, ← List.append_assoc, ← hbatched]
  split_ifs with hfallback
  · have hstep : ∀ (run : Run) c,
        (fallbackStep env outcomes db approvedBy run c).db.historyKeys = run.db.historyKeys ++
          (fallbackJob env outcomes db c).toList.map fun job => (.series, job.tmdbId) := by
      intro run c
      dsimp only [fallbackStep]
      cases fallbackJob env outcomes db c with
      | none => simp
      | some job => simp [recordRemoval_historyKeys]
    rw [@Loops.foldl_trace _ _ _ (fun run : Run => run.db.historyKeys) _ _ hstep,
      List.map_filterMap, List.filterMap_eq_flatMap_toList]
    simp only [Option.toList_map]
  · rw [List.map_nil, List.append_nil, Tables.historyKeys, Tables.historyKeys]
    refine congrArg _ (Loops.foldl_invariant
      (P := fun db' : Tables =>
        db'.history = (batched env outcomes db approvedBy candidates).db.history)
      ?_ rfl)
    intro c _ db' h
    exact (Tables.markCandidateDeleteFailures_history _ _ _ _).trans h

/-! ## The removals of a run without the fallback -/

theorem removals_eq (h : db.effectiveSettings.mediaServerFallbackEnabled = false) :
    removals env outcomes db approvedBy candidates =
      deletedJobs env outcomes db candidates ++
        unmonitoredJobs env outcomes db approvedBy candidates := by
  simp [removals, h]

/-- An entry of a batch carries the tmdb id of its series. -/
theorem tmdbId_of_mem_batch {unmonitor : Bool} {config : Nat} {job : SeriesJob}
    (h : job ∈ batch env db candidates unmonitor config) :
    ∃ row, db.findSeries job.seriesId = some row ∧ job.tmdbId = row.tmdbId := by
  simp only [batch, jobs, List.mem_map, List.mem_filter, List.mem_flatMap] at h
  obtain ⟨⟨config', job'⟩, ⟨⟨id, -, hjob⟩, -⟩, rfl⟩ := h
  unfold seriesJobs at hjob
  split at hjob
  · rename_i candidate row hcandidate hrow
    obtain ⟨entry, -, heq⟩ := List.mem_map.mp hjob
    obtain ⟨-, rfl⟩ := Prod.mk.injEq .. ▸ heq
    exact ⟨row, hrow, rfl⟩
  · simp at hjob

theorem removals_pairwise (h : db.effectiveSettings.mediaServerFallbackEnabled = false) :
    ((removals env outcomes db approvedBy candidates).map (·.seriesId)).Nodup := by
  rw [removals_eq h, List.map_append]
  refine List.Nodup.append (firstOfEach_nodup _ _) (firstOfEach_nodup _ _) ?_
  intro seriesId hdeleted hunmonitored
  obtain ⟨job, hjob, rfl⟩ := List.mem_map.mp hdeleted
  obtain ⟨job', hjob', hsame⟩ := List.mem_map.mp hunmonitored
  obtain ⟨_, -, -, hdelete⟩ := mem_deletedJobs hjob
  obtain ⟨_, -, -, hunmonitor⟩ := mem_unmonitoredJobs hjob'
  exact series_ne_of_mem_batches hdelete hunmonitor hsame.symm

/-- An entry of the series and its history row have the same keys. -/
theorem tmdbId_eq_iff {row : Database.Series} {job : SeriesJob}
    (htmdb : (db.series.map (·.tmdbId)).Nodup) (hrow : db.findSeries row.id = some row)
    (h : db.effectiveSettings.mediaServerFallbackEnabled = false)
    (hjob : job ∈ removals env outcomes db approvedBy candidates) :
    job.tmdbId = row.tmdbId ↔ job.seriesId = row.id := by
  have hbatch : ∃ row', db.findSeries job.seriesId = some row' ∧ job.tmdbId = row'.tmdbId := by
    rw [removals_eq h, List.mem_append] at hjob
    rcases hjob with hjob | hjob
    · obtain ⟨_, -, -, hjob⟩ := mem_deletedJobs hjob
      exact tmdbId_of_mem_batch hjob
    · obtain ⟨_, -, -, hjob⟩ := mem_unmonitoredJobs hjob
      exact tmdbId_of_mem_batch hjob
  obtain ⟨row', hrow', hid⟩ := hbatch
  rw [hid]
  constructor
  · intro heq
    have hrows : row' = row := List.inj_on_of_nodup_map htmdb
      (List.mem_of_find?_eq_some hrow') (List.mem_of_find?_eq_some hrow) heq
    rw [← hrows, Tables.findSeries_id hrow']
  · intro heq
    rw [heq, hrow] at hrow'
    rw [Option.some.inj hrow']

/-- The history gains one row for each removal of the series. -/
theorem count_historyKeys {row : Database.Series} (htmdb : (db.series.map (·.tmdbId)).Nodup)
    (hrow : db.findSeries row.id = some row)
    (h : db.effectiveSettings.mediaServerFallbackEnabled = false) :
    (deleteSeriesCandidates env outcomes db restrictToIds approvedBy).db.historyKeys.count
        (.series, row.tmdbId) =
      db.historyKeys.count (.series, row.tmdbId) +
        ((removals env outcomes db approvedBy
          (loadCandidates env db restrictToIds)).map (·.seriesId)).count row.id := by
  rw [run_historyKeys, List.count_append, Nat.add_left_cancel_iff, List.count_eq_countP,
    List.countP_map, List.count_eq_countP, List.countP_map]
  apply List.countP_congr
  intro job hjob
  simpa using tmdbId_eq_iff htmdb hrow h hjob

/-! ## The series of the delete batches -/

/-- A `delete_series` call for the series is made in some delete batch and succeeds. -/
def DeletedOn (env : Environment) (outcomes : SeriesOutcomes) (db : Tables)
    (candidates : List ReclaimCandidate) (seriesId : Nat) : Prop :=
  ∃ config, ∃ job ∈ attempted outcomes config (batch env db candidates false config),
    job.seriesId = seriesId ∧ (outcomes.deleteSeries config seriesId job.sonarrId).succeeded

/-- The series is routed to Sonarr for deletion. -/
def InDeleteBatch (env : Environment) (db : Tables) (candidates : List ReclaimCandidate)
    (seriesId : Nat) : Prop :=
  ∃ config, ∃ job ∈ batch env db candidates false config, job.seriesId = seriesId

theorem DeletedInBatch.deletedOn (h : DeletedInBatch env outcomes db candidates seriesId) :
    DeletedOn env outcomes db candidates seriesId := by
  obtain ⟨config, herror, job, hjob, rfl⟩ := h
  obtain ⟨hattempted, hall⟩ := attempted_eq herror
  exact ⟨config, job, by rwa [hattempted], rfl, hall job hjob⟩

theorem deletesSeries_deleteJobEvents {covers : ReclaimCandidate → Prop} {client : ClientId}
    {config : Nat} {job : SeriesJob} :
    Succeeds Call.deletesSeries covers (deleteJobEvents outcomes db client config job) ↔
      (outcomes.deleteSeries config job.seriesId job.sonarrId).succeeded ∧
        covers job.candidate := by
  dsimp only [deleteJobEvents]
  cases moveDestination db.effectiveSettings with
  | none => simp [Call.deletesSeries]
  | some destination =>
    cases moveSource outcomes db config job <;> simp [Call.deletesSeries]

/-- The successful `delete_series` calls of a run without the fallback. -/
theorem deletesSeries_run_iff (h : db.effectiveSettings.mediaServerFallbackEnabled = false) :
    Succeeds Call.deletesSeries (OfSeries seriesId)
        (deleteSeriesCandidates env outcomes db restrictToIds approvedBy).events ↔
      DeletedOn env outcomes db (loadCandidates env db restrictToIds) seriesId := by
  have hclean : ∀ job : SeriesJob, ¬Succeeds Call.deletesSeries (OfSeries seriesId)
      (cleanUpEvents env outcomes db job) := by
    intro job
    unfold cleanUpEvents
    cases seriesFolder outcomes db job.seriesId <;>
      cases mediaServerItem env db job.seriesId <;> simp [Call.deletesSeries]
  have hunmonitor : ¬Succeeds Call.deletesSeries (OfSeries seriesId)
      (unmonitoring env outcomes db approvedBy (loadCandidates env db restrictToIds)).events := by
    simp only [unmonitoring, BatchRoute.runBatches_events, succeeds_flatMap]
    rintro ⟨config, -, hcalls⟩
    unfold BatchRoute.callsOf at hcalls
    split at hcalls <;> simp [unmonitorRoute, unmonitorBatchEvents, Call.deletesSeries] at hcalls
  rw [events_eq, if_neg (by simp [h]), List.append_nil]
  simp only [batched, succeeds_append, succeeds_sonarrRefreshEvents, hunmonitor, succeeds_flatMap,
    hclean, and_false, exists_false, or_false]
  refine (succeeds_deleting deletesSeries_deleteJobEvents).trans ?_
  constructor
  · rintro ⟨config, job, hjob, rfl, hok⟩
    exact ⟨config, job, hjob, rfl, hok⟩
  · rintro ⟨config, job, hjob, rfl, hok⟩
    exact ⟨config, job, hjob, rfl, hok⟩

/-- A completed Sonarr delete is recorded: `removed_at` is set, the candidates of the series are
gone and the history has one row more. A series without one stays in the library. -/
def DeletesRecorded (env : Environment) (outcomes : SeriesOutcomes) (db : Tables)
    (restrictToIds : List Nat) (approvedBy : String) : Prop :=
  let run := deleteSeriesCandidates env outcomes db restrictToIds approvedBy
  let candidates := loadCandidates env db restrictToIds
  ∀ series, db.findSeries series.id = some series → InDeleteBatch env db candidates series.id →
    (Succeeds Call.deletesSeries (OfSeries series.id) run.events →
      (∃ row, run.db.findSeries series.id = some row ∧ row.removedAt.isSome) ∧
      (∀ c ∈ candidates, c.seriesId = some series.id → ¬run.db.HasCandidate c.id) ∧
      run.db.historyKeys.count (.series, series.tmdbId) =
        db.historyKeys.count (.series, series.tmdbId) + 1) ∧
    (¬Succeeds Call.deletesSeries (OfSeries series.id) run.events →
      run.db.SeriesInLibrary series.id)

/-- Every series that Sonarr deleted is in a delete batch without an exception, and one
candidate names it. -/
def DeletesInCompleteBatches (env : Environment) (outcomes : SeriesOutcomes) (db : Tables)
    (candidates : List ReclaimCandidate) : Prop :=
  ∀ seriesId, DeletedOn env outcomes db candidates seriesId →
    DeletedInBatch env outcomes db candidates seriesId ∧
      ∀ c ∈ candidates, ∀ c' ∈ candidates, c.seriesId = some seriesId →
        c'.seriesId = some seriesId → c.id = c'.id

/-- A series of a delete batch stays exactly when no batch with it is without an exception. -/
theorem mem_removals_iff (h : db.effectiveSettings.mediaServerFallbackEnabled = false)
    (hin : InDeleteBatch env db candidates seriesId) :
    seriesId ∈ (removals env outcomes db approvedBy candidates).map (·.seriesId) ↔
      DeletedInBatch env outcomes db candidates seriesId := by
  rw [removals_eq h, List.map_append, List.mem_append]
  constructor
  · rintro (hmem | hmem)
    · obtain ⟨job, hjob, rfl⟩ := List.mem_map.mp hmem
      exact (deletedInBatch_of_mem hjob).2.2
    · obtain ⟨job, hjob, rfl⟩ := List.mem_map.mp hmem
      obtain ⟨_, -, -, hunmonitor⟩ := mem_unmonitoredJobs hjob
      obtain ⟨_, job', hdelete, hsame⟩ := hin
      exact absurd hsame (series_ne_of_mem_batches hdelete hunmonitor)
  · intro hdeleted
    obtain ⟨job, hjob, rfl⟩ := exists_mem_deletedJobs hdeleted
    exact Or.inl (List.mem_map.mpr ⟨job, hjob, rfl⟩)

theorem run_seriesInLibrary_iff_notMem :
    (deleteSeriesCandidates env outcomes db restrictToIds approvedBy).db.SeriesInLibrary seriesId ↔
      db.SeriesInLibrary seriesId ∧ seriesId ∉ (removals env outcomes db approvedBy
        (loadCandidates env db restrictToIds)).map (·.seriesId) := by
  rw [run_seriesInLibrary_iff, List.mem_map]
  grind

theorem run_findSeries_isSome : ((deleteSeriesCandidates env outcomes db restrictToIds
    approvedBy).db.findSeries seriesId).isSome ↔ (db.findSeries seriesId).isSome := by
  refine (run_keeps_iff (P := fun db => (db.findSeries seriesId).isSome) (Q := fun _ => True)
    ?_ ?_).trans (by simp)
  · rintro db _ ⟨-, -, -, rfl⟩
    rfl
  · intro action db job
    show ((db.removeSeries env.now job.seriesId).findSeries seriesId).isSome ↔ _
    rw [Tables.findSeries_removeSeries, Option.isSome_map, and_true]

/-- A series that was recorded as removed has `removed_at` set. -/
theorem run_removedAt (hrow : (db.findSeries seriesId).isSome)
    (h : ¬(deleteSeriesCandidates env outcomes db restrictToIds approvedBy).db.SeriesInLibrary
      seriesId) :
    ∃ row, (deleteSeriesCandidates env outcomes db restrictToIds approvedBy).db.findSeries
      seriesId = some row ∧ row.removedAt.isSome := by
  obtain ⟨row, hfound⟩ := Option.isSome_iff_exists.mp (run_findSeries_isSome.mpr hrow)
  refine ⟨row, hfound, Option.isSome_iff_ne_none.mpr fun hnone => h ⟨row, hfound, hnone⟩⟩

/-- The candidate of a removal is one of the series. -/
theorem candidate_of_mem_removals (h : db.effectiveSettings.mediaServerFallbackEnabled = false)
    {job : SeriesJob} (hjob : job ∈ removals env outcomes db approvedBy candidates) :
    job.candidate ∈ candidates ∧ job.candidate.seriesId = some job.seriesId := by
  rw [removals_eq h, List.mem_append] at hjob
  rcases hjob with hjob | hjob
  · obtain ⟨hseries, hmem, -⟩ := deletedInBatch_of_mem hjob
    exact ⟨hmem, hseries⟩
  · obtain ⟨hseries, hmem, -⟩ := unmonitoredInBatch_of_mem hjob
    exact ⟨hmem, hseries⟩

/-- Without the fallback, completed Sonarr deletes are recorded exactly when each of their
series is in a delete batch that raises no exception, and has one candidate. -/
theorem deletesRecorded_iff (hids : (db.candidates.map (·.id)).Nodup)
    (htmdb : (db.series.map (·.tmdbId)).Nodup)
    (h : db.effectiveSettings.mediaServerFallbackEnabled = false) :
    DeletesRecorded env outcomes db restrictToIds approvedBy ↔
      DeletesInCompleteBatches env outcomes db (loadCandidates env db restrictToIds) := by
  simp only [DeletesRecorded, deletesSeries_run_iff h]
  set candidates := loadCandidates env db restrictToIds with hcandidates
  constructor
  · intro hrecorded seriesId hon
    have hin : InDeleteBatch env db candidates seriesId := by
      obtain ⟨config, job, hjob, hsame, -⟩ := hon
      exact ⟨config, job, mem_of_mem_attempted hjob, hsame⟩
    obtain ⟨row, hrow⟩ : ∃ row, db.findSeries seriesId = some row := by
      obtain ⟨config, job, hjob, rfl⟩ := hin
      obtain ⟨row, hrow, -⟩ := tmdbId_of_mem_batch hjob
      exact ⟨row, hrow⟩
    obtain rfl := Tables.findSeries_id hrow
    obtain ⟨⟨row', hrow', hremoved⟩, hgone, -⟩ := (hrecorded row hrow hin).1 hon
    have hout : ¬(deleteSeriesCandidates env outcomes db restrictToIds approvedBy).db.SeriesInLibrary
        row.id := by
      rintro ⟨row'', hrow'', hnone⟩
      obtain rfl := Option.some.inj (hrow'.symm.trans hrow'')
      simp [hnone] at hremoved
    have hlib : db.SeriesInLibrary row.id := by
      obtain ⟨config, job, hjob, hsame⟩ := hin
      obtain ⟨hmem, hseries, -⟩ := mem_batch hjob
      exact (mem_loadCandidates hmem).2 row.id (hsame ▸ hseries)
    rw [run_seriesInLibrary_iff_notMem, not_and_not_right] at hout
    refine ⟨(mem_removals_iff h hin).mp (hout hlib), ?_⟩
    -- the run deletes the candidate of one removal of the series
    have hone : ∀ c ∈ candidates, c.seriesId = some row.id →
        ∃ job ∈ removals env outcomes db approvedBy candidates,
          job.seriesId = row.id ∧ c.id = job.candidate.id := by
      intro c hc hseries
      have hnot := hgone c hc hseries
      rw [run_hasCandidate_iff, not_and, not_forall] at hnot
      obtain ⟨job, hjob⟩ := hnot ⟨c, (mem_loadCandidates hc).1, rfl⟩
      push Not at hjob
      obtain ⟨hjob, hid⟩ := hjob
      obtain ⟨hmem, hjobSeries⟩ := candidate_of_mem_removals h hjob
      obtain rfl : c = job.candidate := List.inj_on_of_nodup_map hids
        (mem_loadCandidates hc).1 (mem_loadCandidates hmem).1 hid
      exact ⟨job, hjob, Option.some.inj (hjobSeries.symm.trans hseries), rfl⟩
    intro c hc c' hc' hseries hseries'
    obtain ⟨job, hjob, hsame, hid⟩ := hone c hc hseries
    obtain ⟨job', hjob', hsame', hid'⟩ := hone c' hc' hseries'
    obtain rfl : job = job' :=
      List.inj_on_of_nodup_map (removals_pairwise h) hjob hjob' (hsame.trans hsame'.symm)
    rw [hid, hid']
  · intro hcomplete row hrow hin
    have hiff : row.id ∈ (removals env outcomes db approvedBy candidates).map (·.seriesId) ↔
        DeletedInBatch env outcomes db candidates row.id := mem_removals_iff h hin
    constructor
    · intro hon
      obtain ⟨hdeleted, hone⟩ := hcomplete row.id hon
      have hmem := hiff.mpr hdeleted
      refine ⟨run_removedAt (by simp [hrow]) ?_, ?_, ?_⟩
      · rw [run_seriesInLibrary_iff_notMem]
        exact fun hkept => hkept.2 hmem
      · intro c hc hseries
        obtain ⟨job, hjob, hsame⟩ := List.mem_map.mp hmem
        obtain ⟨hjobMem, hjobSeries⟩ := candidate_of_mem_removals h hjob
        rw [run_hasCandidate_iff]
        exact fun hkept => hkept.2 job hjob (hone c hc _ hjobMem hseries (hsame ▸ hjobSeries))
      · rw [count_historyKeys htmdb hrow h,
          List.count_eq_one_of_mem (removals_pairwise h) hmem]
    · intro hnot
      rw [run_seriesInLibrary_iff_notMem, hiff]
      refine ⟨?_, fun hdeleted => hnot hdeleted.deletedOn⟩
      obtain ⟨config, job, hjob, hsame⟩ := hin
      obtain ⟨hmem, hseries, -⟩ := mem_batch hjob
      exact (mem_loadCandidates hmem).2 row.id (hsame ▸ hseries)

/-- Two series on one instance, both candidates, of a rule that deletes. -/
def twoSeries : Tables where
  series := [{ id := 1, tmdbId := 100, title := "First" },
    { id := 2, tmdbId := 200, title := "Second" }]
  seriesArrRefs :=
    [{ id := 1, seriesId := 1, serviceConfigId := 1, arrSeriesId := 10 },
      { id := 2, seriesId := 2, serviceConfigId := 1, arrSeriesId := 20 }]
  candidates :=
    [{ id := 1, mediaType := .series, matchedRuleIds := [1], seriesId := some 1 },
      { id := 2, mediaType := .series, matchedRuleIds := [1], seriesId := some 2 }]
  rules := [{ id := 1, mediaType := .series }]
  settings := some { mediaServerFallbackEnabled := false }

/-- The delete of the first series succeeds, and that of the second has this outcome. -/
def secondDelete (outcome : Outcome Unit) : SeriesOutcomes where
  deleteSeries _ seriesId _ := if seriesId = 2 then outcome else .ok ()

theorem deletesRecorded_twoSeries :
    DeletesRecorded sonarrOnly (secondDelete (.ok ())) twoSeries [1, 2] "system" := by
  refine (deletesRecorded_iff (by decide) (by decide) rfl).mpr fun seriesId hon => ⟨?_, ?_⟩
  · obtain ⟨config, job, hjob, rfl, -⟩ := hon
    have hjob := mem_of_mem_attempted hjob
    refine ⟨config, ?_, job, hjob, rfl⟩
    obtain rfl : config = 1 := by
      have hconfig := (mem_batch hjob).2.2.2.1
      exact List.mem_singleton.mp ((by decide : configs sonarrOnly twoSeries
        (loadCandidates sonarrOnly twoSeries [1, 2]) false = [1]) ▸ hconfig)
    decide
  · have hcandidates : ∀ c ∈ loadCandidates sonarrOnly twoSeries [1, 2],
        c.seriesId = some c.id := by decide
    intro c hc c' hc' hseries hseries'
    have hsame := (hcandidates c hc).symm.trans
      (hseries.trans (hseries'.symm.trans (hcandidates c' hc')))
    exact Option.some.inj hsame

/-- The first series is deleted in Sonarr and stays in the library. -/
theorem not_deletesRecorded_twoSeries :
    ¬DeletesRecorded sonarrOnly (secondDelete (.error "HTTP 500")) twoSeries [1, 2] "system" := by
  intro hrecorded
  have hgone := (hrecorded { id := 1, tmdbId := 100, title := "First" } rfl
    ⟨1, ⟨{ id := 1, mediaType := .series, matchedRuleIds := [1], seriesId := some 1 },
      1, 10, "First", 100⟩, by decide, rfl⟩).1 (by unfold Succeeds; decide)
  exact hgone.2.1 { id := 1, mediaType := .series, matchedRuleIds := [1], seriesId := some 1 }
    (by decide) rfl (by unfold Tables.HasCandidate; decide)

end Series

end MediaMasterr.Deletion
