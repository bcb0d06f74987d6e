import MediaMasterr.Deletion.MovieEffects

/-! # Runs of the movie handler

The entries of the batches, the version rows that a run leaves, and its calls by
phase. -/

namespace MediaMasterr.Deletion

open MediaMasterr.Foundations MediaMasterr.Database MediaMasterr.Filesystem

namespace Movie

variable {env : Environment} {outcomes : MovieOutcomes} {db : Tables}
variable {approvedBy : String} {candidates : List ReclaimCandidate}

/-! ## The entries of the batches -/

/-- An entry that a version is matched with is that of a connected ref. -/
theorem mem_matchVersionToArr {path : Option String} {service : Option Service}
    {refs : List MovieArrRef} {pair : Nat × Nat}
    (h : pair ∈ matchVersionToArr env db path service refs) :
    ∃ ref ∈ activeRefs env refs, (ref.serviceConfigId, ref.arrMovieId) = pair := by
  unfold matchVersionToArr at h
  dsimp only at h
  split_ifs at h
  · split at h
    · rename_i ref hactive
      rw [hactive]
      exact ⟨ref, List.mem_singleton_self _, (List.mem_singleton.mp h).symm⟩
    · exact absurd h List.not_mem_nil
  · obtain ⟨ref, href, hpair⟩ := List.mem_map.mp (List.mem_eraseDups.mp h)
    exact ⟨ref, (List.mem_filter.mp href).1, hpair⟩

/-- A version candidate is routed to the entries that its version is matched with. -/
theorem versionRoute_eq_some {c : ReclaimCandidate} {pairs : List (Nat × Nat)}
    (h : versionRoute env db candidates c = some pairs) :
    ∃ movieId versionId, c.movieId = some movieId ∧ c.movieVersionId = some versionId ∧
      (movieData db movieId).isSome ∧
      pairs = matchVersionToArr env db ((db.findVersion versionId).bind (·.path))
        ((db.findVersion versionId).map (·.service)) (movieRefs db movieId) := by
  unfold versionRoute at h
  split at h
  · rename_i movieId versionId hmovie hversion
    refine ⟨movieId, versionId, hmovie, hversion, ?_⟩
    dsimp only at h
    split_ifs at h with hnone hunmonitor hdelete
    · simp only [Bool.or_eq_true, not_or] at hnone
      exact ⟨by simpa [Option.isSome_iff_ne_none] using hnone.1, (Option.some.inj h).symm⟩
    · simp only [Bool.or_eq_true, not_or] at hnone
      exact ⟨by simpa [Option.isSome_iff_ne_none] using hnone.1, (Option.some.inj h).symm⟩
  · exact absurd h (by simp)

theorem mem_activeRefs {refs : List MovieArrRef} {ref : MovieArrRef} :
    ref ∈ activeRefs env refs ↔ ref ∈ refs ∧
      (env.services.radarrClientsOrMain.lookup ref.serviceConfigId).isSome := by
  simp [activeRefs]

/-- A movie is routed to connected refs of it. -/
theorem mem_routing {movieId : Nat} {pair : Nat × Nat}
    (h : pair ∈ routing env db candidates movieId) :
    ∃ ref ∈ activeRefs env (movieRefs db movieId),
      (ref.serviceConfigId, ref.arrMovieId) = pair := by
  obtain ⟨c, hc, hpair⟩ := List.mem_flatMap.mp (List.mem_eraseDups.mp h)
  split_ifs at hpair with hversion
  · cases hroute : versionRoute env db candidates c with
    | none => simp [hroute] at hpair
    | some pairs =>
      obtain ⟨movieId', versionId, hmovie, -, -, rfl⟩ := versionRoute_eq_some hroute
      have hsame : c.movieId = some movieId := by
        simp only [routedCandidates, List.mem_append, List.mem_filter, decide_eq_true_eq] at hc
        rcases hc with ⟨-, hmovie, -⟩ | ⟨-, hmovie, -⟩ <;> exact hmovie
      obtain rfl : movieId' = movieId := Option.some.inj (hmovie.symm.trans hsame)
      exact mem_matchVersionToArr (by simpa [hroute] using hpair)
  · obtain ⟨ref, href, hpair⟩ := List.mem_map.mp hpair
    exact ⟨ref, href, hpair⟩

/-- What an entry of a batch is. -/
structure BatchEntry (env : Environment) (db : Tables) (candidates : List ReclaimCandidate)
    (unmonitor : Bool) (config : Nat) (job : MovieJob) : Prop where
  candidates_eq : job.candidates = routedCandidates env db candidates job.movieId
  targetVersionIds_eq : job.targetVersionIds = candidateVersionIds candidates job.movieId
  movieData_isSome : (movieData db job.movieId).isSome
  mem_routing : (config, job.radarrId) ∈ routing env db candidates job.movieId
  action : (arrAction db candidates job.movieId = some .unmonitor) = (unmonitor = true)
  mem_configs : config ∈ configs env db candidates unmonitor
  client : (env.services.radarrClientsOrMain.lookup config).isSome

theorem mem_batch {unmonitor : Bool} {config : Nat} {job : MovieJob}
    (h : job ∈ batch env db candidates unmonitor config) :
    BatchEntry env db candidates unmonitor config job := by
  simp only [batch, List.mem_map, List.mem_filter, decide_eq_true_eq] at h
  obtain ⟨⟨config', job'⟩, ⟨hjobs, rfl⟩, rfl⟩ := h
  have hconfig : config' ∈ configs env db candidates unmonitor := by
    simp only [configs, List.mem_eraseDups, List.mem_map]
    exact ⟨_, hjobs, rfl⟩
  simp only [jobs, List.mem_flatMap, List.mem_filter, decide_eq_true_eq] at hjobs
  obtain ⟨movieId, ⟨-, haction⟩, hjob⟩ := hjobs
  unfold movieJobs at hjob
  split at hjob
  · simp at hjob
  · rename_i movie hmovie
    obtain ⟨⟨config, radarrId⟩, hrouting, heq⟩ := List.mem_map.mp hjob
    obtain ⟨rfl, rfl⟩ := Prod.mk.injEq .. ▸ heq
    obtain ⟨ref, href, hpair⟩ := mem_routing hrouting
    obtain ⟨rfl, -⟩ := Prod.mk.injEq .. ▸ hpair
    exact ⟨rfl, rfl, by simp [hmovie], hrouting, haction, hconfig, (mem_activeRefs.mp href).2⟩

theorem mem_deletedJobs {job : MovieJob}
    (h : job ∈ deletedJobs env outcomes db approvedBy candidates) :
    ∃ config, (outcomes.deleteMovies config).succeeded = true ∧
      job ∈ batch env db candidates false config := by
  obtain ⟨config, -, hhandles, hjob⟩ := BatchRoute.mem_handled.mp (mem_of_mem_firstOfEach h)
  simp only [BatchRoute.handles, deleteRoute, Bool.and_eq_true, Option.isNone_iff_eq_none,
    Outcome.error?_eq_none_iff] at hhandles
  exact ⟨config, hhandles.2, hjob⟩

theorem mem_unmonitoredJobs {job : MovieJob}
    (h : job ∈ unmonitoredJobs env outcomes db approvedBy candidates) :
    ∃ config, (outcomes.unmonitorMovies config).succeeded = true ∧
      job ∈ batch env db candidates true config := by
  obtain ⟨config, -, hhandles, hjob⟩ := BatchRoute.mem_handled.mp (mem_of_mem_firstOfEach h)
  simp only [BatchRoute.handles, unmonitorRoute, Bool.and_eq_true, Option.isNone_iff_eq_none,
    Outcome.error?_eq_none_iff] at hhandles
  exact ⟨config, hhandles.2, hjob⟩

/-- A delete batch with this movie succeeds. -/
def DeletedInBatch (env : Environment) (outcomes : MovieOutcomes) (db : Tables)
    (candidates : List ReclaimCandidate) (movieId : Nat) : Prop :=
  ∃ config, (outcomes.deleteMovies config).succeeded = true ∧
    ∃ job ∈ batch env db candidates false config, job.movieId = movieId

/-- An unmonitor batch with this movie succeeds. -/
def UnmonitoredInBatch (env : Environment) (outcomes : MovieOutcomes) (db : Tables)
    (candidates : List ReclaimCandidate) (movieId : Nat) : Prop :=
  ∃ config, (outcomes.unmonitorMovies config).succeeded = true ∧
    ∃ job ∈ batch env db candidates true config, job.movieId = movieId

theorem exists_mem_deletedJobs (approvedBy : String) {movieId : Nat}
    (h : DeletedInBatch env outcomes db candidates movieId) :
    ∃ job ∈ deletedJobs env outcomes db approvedBy candidates, job.movieId = movieId := by
  obtain ⟨config, hok, job, hjob, rfl⟩ := h
  have hentry := mem_batch hjob
  refine exists_mem_firstOfEach (BatchRoute.mem_handled.mpr ⟨config, hentry.mem_configs, ?_, hjob⟩)
  simp [BatchRoute.handles, deleteRoute, hentry.client, hok]

theorem exists_mem_unmonitoredJobs (approvedBy : String) {movieId : Nat}
    (h : UnmonitoredInBatch env outcomes db candidates movieId) :
    ∃ job ∈ unmonitoredJobs env outcomes db approvedBy candidates, job.movieId = movieId := by
  obtain ⟨config, hok, job, hjob, rfl⟩ := h
  have hentry := mem_batch hjob
  refine exists_mem_firstOfEach (BatchRoute.mem_handled.mpr ⟨config, hentry.mem_configs, ?_, hjob⟩)
  simp [BatchRoute.handles, unmonitorRoute, hentry.client, hok]

/-- One movie is not in a delete batch and in an unmonitor batch. -/
theorem movie_ne_of_mem_batches {config config' : Nat} {job job' : MovieJob}
    (h : job ∈ batch env db candidates false config)
    (h' : job' ∈ batch env db candidates true config') : job.movieId ≠ job'.movieId := by
  intro hmovie
  have hdelete := (mem_batch h).action
  have hunmonitor := (mem_batch h').action
  simp [← hmovie] at hunmonitor
  simp [hunmonitor] at hdelete

/-! ## The targets of an entry -/

/-- The candidates of a run are rows of the tables. -/
theorem mem_loadCandidates {restrictToIds : List Nat} {c : ReclaimCandidate}
    (h : c ∈ loadCandidates env db restrictToIds) :
    c ∈ db.candidates ∧ ∃ movieId, c.movieId = some movieId ∧ db.MovieInLibrary movieId := by
  have hmem : c ∈ db.candidates ∧
      ((c.movieId.bind db.findMovie).any fun movie => movie.removedAt.isNone) = true := by
    unfold loadCandidates filterMovieCandidatesByFavorites restrictTo at h
    split_ifs at h <;> simp only [List.mem_filter, decide_eq_true_eq] at h <;> grind
  refine ⟨hmem.1, ?_⟩
  cases hmovie : c.movieId with
  | none => simp [hmovie] at hmem
  | some movieId =>
    exact ⟨movieId, rfl, by simpa [hmovie, Option.any_eq_true, Tables.MovieInLibrary] using hmem.2⟩

theorem mem_routedCandidates {movieId : Nat} {c : ReclaimCandidate}
    (h : c ∈ routedCandidates env db candidates movieId) :
    c ∈ candidates ∧ c.movieId = some movieId := by
  simp only [routedCandidates, versionCandidates, wholeMovieCandidates, List.mem_append,
    List.mem_filter, decide_eq_true_eq] at h
  grind

namespace BatchEntry

variable {unmonitor : Bool} {config : Nat} {job : MovieJob}

theorem mem_candidates (h : BatchEntry env db candidates unmonitor config job)
    {c : ReclaimCandidate} (hc : c ∈ job.candidates) :
    c ∈ candidates ∧ c.movieId = some job.movieId :=
  mem_routedCandidates (h.candidates_eq ▸ hc)

theorem mem_targetVersionIds (h : BatchEntry env db candidates unmonitor config job)
    {target : Option Nat} : target ∈ job.targetVersionIds ↔
      ∃ c ∈ candidates, c.movieId = some job.movieId ∧ c.movieVersionId = target := by
  rw [h.targetVersionIds_eq, candidateVersionIds, List.mem_eraseDups]
  simp [and_assoc]

theorem mem_concreteVersionIds (h : BatchEntry env db candidates unmonitor config job)
    {versionId : Nat} : versionId ∈ job.concreteVersionIds ↔
      ∃ c ∈ candidates, c.movieId = some job.movieId ∧ c.movieVersionId = some versionId := by
  simp [MovieJob.concreteVersionIds, h.mem_targetVersionIds]

theorem isWholeMovie_iff (h : BatchEntry env db candidates unmonitor config job) :
    job.isWholeMovie = true ↔
      ∃ c ∈ candidates, c.movieId = some job.movieId ∧ c.movieVersionId = none := by
  rw [← h.mem_targetVersionIds, MovieJob.isWholeMovie, Bool.or_eq_true, decide_eq_true_eq]
  refine or_iff_right fun hempty => ?_
  -- an entry is made for at least one candidate
  obtain ⟨c, hc, -⟩ := List.mem_flatMap.mp (List.mem_eraseDups.mp h.mem_routing)
  obtain ⟨hmem, hmovie⟩ := mem_routedCandidates hc
  have htarget := h.mem_targetVersionIds.mpr ⟨c, hmem, hmovie, rfl⟩
  rw [List.isEmpty_iff.mp hempty] at htarget
  exact absurd htarget List.not_mem_nil

theorem findMovie_isSome (h : BatchEntry env db candidates unmonitor config job) :
    (db.findMovie job.movieId).isSome := by
  have hdata := h.movieData_isSome
  unfold movieData at hdata
  cases hmovie : db.findMovie job.movieId with
  | none => simp [hmovie] at hdata
  | some movie => rfl

/-- The rows that an entry targets belong to its movie. -/
theorem movieId_of_mem_concreteVersionIds (h : BatchEntry env db candidates unmonitor config job)
    (hdb : db.Consistent) (hsub : ∀ c ∈ candidates, c ∈ db.candidates) {v : MovieVersion}
    (hv : v ∈ db.movieVersions) (hmem : v.id ∈ job.concreteVersionIds) :
      v.movieId = job.movieId := by
  obtain ⟨c, hc, hmovie, hversion⟩ := h.mem_concreteVersionIds.mp hmem
  exact Option.some.inj ((hdb.candidateVersions c (hsub c hc) v hv hversion).symm.trans hmovie)

end BatchEntry

/-! ## Version rows -/

/-- The version phase deletes the row. -/
def VersionDeleted (env : Environment) (outcomes : MovieOutcomes) (db : Tables)
    (candidates : List ReclaimCandidate) (versionId : Nat) : Prop :=
  ∃ c ∈ unmatchedVersionCandidates env db candidates, ∃ deleted,
    deletedVersion env outcomes db c = some deleted ∧ deleted.id = versionId

/-- A finished batch of deletions targets the row. -/
def TargetedIn (jobs : List MovieJob) (versionId : Nat) : Prop :=
  ∃ job ∈ jobs, job.isWholeMovie = false ∧ versionId ∈ job.concreteVersionIds

theorem keepsVersion_versionRemovals_iff {v : MovieVersion} :
    (∀ r ∈ (unmatchedVersionCandidates env db candidates).flatMap (versionRemovals env outcomes db),
      r.KeepsVersion v) ↔ ¬VersionDeleted env outcomes db candidates v.id := by
  simp only [List.mem_flatMap, versionRemovals, List.mem_map, Option.mem_toList, VersionDeleted]
  constructor
  · rintro hkeeps ⟨c, hc, deleted, hdeleted, hid⟩
    exact hkeeps _ ⟨c, hc, deleted, hdeleted, rfl⟩ hid.symm
  · rintro hnot r ⟨c, hc, deleted, hdeleted, rfl⟩ hid
    exact hnot ⟨c, hc, deleted, hdeleted, hid.symm⟩

theorem keepsVersion_batches_iff {jobs : List MovieJob} {v : MovieVersion} :
    (∀ r ∈ jobs.map MovieRemoval.batch, r.KeepsVersion v) ↔ ¬TargetedIn jobs v.id := by
  simp only [List.mem_map, TargetedIn, not_exists, not_and, forall_exists_index, and_imp,
    forall_apply_eq_imp_iff₂, MovieRemoval.KeepsVersion]
  grind

/-- The movies of the removals by batches are found. -/
def BatchMoviesFound (rs : List MovieRemoval) (db : Tables) : Prop :=
  ∀ job, MovieRemoval.batch job ∈ rs → (db.findMovie job.movieId).isSome

theorem Effects.mem_movieVersions_iff {now : Nat} {db' : Tables} {rs : List MovieRemoval}
    (h : Effects (MovieRemoval.apply now) db rs db') (hfound : BatchMoviesFound rs db)
    (v : MovieVersion) :
    v ∈ db'.movieVersions ↔ v ∈ db.movieVersions ∧ ∀ r ∈ rs, r.KeepsVersion v := by
  refine h.keeps_iff (I := BatchMoviesFound rs) (P := fun db => v ∈ db.movieVersions)
    (Q := fun r => r.KeepsVersion v) ?_ ?_ ?_ hfound
  · rintro db db' ⟨f, history, -, rfl⟩ hfound job hjob
    exact hfound job hjob
  · intro db db' hmarks
    rw [hmarks.movieVersions_eq]
  · intro r hr db hfound
    refine ⟨fun job hjob => ?_, r.apply_mem_movieVersions_iff v fun job hjob => ?_⟩
    · rw [r.findMovie_apply_isSome]
      exact hfound job hjob
    · exact hfound job (hjob ▸ hr)

theorem batchMoviesFound_deletedJobs :
    ∀ job ∈ deletedJobs env outcomes db approvedBy candidates,
      (db.findMovie job.movieId).isSome := by
  intro job hjob
  obtain ⟨config, -, hbatch⟩ := mem_deletedJobs hjob
  exact (mem_batch hbatch).findMovie_isSome

theorem batchMoviesFound_unmonitoredJobs :
    ∀ job ∈ unmonitoredJobs env outcomes db approvedBy candidates,
      (db.findMovie job.movieId).isSome := by
  intro job hjob
  obtain ⟨config, -, hbatch⟩ := mem_unmonitoredJobs hjob
  exact (mem_batch hbatch).findMovie_isSome

/-- The version rows when the clean-up of the unmonitored movies starts. -/
theorem mem_unmonitoring_movieVersions {v : MovieVersion} :
    v ∈ (unmonitoring env outcomes db approvedBy candidates).db.movieVersions ↔
      v ∈ db.movieVersions ∧ ¬VersionDeleted env outcomes db candidates v.id ∧
        ¬TargetedIn (deletedJobs env outcomes db approvedBy candidates) v.id := by
  rw [Effects.mem_movieVersions_iff unmonitoring_effects, List.forall_mem_append,
    keepsVersion_versionRemovals_iff, keepsVersion_batches_iff]
  intro job hjob
  have hmem : job ∈ deletedJobs env outcomes db approvedBy candidates := by
    simpa [versionRemovals] using hjob
  exact batchMoviesFound_deletedJobs job hmem

/-- The version rows after a run. -/
theorem mem_run_movieVersions {restrictToIds : List Nat} {v : MovieVersion} :
    v ∈ (deleteMovieCandidates env outcomes db restrictToIds approvedBy).db.movieVersions ↔
      v ∈ db.movieVersions ∧
        ¬VersionDeleted env outcomes db (loadCandidates env db restrictToIds) v.id ∧
        ¬TargetedIn (deletedJobs env outcomes db approvedBy (loadCandidates env db restrictToIds))
          v.id ∧
        ¬TargetedIn (unmonitoredJobs env outcomes db approvedBy
          (loadCandidates env db restrictToIds)) v.id := by
  have hfallback : ∀ c, ∀ r ∈ fallbackRemovals env outcomes
      (batched env outcomes db approvedBy (loadCandidates env db restrictToIds)).db c,
      ∃ c movieId, r = .fallback c movieId := by
    intro c r hr
    unfold fallbackRemovals at hr
    split at hr
    · simp at hr
    · split at hr
      · simp at hr
      · split_ifs at hr
        · exact ⟨_, _, List.mem_singleton.mp hr⟩
        · simp at hr
  have hkept : ∀ r ∈ (unhandled env outcomes db approvedBy
      (loadCandidates env db restrictToIds)).flatMap (fallbackRemovals env outcomes
      (batched env outcomes db approvedBy (loadCandidates env db restrictToIds)).db),
      r.KeepsVersion v := by
    intro r hr
    obtain ⟨c, -, hc⟩ := List.mem_flatMap.mp hr
    obtain ⟨_, _, rfl⟩ := hfallback c r hc
    trivial
  rw [Effects.mem_movieVersions_iff (run_effects ..), removals]
  · simp only [List.forall_mem_append, keepsVersion_versionRemovals_iff, keepsVersion_batches_iff,
      and_assoc]
    simp only [eq_true hkept, and_true]
  · intro job hjob
    simp only [removals, List.mem_append, List.mem_map, or_assoc] at hjob
    rcases hjob with hversion | ⟨job', hjob', heq⟩ | ⟨job', hjob', heq⟩ | hfall
    · simp [versionRemovals] at hversion
    · exact MovieRemoval.batch.inj heq ▸ batchMoviesFound_deletedJobs job' hjob'
    · exact MovieRemoval.batch.inj heq ▸ batchMoviesFound_unmonitoredJobs job' hjob'
    · obtain ⟨c, -, hc⟩ := List.mem_flatMap.mp hfall
      obtain ⟨_, _, hne⟩ := hfallback c _ hc
      simp at hne

/-! ## The calls of the clean-up -/

section CleanUp

variable {db' : Tables} {job : MovieJob}

theorem itemEvents_congr {service : Service}
    (hversions : versionsOf db' job.movieId = versionsOf db job.movieId)
    (versions : List MovieVersion) (deleted : List String) :
    itemEvents outcomes db' candidates service job versions deleted =
      itemEvents outcomes db candidates service job versions deleted := by
  induction versions generalizing deleted with
  | nil => rfl
  | cons version versions ih =>
    have hshared : ∀ item, itemShared db' service job item = itemShared db service job item :=
      fun item => by rw [itemShared, itemShared, hversions]
    have husers : ∀ item, itemUsers db' service job item = itemUsers db service job item :=
      fun item => by rw [itemUsers, itemUsers, serviceVersions, serviceVersions, hversions]
    rw [itemEvents, itemEvents, hshared, husers]
    split_ifs <;> simp only [ih]

/-- The clean-up of a movie depends on its rows and on the settings only. -/
theorem cleanUpEvents_congr (hsettings : db'.settings = db.settings)
    (hfound : (db'.findMovie job.movieId).isSome = (db.findMovie job.movieId).isSome)
    (hversions : versionsOf db' job.movieId = versionsOf db job.movieId) :
    cleanUpEvents env outcomes db' candidates job =
      cleanUpEvents env outcomes db candidates job := by
  have hnone : (db'.findMovie job.movieId).isNone = (db.findMovie job.movieId).isNone := by
    rw [← Option.not_isSome, ← Option.not_isSome, hfound]
  have hcleanup : unmonitorCleanupEvents env outcomes db' candidates job =
      unmonitorCleanupEvents env outcomes db candidates job := by
    simp only [unmonitorCleanupEvents, cleanupEvents, localPath, Tables.effectiveSettings,
      hversions, hsettings]
  have hservice : ∀ service, serviceVersions db' service job = serviceVersions db service job :=
    fun service => by rw [serviceVersions, serviceVersions, hversions]
  have heffective : db'.effectiveSettings = db.effectiveSettings := by
    rw [Tables.effectiveSettings, Tables.effectiveSettings, hsettings]
  rw [cleanUpEvents, cleanUpEvents, hnone, hcleanup, heffective]
  simp only [itemEvents_congr hversions, hservice]

theorem versionsOf_recordRemoval {now movieId : Nat}
    (hother : ∀ v ∈ db'.movieVersions, v.movieId = movieId → v.id ∉ job.concreteVersionIds) :
    versionsOf (recordRemoval now db' job) movieId = versionsOf db' movieId := by
  have hfilter : versionsOf (deleteVersionRows now job job.movieId db') movieId =
      versionsOf db' movieId := by
    simp only [versionsOf, deleteVersionRows, Tables.softRemoveMovieIfEmpty_movieVersions,
      Tables.shrinkMovie, List.filter_filter]
    refine List.filter_congr fun v hv => ?_
    by_cases hmovie : v.movieId = movieId
    · simp [hmovie, hother v hv hmovie]
    · simp [hmovie]
  rw [MovieRemoval.recordRemoval_eq]
  show versionsOf (removeTargets now db' job) movieId = _
  unfold removeTargets
  split
  · rfl
  · rename_i movie hmovie
    split_ifs
    · rfl
    · rw [Tables.findMovie_id hmovie]
      exact hfilter

/-- The calls of the clean-up: no movie's clean-up changes what that of another one calls. -/
theorem cleaning_events (hdb : db.Consistent) (hsub : ∀ c ∈ candidates, c ∈ db.candidates) :
    (cleaning env outcomes db approvedBy candidates).events =
      (unmonitoredJobs env outcomes db approvedBy candidates).flatMap
        (cleanUpEvents env outcomes (unmonitoring env outcomes db approvedBy candidates).db
          candidates) := by
  have hrows : ∀ job ∈ unmonitoredJobs env outcomes db approvedBy candidates,
    ∀ v ∈ db.movieVersions,
      v.id ∈ job.concreteVersionIds → v.movieId = job.movieId := by
    intro job hjob v hv
    obtain ⟨config, -, hbatch⟩ := mem_unmonitoredJobs hjob
    exact (mem_batch hbatch).movieId_of_mem_concreteVersionIds hdb hsub hv
  have hstep : ∀ (run : Run) (job : MovieJob),
      (finalizeUnmonitor env outcomes candidates approvedBy run job).events =
        run.events ++ cleanUpEvents env outcomes run.db candidates job := fun _ _ => rfl
  refine (Loops.foldl_trace_of_independent
    (I := fun run : Run => ∀ v ∈ run.db.movieVersions, v ∈ db.movieVersions)
    ?_ hstep ?_ ?_).trans (List.nil_append _)
  · intro job _ run hrun v hv
    exact hrun v (MovieRemoval.mem_of_mem_recordRemoval hv)
  · refine List.Pairwise.imp_of_mem ?_ (firstOfEach_pairwise MovieJob.movieId _)
    intro job job' hjob hjob' hne run hrun
    refine cleanUpEvents_congr (MovieRemoval.apply_settings (.batch job))
      (MovieRemoval.findMovie_apply_isSome (.batch job) _) (versionsOf_recordRemoval ?_)
    intro v hv hmovie hmem
    exact hne ((hrows job hjob v (hrun v hv) hmem).symm.trans hmovie)
  · intro v hv
    exact (mem_unmonitoring_movieVersions.mp hv).1

end CleanUp

/-! ## The calls of a run -/

/-- The calls of the fallback, when it is enabled and a media server is connected. -/
def fallbackPhaseEvents (env : Environment) (outcomes : MovieOutcomes) (rows : Tables)
    (unhandled : List ReclaimCandidate) : List Event :=
  match env.services.mainMediaServerType with
  | none => []
  | some service =>
    if rows.effectiveSettings.mediaServerFallbackEnabled then
      unhandled.flatMap (fallbackEvents outcomes rows service)
    else []

theorem fallback_events {error : String} {unhandled : List ReclaimCandidate} {run : Run} :
    (fallback env outcomes approvedBy error unhandled run).events =
      run.events ++ fallbackPhaseEvents env outcomes run.db unhandled := by
  have hstep : ∀ service (run' : Run) c,
      (fallbackStep env outcomes run.db approvedBy service run' c).events =
        run'.events ++ fallbackEvents outcomes run.db service c := by
    intro service run' c
    unfold fallbackStep
    split
    · rfl
    · split_ifs <;> rfl
  unfold fallback fallbackPhaseEvents
  split_ifs with henabled
  · cases env.services.mainMediaServerType with
    | none => simp
    | some service => simpa using Loops.foldl_trace (hstep service) unhandled run
  · cases env.services.mainMediaServerType <;> simp

theorem events_eq (env : Environment) (outcomes : MovieOutcomes) (db : Tables)
    (restrictToIds : List Nat) (approvedBy : String) :
    (deleteMovieCandidates env outcomes db restrictToIds approvedBy).events =
      (batched env outcomes db approvedBy (loadCandidates env db restrictToIds)).events ++
        fallbackPhaseEvents env outcomes
          (batched env outcomes db approvedBy (loadCandidates env db restrictToIds)).db
          (unhandled env outcomes db approvedBy (loadCandidates env db restrictToIds)) :=
  fallback_events

theorem effects_settings {db' : Tables} {rs : List MovieRemoval} {now : Nat}
    (h : Effects (MovieRemoval.apply now) db rs db') : db'.settings = db.settings :=
  h.preserves (P := fun db' => db'.settings = db.settings)
    (fun hmarks hP => by obtain ⟨-, -, -, rfl⟩ := hmarks; exact hP)
    (fun r _ db' hP => (r.apply_settings).trans hP) rfl

theorem findMovie_unmonitoring_isSome (id : Nat) :
    ((unmonitoring env outcomes db approvedBy candidates).db.findMovie id).isSome =
      (db.findMovie id).isSome := by
  refine unmonitoring_effects.preserves
    (P := fun db' => (db'.findMovie id).isSome = (db.findMovie id).isSome) ?_ ?_ rfl
  · rintro db' db'' ⟨f, history, -, rfl⟩ hsame
    exact hsame
  · intro r _ db' hsame
    rw [r.findMovie_apply_isSome, hsame]

/-! ## Which calls succeed -/

section Succeeds

variable {kind : Call → Bool} {covers : ReclaimCandidate → Prop}

theorem deletedVersion_eq_some {c : ReclaimCandidate} {version : MovieVersion}
    (h : deletedVersion env outcomes db c = some version) :
    c.movieVersionId = some version.id ∧ version ∈ db.movieVersions := by
  unfold deletedVersion at h
  split at h
  · exact absurd h (by simp)
  · split at h
    · exact absurd h (by simp)
    · rename_i found movie htarget
      split_ifs at h
      obtain rfl := Option.some.inj h
      unfold versionTarget at htarget
      split at htarget
      · exact absurd htarget (by simp)
      · rename_i row hrow
        split at htarget
        · exact absurd htarget (by simp)
        · dsimp only at htarget
          split_ifs at htarget
          obtain ⟨rfl, -⟩ := Prod.mk.inj (Except.ok.inj htarget)
          obtain ⟨versionId, hversion, hfound⟩ := Option.bind_eq_some_iff.mp hrow
          have hid : row.id = versionId := by simpa using List.find?_some hfound
          exact ⟨by rw [hversion, hid], List.mem_of_find?_eq_some hfound⟩

theorem not_succeeds_cleanupEvents_of_forall {cs : List ReclaimCandidate} {disk : DiskView}
    {service : Option Service} {removed : Nat} {version : MovieVersion}
    (h : ∀ c ∈ cs, ¬covers c) :
      ¬Succeeds kind covers (cleanupEvents db cs disk service removed version) := by
  unfold cleanupEvents
  split
  · simp
  · simp only [succeeds_cons, succeeds_nil, or_false]
    rintro ⟨-, -, c, hc, hcovers⟩
    exact h c hc hcovers

/-- The version phase succeeds for the candidates whose version it deletes. -/
theorem succeeds_versionPhase_iff
    (hversion : ∀ item media, kind (.deleteMovieVersion item media) = true)
    (hradarr : ∀ client config ids exclusion,
      kind (.radarr client config (.deleteMovies ids false exclusion)) = false) :
    Succeeds kind covers (versionPhase env outcomes db approvedBy candidates).events ↔
      ∃ c ∈ unmatchedVersionCandidates env db candidates,
        (deletedVersion env outcomes db c).isSome ∧ covers c := by
  unfold versionPhase deleteMovieVersionCandidates
  by_cases henabled : db.effectiveSettings.mediaServerFallbackEnabled = true
  · simp only [henabled, Bool.not_true, Bool.false_eq_true, if_false]
    cases hservice : env.services.mainMediaServerType with
    | none => simp [deletedVersion, hservice]
    | some service =>
      have hstep : ∀ (run : Run) (c : ReclaimCandidate),
          ¬Succeeds kind covers
            (deleteVersionStep env outcomes db approvedBy service run c).events ↔
            ¬Succeeds kind covers run.events ∧
              ¬((deletedVersion env outcomes db c).isSome ∧ covers c) := by
        intro run c
        simp only [deleteVersionStep, deletedVersion, hservice, henabled, true_and]
        cases versionTarget db service c with
        | error error => simp
        | ok target =>
          obtain ⟨version, movie⟩ := target
          cases outcomes.deleteMovieVersion c.id with
          | error e => simp [Outcome.succeeded]
          | ok _ =>
            have hemptied : ¬Succeeds kind covers
                (removeEmptiedEvents env outcomes db c version.movieId) := by
              rintro ⟨e, he, -, hkind, -⟩
              obtain ⟨ref, -, href⟩ := List.mem_filterMap.mp he
              obtain ⟨client, -, rfl⟩ := Option.map_eq_some_iff.mp href
              simp [hradarr] at hkind
            by_cases hcovers : covers c
            · simp [Outcome.succeeded, hversion, hcovers]
            · have hclean : ¬Succeeds kind covers (cleanupEvents db [c] (outcomes.versionDisk c.id)
                  (some service) (outcomes.versionCleanup c.id) version) :=
                not_succeeds_cleanupEvents_of_forall (by simpa using hcovers)
              simp only [succeeds_append, succeeds_cons, hcovers, hclean, Outcome.succeeded]
              split_ifs <;> simp [hemptied, hcovers]
      rw [← not_iff_not, Loops.foldl_keeps_iff (I := fun _ => True)
        (P := fun run : Run => ¬Succeeds kind covers run.events)
        (fun _ _ _ _ => trivial) (fun c _ run _ => hstep run c) trivial]
      simp
  · simp [henabled, deletedVersion_of_disabled henabled]

/-- The clean-up on the disk of a version succeeds: its path resolves, and files are removed. -/
def VersionCleaned (env : Environment) (outcomes : MovieOutcomes) (db : Tables)
    (version : MovieVersion) : Prop :=
  truthyText version.path ≠ none ∧
    (localPath db (outcomes.unmonitorDisk version.id) env.services.mainMediaServerType
      version).isSome ∧ 0 < outcomes.unmonitorCleanup version.id

theorem succeeds_cleanupEvents_iff {cs : List ReclaimCandidate} {disk : DiskView}
    {service : Option Service} {removed : Nat} {version : MovieVersion}
    (hcleanup : ∀ path, kind (.siblingCleanup path) = true) :
    Succeeds kind covers (cleanupEvents db cs disk service removed version) ↔
      (localPath db disk service version).isSome ∧ 0 < removed ∧ ∃ c ∈ cs, covers c := by
  unfold cleanupEvents
  cases localPath db disk service version <;> simp [hcleanup]

/-- The loop over the versions deletes an item when the deletion succeeds for one of them. -/
theorem succeeds_itemEvents_iff {service : Service} {job : MovieJob}
    (hitem : ∀ item, kind (.deleteItem item) = true) (versions : List MovieVersion)
    (deleted : List String) :
    Succeeds kind covers (itemEvents outcomes db candidates service job versions deleted) ↔
      ∃ w ∈ versions, w.serviceItemId ∉ deleted ∧
        itemShared db service job w.serviceItemId = false ∧
        (outcomes.deleteItem w.id).succeeded = true ∧
        ∃ c ∈ candidatesFor candidates job.movieId (itemUsers db service job w.serviceItemId),
          covers c := by
  induction versions generalizing deleted with
  | nil => simp [itemEvents]
  | cons version versions ih =>
    rw [itemEvents]
    dsimp only
    split_ifs with hskip hok
    · rw [ih]
      grind
    · -- the item goes: later versions of it change nothing
      rw [succeeds_cons, ih]
      simp only [hok, hitem, true_and]
      grind
    · rw [succeeds_cons, ih]
      simp only [hok]
      grind

/-- A file step of an unmonitored movie's clean-up succeeds for a candidate of this kind: the
clean-up of a targeted version, or the deletion of an item that no other version uses. -/
def CleanUpSucceeds (env : Environment) (outcomes : MovieOutcomes) (db : Tables)
    (candidates : List ReclaimCandidate) (job : MovieJob) (covers : ReclaimCandidate → Prop) :
      Prop :=
  (∃ v ∈ versionsOf db job.movieId, targetsVersion job v = true ∧
      VersionCleaned env outcomes db v ∧
      ∃ c ∈ candidatesFor candidates job.movieId [v], covers c) ∨
    (db.effectiveSettings.mediaServerFallbackEnabled = true ∧
      ∃ service, env.services.mainMediaServerType = some service ∧
        ∃ w ∈ serviceVersions db service job,
          itemShared db service job w.serviceItemId = false ∧
          (outcomes.deleteItem w.id).succeeded = true ∧
          ∃ c ∈ candidatesFor candidates job.movieId (itemUsers db service job w.serviceItemId),
            covers c)

theorem succeeds_cleanUpEvents_iff {job : MovieJob} (hfound : (db.findMovie job.movieId).isSome)
    (hcleanup : ∀ path, kind (.siblingCleanup path) = true)
    (hitem : ∀ item, kind (.deleteItem item) = true) :
    Succeeds kind covers (cleanUpEvents env outcomes db candidates job) ↔
      CleanUpSucceeds env outcomes db candidates job covers := by
  have hnone : ¬(db.findMovie job.movieId).isNone = true := by
    rw [← Option.not_isSome, hfound]
    simp
  have hdisk : Succeeds kind covers (unmonitorCleanupEvents env outcomes db candidates job) ↔
      ∃ v ∈ versionsOf db job.movieId, targetsVersion job v = true ∧
        VersionCleaned env outcomes db v ∧
        ∃ c ∈ candidatesFor candidates job.movieId [v], covers c := by
    simp only [unmonitorCleanupEvents, succeeds_flatMap, succeeds_cleanupEvents_iff hcleanup,
      List.mem_filter, decide_eq_true_eq, VersionCleaned]
    grind
  rw [cleanUpEvents, if_neg hnone, succeeds_append, hdisk, CleanUpSucceeds]
  refine or_congr_right ?_
  cases env.services.mainMediaServerType with
  | none => simp
  | some service =>
    by_cases henabled : db.effectiveSettings.mediaServerFallbackEnabled = true
    · simp [henabled, succeeds_itemEvents_iff hitem]
    · simp [henabled]

/-- The clean-up of the unmonitored movies succeeds when that of one of them does. -/
theorem succeeds_cleaning_iff (hdb : db.Consistent) (hsub : ∀ c ∈ candidates, c ∈ db.candidates)
    (hcleanup : ∀ path, kind (.siblingCleanup path) = true)
    (hitem : ∀ item, kind (.deleteItem item) = true) :
    Succeeds kind covers (cleaning env outcomes db approvedBy candidates).events ↔
      ∃ job ∈ unmonitoredJobs env outcomes db approvedBy candidates,
        CleanUpSucceeds env outcomes (unmonitoring env outcomes db approvedBy candidates).db
          candidates job covers := by
  rw [cleaning_events hdb hsub, succeeds_flatMap]
  refine exists_congr fun job => and_congr_right fun hjob => ?_
  refine succeeds_cleanUpEvents_iff ?_ hcleanup hitem
  rw [findMovie_unmonitoring_isSome]
  exact batchMoviesFound_unmonitoredJobs job hjob

/-- Nothing succeeds in the calls of the unmonitor batches but the unmonitoring. -/
theorem not_succeeds_unmonitoring
    (hradarr : ∀ client config ids, kind (.radarr client config (.unmonitorMovies ids)) = false) :
    ¬Succeeds kind covers (unmonitoring env outcomes db approvedBy candidates).events := by
  simp only [unmonitoring, BatchRoute.runBatches_events, succeeds_flatMap]
  rintro ⟨config, -, hcalls⟩
  unfold BatchRoute.callsOf at hcalls
  split at hcalls <;> simp [unmonitorRoute, unmonitorBatchEvents, hradarr] at hcalls

theorem not_succeeds_rescanEvents {rescanOk : Nat → Bool} {refresh : List (Nat × List Nat)} :
    ¬Succeeds kind covers (rescanEvents env rescanOk refresh) := by
  rintro ⟨e, he, -, -, c, hc, -⟩
  obtain ⟨entry, -, hentry⟩ := List.mem_filterMap.mp he
  obtain ⟨client, -, rfl⟩ := Option.map_eq_some_iff.mp hentry
  simp at hc

/-- The calls of the delete batches are made for candidates of their entries. -/
theorem exists_job_of_succeeds_deleting
    (h : Succeeds kind covers (deleting env outcomes db approvedBy candidates).events) :
    ∃ config, ∃ job ∈ batch env db candidates false config, ∃ c ∈ job.candidates, covers c := by
  obtain ⟨e, he, -, -, c, hc, hcovers⟩ := h
  rw [deleting, BatchRoute.runBatches_events] at he
  obtain ⟨config, -, he⟩ := List.mem_flatMap.mp he
  unfold BatchRoute.callsOf at he
  split at he
  · exact absurd he List.not_mem_nil
  · have hcall : ∃ job ∈ batch env db candidates false config, c ∈ job.candidates := by
      simp only [deleteRoute, deleteBatchEvents] at he
      split at he
      · obtain rfl := List.mem_singleton.mp he
        exact List.mem_flatMap.mp hc
      · rcases List.mem_append.mp he with hmove | hdelete
        · obtain ⟨job, hjob, hmove⟩ := List.mem_flatMap.mp hmove
          obtain ⟨version, -, hversion⟩ := List.mem_filterMap.mp hmove
          split_ifs at hversion
          obtain ⟨path, -, rfl⟩ := Option.map_eq_some_iff.mp hversion
          exact ⟨job, hjob, hc⟩
        · obtain rfl := List.mem_singleton.mp hdelete
          exact List.mem_flatMap.mp hc
    obtain ⟨job, hjob, hmem⟩ := hcall
    exact ⟨config, job, hjob, c, hmem, hcovers⟩

theorem candidates_of_mem_fallbackItemEvents {c : ReclaimCandidate} {versions : List MovieVersion}
    {e : Event} (h : e ∈ fallbackItemEvents outcomes c versions) : e.candidates = [c] := by
  induction versions with
  | nil => exact absurd h List.not_mem_nil
  | cons v versions ih =>
    rcases List.mem_cons.mp h with rfl | hrest
    · rfl
    · split_ifs at hrest
      · exact ih hrest
      · exact absurd hrest List.not_mem_nil

/-- The calls of the fallback are made for the candidates that no instance handled. -/
theorem exists_candidate_of_succeeds_fallbackPhaseEvents {unhandled : List ReclaimCandidate}
    (h : Succeeds kind covers (fallbackPhaseEvents env outcomes db unhandled)) :
    ∃ c ∈ unhandled, covers c := by
  have hevents : ∀ service c, ∀ e ∈ fallbackEvents outcomes db service c, e.candidates = [c] := by
    intro service c e he
    unfold fallbackEvents at he
    split at he
    · exact absurd he List.not_mem_nil
    · rename_i movie versions _
      rcases List.mem_append.mp he with hitem | hclean
      · exact candidates_of_mem_fallbackItemEvents hitem
      · split_ifs at hclean
        · obtain ⟨v, -, hv⟩ := List.mem_flatMap.mp hclean
          unfold cleanupEvents at hv
          split at hv
          · exact absurd hv List.not_mem_nil
          · rw [List.mem_singleton.mp hv]
        · exact absurd hclean List.not_mem_nil
  obtain ⟨e, he, -, -, c, hc, hcovers⟩ := h
  unfold fallbackPhaseEvents at he
  split at he
  · exact absurd he List.not_mem_nil
  · split_ifs at he
    · obtain ⟨c', hc', he⟩ := List.mem_flatMap.mp he
      rw [hevents _ c' e he, List.mem_singleton] at hc
      exact ⟨c', hc', hc ▸ hcovers⟩
    · exact absurd he List.not_mem_nil

end Succeeds

end Movie

end MediaMasterr.Deletion
