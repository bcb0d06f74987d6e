import MediaMasterr.Deletion.MovieCleanUp
import MediaMasterr.Deletion.RadarrRouting

/-! # Version rows and version files

The movie handler deletes all targeted version rows of a movie once one batch
with it has succeeded. The rows keep in step with the files exactly when every
targeted version of such a movie is covered by an operation that succeeds. -/

namespace MediaMasterr.Deletion.Movie

open MediaMasterr.Foundations MediaMasterr.Database MediaMasterr.Filesystem

/-- Deleting the entry of a ref deletes the file of the version: the folder contains it, or the
movie has no other ref. -/
def RefCovers (db : Tables) (v : MovieVersion) (ref : MovieArrRef) : Prop :=
  folderContains db v.path (some v.service) ref.arrMoviePath ref.serviceConfigId = true ∨
    movieRefs db v.movieId = [ref]

/-- A Radarr deletion of an entry that covers the version succeeds. -/
def DeletedThroughRadarr (db : Tables) (events : List Event) (v : MovieVersion) : Prop :=
  ∃ e ∈ events, e.ok = true ∧ ∃ client config ids deleteFiles exclusion,
    e.call = .radarr client config (.deleteMovies ids deleteFiles exclusion) ∧
      ∃ ref ∈ movieRefs db v.movieId,
        ref.serviceConfigId = config ∧ ref.arrMovieId ∈ ids ∧ RefCovers db v ref

/-- A version row is removed only if an operation on the version's file succeeds: a deletion on
the media server or on the disk, or the Radarr deletion of an entry that covers it. -/
def RowsFollowFiles (env : Environment) (outcomes : MovieOutcomes) (db : Tables)
    (restrictToIds : List Nat) (approvedBy : String) : Prop :=
  let run := deleteMovieCandidates env outcomes db restrictToIds approvedBy
  ∀ v ∈ db.movieVersions, v ∉ run.db.movieVersions →
    Succeeds Call.deletesVersion (·.movieVersionId = some v.id) run.events ∨
      DeletedThroughRadarr db
        (deleting env outcomes db approvedBy (loadCandidates env db restrictToIds)).events v

/-- The entry of a ref that covers the version is in a delete batch that succeeds. -/
def CoveredByRadarr (env : Environment) (outcomes : MovieOutcomes) (db : Tables)
    (candidates : List ReclaimCandidate) (v : MovieVersion) : Prop :=
  ∃ config, (outcomes.deleteMovies config).succeeded = true ∧
    ∃ job ∈ batch env db candidates false config, ∃ ref ∈ movieRefs db v.movieId,
      ref.serviceConfigId = config ∧ ref.arrMovieId = job.radarrId ∧ RefCovers db v ref

/-- Every targeted version of a movie with a successful batch is covered. -/
def RowsCovered (env : Environment) (outcomes : MovieOutcomes) (db : Tables)
    (candidates : List ReclaimCandidate) : Prop :=
  ∀ v ∈ db.movieVersions, Targeted candidates v →
    DeletedInBatch env outcomes db candidates v.movieId ∨
      UnmonitoredInBatch env outcomes db candidates v.movieId →
    VersionDeleted env outcomes db candidates v.id ∨
      CoveredByRadarr env outcomes db candidates v ∨
      (UnmonitoredInBatch env outcomes db candidates v.movieId ∧
        CoveredByCleanUp env outcomes db candidates v)

variable {env : Environment} {outcomes : MovieOutcomes} {db : Tables}
variable {candidates : List ReclaimCandidate} {approvedBy : String} {restrictToIds : List Nat}
variable {v : MovieVersion}

/-! ## Which operations succeed -/

section Operations

variable {job : MovieJob}

theorem succeeds_versionPhase_iff_versionDeleted :
    Succeeds Call.deletesVersion (·.movieVersionId = some v.id)
        (versionPhase env outcomes db approvedBy candidates).events ↔
      VersionDeleted env outcomes db candidates v.id := by
  rw [succeeds_versionPhase_iff (fun _ _ => rfl) (fun _ _ _ _ => rfl)]
  constructor
  · rintro ⟨c, hc, hsome, hversion⟩
    obtain ⟨deleted, hdeleted⟩ := Option.isSome_iff_exists.mp hsome
    have hid := (deletedVersion_eq_some hdeleted).1.symm.trans hversion
    exact ⟨c, hc, deleted, hdeleted, Option.some.inj hid⟩
  · rintro ⟨c, hc, deleted, hdeleted, hid⟩
    exact ⟨c, hc, by simp [hdeleted], hid ▸ (deletedVersion_eq_some hdeleted).1⟩

theorem not_succeeds_deleting {covers : ReclaimCandidate → Prop} :
    ¬Succeeds Call.deletesVersion covers
      (deleting env outcomes db approvedBy candidates).events := by
  simp only [deleting, BatchRoute.runBatches_events, succeeds_flatMap]
  rintro ⟨config, -, e, he, -, hkind, -⟩
  unfold BatchRoute.callsOf at he
  split at he
  · exact absurd he List.not_mem_nil
  · simp only [deleteRoute, deleteBatchEvents] at he
    split at he
    · rw [List.mem_singleton.mp he] at hkind
      exact absurd hkind (by simp [Call.deletesVersion])
    · rcases List.mem_append.mp he with hmove | hdelete
      · obtain ⟨job, -, hmove⟩ := List.mem_flatMap.mp hmove
        obtain ⟨version, -, hversion⟩ := List.mem_filterMap.mp hmove
        split_ifs at hversion
        obtain ⟨path, -, rfl⟩ := Option.map_eq_some_iff.mp hversion
        exact absurd hkind (by simp [Call.deletesVersion])
      · rw [List.mem_singleton.mp hdelete] at hkind
        exact absurd hkind (by simp [Call.deletesVersion])

/-- The calls of the delete batches delete the entries of the batches that succeed. -/
theorem deletedThroughRadarr_iff :
    DeletedThroughRadarr db (deleting env outcomes db approvedBy candidates).events v ↔
      CoveredByRadarr env outcomes db candidates v := by
  constructor
  · rintro ⟨e, he, hok, client, config, ids, deleteFiles, exclusion, hcall, ref, href, hconfig, hid,
      hcovers⟩
    rw [deleting, BatchRoute.runBatches_events] at he
    obtain ⟨config', -, he⟩ := List.mem_flatMap.mp he
    unfold BatchRoute.callsOf at he
    split at he
    · exact absurd he List.not_mem_nil
    · have hdelete : (outcomes.deleteMovies config').succeeded = true ∧ config = config' ∧
          ids = (batch env db candidates false config').map (·.radarrId) := by
        simp only [deleteRoute, deleteBatchEvents] at he
        split at he
        · rw [List.mem_singleton.mp he] at hok hcall
          simp only [Call.radarr.injEq, RadarrRequest.deleteMovies.injEq] at hcall
          exact ⟨hok, hcall.2.1.symm, hcall.2.2.1.symm⟩
        · rcases List.mem_append.mp he with hmove | hdelete
          · obtain ⟨job, -, hmove⟩ := List.mem_flatMap.mp hmove
            obtain ⟨version, -, hversion⟩ := List.mem_filterMap.mp hmove
            split_ifs at hversion
            obtain ⟨path, -, rfl⟩ := Option.map_eq_some_iff.mp hversion
            simp at hcall
          · rw [List.mem_singleton.mp hdelete] at hok hcall
            simp only [Call.radarr.injEq, RadarrRequest.deleteMovies.injEq] at hcall
            exact ⟨hok, hcall.2.1.symm, hcall.2.2.1.symm⟩
      obtain ⟨hsucceeded, rfl, rfl⟩ := hdelete
      obtain ⟨job, hjob, hradarr⟩ := List.mem_map.mp hid
      exact ⟨config, hsucceeded, job, hjob, ref, href, hconfig, hradarr.symm, hcovers⟩
  · rintro ⟨config, hok, job, hjob, ref, href, hconfig, hid, hcovers⟩
    have hentry := mem_batch hjob
    obtain ⟨client, hclient⟩ := Option.isSome_iff_exists.mp hentry.client
    have hids : ref.arrMovieId ∈ (batch env db candidates false config).map (·.radarrId) :=
      List.mem_map.mpr ⟨job, hjob, hid.symm⟩
    have hcall : ∃ deleteFiles, ⟨(batch env db candidates false config).flatMap (·.candidates),
        .radarr client config (.deleteMovies
          ((batch env db candidates false config).map (·.radarrId)) deleteFiles
          (versionPhase env outcomes db approvedBy candidates).db.effectiveSettings.addArrImportExclusionsOnDelete),
        (outcomes.deleteMovies config).succeeded⟩ ∈
        (deleting env outcomes db approvedBy candidates).events := by
      rw [deleting, BatchRoute.runBatches_events]
      simp only [List.mem_flatMap, BatchRoute.callsOf, deleteRoute]
      cases hmove : moveDestination
          (versionPhase env outcomes db approvedBy candidates).db.effectiveSettings with
      | none => exact ⟨true, config, hentry.mem_configs,
        by simp [hclient, deleteBatchEvents, hmove]⟩
      | some destination =>
        exact ⟨false, config, hentry.mem_configs, by simp [hclient, deleteBatchEvents, hmove]⟩
    obtain ⟨deleteFiles, hcall⟩ := hcall
    exact ⟨_, hcall, hok, client, config, _, deleteFiles, _, rfl, ref, href, hconfig, hids, hcovers⟩

end Operations

/-! ## The rows and the files -/

/-- The calls of a run that delete the file of a targeted version, besides those of Radarr. -/
theorem succeeds_run_iff (hdb : db.Consistent) (hv : v ∈ db.movieVersions)
    (htargeted : Targeted (loadCandidates env db restrictToIds) v)
    (hkept : ¬VersionDeleted env outcomes db (loadCandidates env db restrictToIds) v.id) :
    Succeeds Call.deletesVersion (·.movieVersionId = some v.id)
        (deleteMovieCandidates env outcomes db restrictToIds approvedBy).events ↔
      UnmonitoredInBatch env outcomes db (loadCandidates env db restrictToIds) v.movieId ∧
        CoveredByCleanUp env outcomes db (loadCandidates env db restrictToIds) v := by
  have hsub : ∀ c ∈ loadCandidates env db restrictToIds, c ∈ db.candidates :=
    fun c hc => (mem_loadCandidates hc).1
  have hfallback : ∀ rows, ¬Succeeds Call.deletesVersion (·.movieVersionId = some v.id)
      (fallbackPhaseEvents env outcomes rows
        (unhandled env outcomes db approvedBy (loadCandidates env db restrictToIds))) := by
    -- the fallback is for whole movies only
    intro rows h
    obtain ⟨c, hc, hversion⟩ := exists_candidate_of_succeeds_fallbackPhaseEvents h
    simp [unhandled, wholeMovieCandidates, hversion] at hc
  have hunmonitoring : ¬Succeeds Call.deletesVersion (·.movieVersionId = some v.id)
      (unmonitoring env outcomes db approvedBy (loadCandidates env db restrictToIds)).events :=
    not_succeeds_unmonitoring fun _ _ _ => rfl
  rw [events_eq, succeeds_append, batched]
  simp only [succeeds_append, succeeds_versionPhase_iff_versionDeleted, hkept,
    not_succeeds_deleting,
    not_succeeds_rescanEvents, hunmonitoring, hfallback, false_or, or_false]
  rw [succeeds_cleaning_iff_covered hdb hsub (fun _ => rfl) (fun _ => rfl)]
  constructor
  · rintro ⟨w, hw, hunmonitored, -, hcovered, c, hc, htarget, hversion⟩
    -- the version `v` is the only one in the target of its candidates
    have hsame : v = w := by
      have hid : some v.id = some w.id := by simpa [InTarget, hversion] using htarget.2
      exact hdb.version_ext hv hw (Option.some.inj hid)
    exact hsame ▸ ⟨hunmonitored, hcovered⟩
  · rintro ⟨hunmonitored, hcovered⟩
    obtain ⟨⟨c, hc, hmovie, hversion⟩, -⟩ := htargeted
    exact ⟨v, hv, hunmonitored, hkept, hcovered, c, hc, ⟨hmovie, Or.inr hversion⟩, hversion⟩

/-- Rows are removed only with their files if and only if every targeted version of a movie with
a successful batch is covered. -/
theorem rowsFollowFiles_iff (hdb : db.Consistent) :
    RowsFollowFiles env outcomes db restrictToIds approvedBy ↔
      RowsCovered env outcomes db (loadCandidates env db restrictToIds) := by
  unfold RowsFollowFiles RowsCovered
  refine forall₂_congr fun v hv => ?_
  rw [not_mem_run_movieVersions_iff hdb hv, deletedThroughRadarr_iff]
  by_cases hdeleted : VersionDeleted env outcomes db (loadCandidates env db restrictToIds) v.id
  · have hsucceeds : Succeeds Call.deletesVersion (·.movieVersionId = some v.id)
        (deleteMovieCandidates env outcomes db restrictToIds approvedBy).events := by
      rw [events_eq, succeeds_append, batched]
      simp only [succeeds_append, succeeds_versionPhase_iff_versionDeleted, hdeleted, true_or]
    simp only [hdeleted, hsucceeds, true_or, implies_true]
  · constructor
    · intro h htargeted hbatch
      have hfile := h (Or.inr ⟨htargeted, hbatch⟩)
      rw [succeeds_run_iff hdb hv htargeted hdeleted] at hfile
      exact Or.inr hfile.symm
    · rintro h (hversion | ⟨htargeted, hbatch⟩)
      · exact absurd hversion hdeleted
      · rw [succeeds_run_iff hdb hv htargeted hdeleted]
        exact ((h htargeted hbatch).resolve_left hdeleted).symm

theorem splitMovie_consistent : splitMovie.Consistent :=
  ⟨by decide, by decide, by decide⟩

/-- Both instances delete their entry, and both rows go. -/
theorem rowsFollowFiles_splitMovie : RowsFollowFiles twoRadarrs {} splitMovie [] "system" := by
  refine (rowsFollowFiles_iff splitMovie_consistent).mpr fun v hv _ _ => Or.inr (Or.inl ?_)
  rcases List.mem_cons.mp hv with rfl | hv
  · exact ⟨1, rfl, by unfold RefCovers; decide⟩
  · obtain rfl := List.mem_singleton.mp hv
    exact ⟨2, rfl, by unfold RefCovers; decide⟩

/-- The second instance refuses its batch. -/
def secondRefuses : MovieOutcomes where
  deleteMovies config := if config = 2 then .error "timeout" else .ok ()

/-- The second instance keeps its entry, yet both rows go. -/
theorem not_rowsFollowFiles_splitMovie :
    ¬RowsFollowFiles twoRadarrs secondRefuses splitMovie [] "system" := by
  intro h
  have hcalls : ∀ e ∈ (deleting twoRadarrs secondRefuses splitMovie "system"
      (loadCandidates twoRadarrs splitMovie [])).events,
      e.ok = true → e.call = .radarr 1 1 (.deleteMovies [10] true true) := by
    decide
  rcases h _ (by decide : splitMovie.movieVersions[1] ∈ splitMovie.movieVersions) (by decide)
    with hserver | ⟨e, he, hok, client, config, ids, deleteFiles, exclusion, hcall, ref, href,
      hconfig, hid, hcovers⟩
  · exact absurd hserver (by unfold Succeeds; decide)
  · rw [hcalls e he hok] at hcall
    simp only [Call.radarr.injEq, RadarrRequest.deleteMovies.injEq] at hcall
    obtain ⟨-, rfl, rfl, -, -⟩ := hcall
    revert hcovers hid hconfig ref
    unfold RefCovers
    decide

end MediaMasterr.Deletion.Movie
