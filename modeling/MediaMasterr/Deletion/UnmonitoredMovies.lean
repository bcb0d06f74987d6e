import MediaMasterr.Deletion.MovieCleanUp
import MediaMasterr.Deletion.Removals
import MediaMasterr.Deletion.Handlers

/-! # Records of removal of unmonitored movies

A movie that is unmonitored, or a version of it, should be recorded as removed
only when a file step for it succeeds. The clean-up after an unmonitoring
swallows its failures, so the records hold exactly when it covers every target
that they are about. -/

namespace MediaMasterr.Deletion

open MediaMasterr.Foundations MediaMasterr.Database MediaMasterr.Filesystem

/-- The movie is not marked as removed; `db` are the tables before the run. -/
def MovieRemoval.KeepsMovie (db : Tables) (id : Nat) : MovieRemoval → Prop
  | .version _ v => ∀ w ∈ db.movieVersions, w.id = v.id → w.movieId ≠ id
  | .batch job => job.movieId ≠ id
  | .fallback _ movieId => movieId ≠ id

theorem MovieRemoval.apply_movieInLibrary {r : MovieRemoval} {db db' : Tables} {now id : Nat}
    (hrows : ∀ v ∈ db'.movieVersions, v ∈ db.movieVersions) (hkeeps : r.KeepsMovie db id)
    (h : db'.MovieInLibrary id) :
    (r.apply now db').MovieInLibrary id ∧
      ∀ v ∈ (r.apply now db').movieVersions, v ∈ db.movieVersions := by
  cases r with
  | version candidate deleted =>
    refine ⟨?_, fun v hv => hrows v (mem_deleteVersionRow.mp hv).1⟩
    show (Movie.deleteVersionRow now deleted.id
      (db'.deleteCandidate candidate.id)).MovieInLibrary id
    unfold Movie.deleteVersionRow
    split
    · exact h
    · rename_i w hw
      have hmovie := hkeeps w (hrows w (List.mem_of_find?_eq_some hw))
        (by simpa using List.find?_some hw)
      refine Tables.MovieInLibrary.softRemoveMovieIfEmpty ?_ hmovie.symm
      exact Tables.movieInLibrary_shrinkMovie.mpr h
  | batch job =>
    refine ⟨?_, fun v hv => hrows v (mem_of_mem_recordRemoval hv)⟩
    rw [apply, recordRemoval_eq]
    show (Movie.removeTargets now db' job).MovieInLibrary id
    unfold Movie.removeTargets
    split
    · exact h
    · rename_i movie hmovie
      rw [Tables.findMovie_id hmovie]
      split_ifs
      · exact Tables.movieInLibrary_removeMovie.mpr ⟨h, hkeeps.symm⟩
      · refine Tables.MovieInLibrary.softRemoveMovieIfEmpty ?_ hkeeps.symm
        exact Tables.movieInLibrary_shrinkMovie.mpr h
  | fallback candidate movieId =>
    exact ⟨Tables.movieInLibrary_removeMovie.mpr ⟨h, hkeeps.symm⟩, hrows⟩

namespace Movie

/-- The call is for a candidate in the target of `c`. -/
def Within (c c' : ReclaimCandidate) : Prop :=
  c'.movieId = c.movieId ∧ (c.movieVersionId = none ∨ c'.movieVersionId = c.movieVersionId)

/-- No movie or version on the unmonitor route is recorded as removed without a file step that
succeeds: what no step removed stays, with its candidate. -/
def UnmonitoredFollowFiles (env : Environment) (outcomes : MovieOutcomes) (db : Tables)
    (restrictToIds : List Nat) (approvedBy : String) : Prop :=
  let run := deleteMovieCandidates env outcomes db restrictToIds approvedBy
  ∀ c ∈ loadCandidates env db restrictToIds, ∀ movieId, c.movieId = some movieId →
    arrAction db (loadCandidates env db restrictToIds) movieId = some .unmonitor →
    ¬RemovesFiles (Within c) run.events →
      run.db.HasCandidate c.id ∧
        (∀ v ∈ db.movieVersions, c.movieVersionId = some v.id → v ∈ run.db.movieVersions) ∧
        (c.movieVersionId = none → run.db.MovieInLibrary movieId)

/-- The records after an unmonitoring are about the candidate: it was routed to an instance, or
its version is targeted. -/
def Recorded (env : Environment) (db : Tables) (candidates : List ReclaimCandidate)
    (c : ReclaimCandidate) (movieId : Nat) : Prop :=
  c ∈ routedCandidates env db candidates movieId ∨
    ∃ v ∈ db.movieVersions, c.movieVersionId = some v.id ∧ Targeted candidates v

/-- Whenever a batch that unmonitors is handled, a version in the target of each candidate that
the records are about is deleted on the media server or covered by the clean-up. -/
def UnmonitoredBacked (env : Environment) (outcomes : MovieOutcomes) (db : Tables)
    (candidates : List ReclaimCandidate) : Prop :=
  ∀ c ∈ candidates, ∀ movieId, c.movieId = some movieId →
    UnmonitoredInBatch env outcomes db candidates movieId → Recorded env db candidates c movieId →
      ∃ v ∈ db.movieVersions, InTarget c v ∧
        (VersionDeleted env outcomes db candidates v.id ∨
          CoveredByCleanUp env outcomes db candidates v)

variable {env : Environment} {outcomes : MovieOutcomes} {db : Tables}
variable {candidates : List ReclaimCandidate} {approvedBy : String} {restrictToIds : List Nat}
variable {c : ReclaimCandidate} {movieId : Nat}

/-! ## The removals of a run -/

/-- The removals of a run by the phase that makes them. -/
theorem mem_removals {r : MovieRemoval} (h : r ∈ removals env outcomes db approvedBy candidates) :
    (∃ c ∈ unmatchedVersionCandidates env db candidates, ∃ v,
        deletedVersion env outcomes db c = some v ∧ r = .version c v) ∨
      (∃ job ∈ deletedJobs env outcomes db approvedBy candidates, r = .batch job) ∨
      (∃ job ∈ unmonitoredJobs env outcomes db approvedBy candidates, r = .batch job) ∨
      ∃ c ∈ unhandled env outcomes db approvedBy candidates,
        r ∈ fallbackRemovals env outcomes (batched env outcomes db approvedBy candidates).db c := by
  simp only [removals, List.mem_append, List.mem_flatMap, List.mem_map, versionRemovals,
    Option.mem_toList, or_assoc] at h
  rcases h with ⟨c, hc, v, hv, rfl⟩ | ⟨job, hjob, rfl⟩ | ⟨job, hjob, rfl⟩ | ⟨c, hc, hr⟩
  · exact Or.inl ⟨c, hc, v, hv, rfl⟩
  · exact Or.inr (Or.inl ⟨job, hjob, rfl⟩)
  · exact Or.inr (Or.inr (Or.inl ⟨job, hjob, rfl⟩))
  · exact Or.inr (Or.inr (Or.inr ⟨c, hc, hr⟩))

theorem fallbackVersions_eq_some {rows : Tables} {service : Service} {movie : Movie}
    {versions : List MovieVersion} (h : fallbackVersions rows service c = some (movie, versions)) :
    c.movieId = some movie.id ∧ versions ≠ [] := by
  unfold fallbackVersions at h
  split at h
  · exact absurd h (by simp)
  · rename_i found hfound
    dsimp only at h
    split_ifs at h with hskip
    obtain ⟨rfl, rfl⟩ := Prod.mk.inj (Option.some.inj h)
    obtain ⟨id, hid, hfind⟩ := Option.bind_eq_some_iff.mp hfound
    rw [not_or] at hskip
    exact ⟨Tables.findMovie_id hfind ▸ hid, hskip.2⟩

theorem firstOfItems_ne_nil {versions : List MovieVersion} (h : versions ≠ []) :
    firstOfItems versions ≠ [] := by
  obtain ⟨v, hv⟩ := List.exists_mem_of_ne_nil versions h
  have hfind : (versions.find? (·.serviceItemId == v.serviceItemId)).isSome := by
    simpa [List.find?_isSome] using ⟨v, hv, rfl⟩
  obtain ⟨w, hw⟩ := Option.isSome_iff_exists.mp hfind
  have hmem : w ∈ firstOfItems versions := List.mem_filterMap.mpr
    ⟨v.serviceItemId, List.mem_eraseDups.mpr (List.mem_map.mpr ⟨v, hv, rfl⟩), hw⟩
  exact List.ne_nil_of_mem hmem

/-- A removal by the fallback comes with the deletion of an item. -/
theorem mem_fallbackRemovals {rows : Tables} {r : MovieRemoval}
    (h : r ∈ fallbackRemovals env outcomes rows c) :
    ∃ movieId, c.movieId = some movieId ∧ r = .fallback c movieId ∧
      ∀ unhandled, c ∈ unhandled → ∀ covers : ReclaimCandidate → Prop, covers c →
        RemovesFiles covers (fallbackPhaseEvents env outcomes rows unhandled) := by
  unfold fallbackRemovals at h
  split at h
  · exact absurd h List.not_mem_nil
  · rename_i service hservice
    split at h
    · exact absurd h List.not_mem_nil
    · rename_i movie versions hfound
      split_ifs at h with hok
      · obtain ⟨henabled, hsucceeds⟩ := hok
        obtain ⟨hmovie, hne⟩ := fallbackVersions_eq_some hfound
        refine ⟨movie.id, hmovie, List.mem_singleton.mp h, fun unhandled hc covers hcovers => ?_⟩
        simp only [fallbackPhaseEvents, hservice, henabled, if_true, succeeds_flatMap]
        refine ⟨c, hc, ?_⟩
        simp only [fallbackEvents, hfound, succeeds_append]
        obtain ⟨v, rest, hitems⟩ := List.exists_cons_of_ne_nil (firstOfItems_ne_nil hne)
        have hv : (outcomes.fallbackDeleteItem c.id v.id).succeeded = true := by
          simp only [fallbackSucceeds, hitems, List.all_cons, Bool.and_eq_true] at hsucceeds
          exact hsucceeds.1
        rw [hitems]
        simp [fallbackItemEvents, hv, Call.removesFiles, hcovers]
      · exact absurd h List.not_mem_nil

section Run

theorem run_movieInLibrary {id : Nat} (h : db.MovieInLibrary id)
    (hkeeps : ∀ r ∈ removals env outcomes db approvedBy (loadCandidates env db restrictToIds),
      r.KeepsMovie db id) :
    (deleteMovieCandidates env outcomes db restrictToIds approvedBy).db.MovieInLibrary id := by
  have hboth := (run_effects env outcomes db restrictToIds approvedBy).preserves
    (P := fun db' => db'.MovieInLibrary id ∧ ∀ v ∈ db'.movieVersions, v ∈ db.movieVersions)
    (fun hmarks hP => ⟨hmarks.movieInLibrary_iff.mpr hP.1, hmarks.movieVersions_eq ▸ hP.2⟩)
    (fun r hr db' hP => MovieRemoval.apply_movieInLibrary hP.2 (hkeeps r hr) hP.1)
    ⟨h, fun v hv => hv⟩
  exact hboth.1

/-! ## Which file steps succeed -/

theorem not_mem_unhandled (hunmonitored : UnmonitoredInBatch env outcomes db candidates movieId)
    (hmovie : c.movieId = some movieId) :
    c ∉ unhandled env outcomes db approvedBy candidates := by
  obtain ⟨job, hjob, rfl⟩ := exists_mem_unmonitoredJobs approvedBy hunmonitored
  intro hc
  simp only [unhandled, List.mem_filter, Bool.not_eq_true', List.any_eq_false,
    List.mem_append] at hc
  exact hc.2 job (Or.inr (mem_of_mem_firstOfEach hjob)) (by simp [hmovie])

/-- The version phase removes files within a target. -/
theorem succeeds_versionPhase_within_iff (hdb : db.Consistent)
    (hsub : ∀ c ∈ candidates, c ∈ db.candidates) :
    Succeeds Call.removesFiles (Within c)
        (versionPhase env outcomes db approvedBy candidates).events ↔
      ∃ v ∈ db.movieVersions, InTarget c v ∧ VersionDeleted env outcomes db candidates v.id := by
  rw [succeeds_versionPhase_iff (fun _ _ => rfl) (fun _ _ _ _ => rfl)]
  have hcandidate : ∀ c' ∈ unmatchedVersionCandidates env db candidates, ∀ v ∈ db.movieVersions,
      c'.movieVersionId = some v.id → c'.movieId = some v.movieId := by
    intro c' hc' v hv hversion
    simp only [unmatchedVersionCandidates, versionCandidates, List.mem_filter] at hc'
    exact hdb.candidateVersions c' (hsub c' hc'.1.1) v hv hversion
  constructor
  · rintro ⟨c', hc', hsome, hsame, hwithin⟩
    obtain ⟨v, hdeleted⟩ := Option.isSome_iff_exists.mp hsome
    obtain ⟨hversion, hv⟩ := deletedVersion_eq_some hdeleted
    refine ⟨v, hv, ⟨hsame ▸ hcandidate c' hc' v hv hversion, ?_⟩, c', hc', v, hdeleted, rfl⟩
    exact hwithin.imp id fun h => h.symm.trans hversion
  · rintro ⟨v, hv, ⟨hcmovie, hwithin⟩, c', hc', v', hdeleted, hid⟩
    obtain ⟨hversion, -⟩ := deletedVersion_eq_some hdeleted
    rw [hid] at hversion
    refine ⟨c', hc', by simp [hdeleted], (hcandidate c' hc' v hv hversion).trans hcmovie.symm, ?_⟩
    exact hwithin.imp id fun h => hversion.trans h.symm

/-- The file steps for a candidate whose movie is unmonitored. -/
theorem removesFiles_run_iff (hdb : db.Consistent)
    (hc : c ∈ loadCandidates env db restrictToIds) (hmovie : c.movieId = some movieId)
    (hunmonitored : UnmonitoredInBatch env outcomes db (loadCandidates env db restrictToIds)
      movieId) :
    RemovesFiles (Within c)
      (deleteMovieCandidates env outcomes db restrictToIds approvedBy).events ↔
      ∃ v ∈ db.movieVersions, InTarget c v ∧
        (VersionDeleted env outcomes db (loadCandidates env db restrictToIds) v.id ∨
          CoveredByCleanUp env outcomes db (loadCandidates env db restrictToIds) v) := by
  have hsub : ∀ c ∈ loadCandidates env db restrictToIds, c ∈ db.candidates :=
    fun c hc => (mem_loadCandidates hc).1
  have hfallback : ∀ rows, ¬RemovesFiles (Within c) (fallbackPhaseEvents env outcomes rows
      (unhandled env outcomes db approvedBy (loadCandidates env db restrictToIds))) := by
    intro rows h
    obtain ⟨c', hc', hsame, -⟩ := exists_candidate_of_succeeds_fallbackPhaseEvents h
    exact not_mem_unhandled hunmonitored (hsame.trans hmovie) hc'
  have hdeleting : ¬RemovesFiles (Within c)
      (deleting env outcomes db approvedBy (loadCandidates env db restrictToIds)).events := by
    intro h
    obtain ⟨config, job, hjob, c', hc', hsame, -⟩ := exists_job_of_succeeds_deleting h
    obtain ⟨_, -, job', hjob', hjobMovie⟩ := hunmonitored
    have hjobSame := ((mem_batch hjob).mem_candidates hc').2
    refine movie_ne_of_mem_batches hjob hjob' (Option.some.inj ?_)
    rw [← hjobSame, hsame, hmovie, hjobMovie]
  have hunmonitoring : ¬RemovesFiles (Within c)
      (unmonitoring env outcomes db approvedBy (loadCandidates env db restrictToIds)).events :=
    not_succeeds_unmonitoring fun _ _ _ => rfl
  rw [RemovesFiles, events_eq, succeeds_append, batched]
  simp only [succeeds_append, not_succeeds_rescanEvents, hfallback, hdeleting, hunmonitoring,
    or_false]
  rw [succeeds_versionPhase_within_iff hdb hsub,
    succeeds_cleaning_iff_covered hdb hsub (fun _ => rfl) (fun _ => rfl)]
  constructor
  · rintro (⟨v, hv, htarget, hdeleted⟩ | ⟨v, hv, -, -, hcovered, c', -, ⟨hc'movie, hc'⟩, hsame, h⟩)
    · exact ⟨v, hv, htarget, Or.inl hdeleted⟩
    · refine ⟨v, hv, ⟨hsame ▸ hc'movie, ?_⟩, Or.inr hcovered⟩
      rcases h with hwhole | hversion
      · exact Or.inl hwhole
      · exact hversion ▸ hc'
  · rintro ⟨v, hv, htarget, hfile⟩
    have hvmovie : v.movieId = movieId := Option.some.inj (htarget.1.symm.trans hmovie)
    by_cases hdeleted : VersionDeleted env outcomes db (loadCandidates env db restrictToIds) v.id
    · exact Or.inl ⟨v, hv, htarget, hdeleted⟩
    · exact Or.inr ⟨v, hv, hvmovie ▸ hunmonitored, hdeleted, hfile.resolve_left hdeleted, c, hc,
        htarget, rfl, Or.inr rfl⟩

/-! ## What stays -/

theorem removesFiles_of_versionDeleted (hdb : db.Consistent) {v : MovieVersion}
    (hv : v ∈ db.movieVersions) (htarget : InTarget c v)
    (hdeleted : VersionDeleted env outcomes db (loadCandidates env db restrictToIds) v.id) :
    RemovesFiles (Within c)
      (deleteMovieCandidates env outcomes db restrictToIds approvedBy).events := by
  rw [RemovesFiles, events_eq, succeeds_append, batched]
  simp only [succeeds_append]
  refine Or.inl (Or.inl (Or.inl (Or.inl (Or.inl (Or.inl ?_)))))
  rw [succeeds_versionPhase_within_iff hdb fun c hc => (mem_loadCandidates hc).1]
  exact ⟨v, hv, htarget, hdeleted⟩

theorem removesFiles_of_mem_fallbackRemovals {c' : ReclaimCandidate} {r : MovieRemoval}
    (hc' : c' ∈ unhandled env outcomes db approvedBy (loadCandidates env db restrictToIds))
    (hr : r ∈ fallbackRemovals env outcomes
      (batched env outcomes db approvedBy (loadCandidates env db restrictToIds)).db c')
    (hwithin : Within c c') :
    RemovesFiles (Within c)
      (deleteMovieCandidates env outcomes db restrictToIds approvedBy).events := by
  obtain ⟨-, -, -, hremoves⟩ := mem_fallbackRemovals hr
  rw [RemovesFiles, events_eq, succeeds_append]
  exact Or.inr (hremoves _ hc' _ hwithin)

theorem batch_ne_of_unmonitor {job : MovieJob}
    (hjob : job ∈ deletedJobs env outcomes db approvedBy candidates)
    (haction : arrAction db candidates movieId = some .unmonitor) : job.movieId ≠ movieId := by
  obtain ⟨config, -, hbatch⟩ := mem_deletedJobs hjob
  intro hmovie
  have hdelete := (mem_batch hbatch).action
  rw [hmovie, haction] at hdelete
  simp at hdelete

theorem unmonitoredInBatch_of_mem {job : MovieJob}
    (hjob : job ∈ unmonitoredJobs env outcomes db approvedBy candidates) :
    UnmonitoredInBatch env outcomes db candidates job.movieId := by
  obtain ⟨config, hok, hbatch⟩ := mem_unmonitoredJobs hjob
  exact ⟨config, hok, job, hbatch, rfl⟩

variable (hdb : db.Consistent) (hc : c ∈ loadCandidates env db restrictToIds)
  (hmovie : c.movieId = some movieId)
  (haction : arrAction db (loadCandidates env db restrictToIds) movieId = some .unmonitor)
  (hnone : ¬RemovesFiles (Within c)
    (deleteMovieCandidates env outcomes db restrictToIds approvedBy).events)
  (hrecorded : UnmonitoredInBatch env outcomes db (loadCandidates env db restrictToIds) movieId →
    ¬Recorded env db (loadCandidates env db restrictToIds) c movieId)

include hdb hc hmovie haction hnone hrecorded

/-- Without a file step and without a record about it, a candidate stays. -/
theorem hasCandidate_of_not_recorded :
    (deleteMovieCandidates env outcomes db restrictToIds approvedBy).db.HasCandidate c.id := by
  have hload := fun c' (hc' : c' ∈ loadCandidates env db restrictToIds) =>
    (mem_loadCandidates hc').1
  have hsame : ∀ c' ∈ loadCandidates env db restrictToIds, c.id = c'.id → c = c' :=
    fun c' hc' hid => List.inj_on_of_nodup_map hdb.candidateIds (hload c hc) (hload c' hc') hid
  rw [run_hasCandidate_iff]
  refine ⟨⟨c, hload c hc, rfl⟩, fun r hr => ?_⟩
  rcases mem_removals hr with ⟨c', hc', v, hdeleted, rfl⟩ | ⟨job, hjob, rfl⟩ | ⟨job, hjob, rfl⟩ |
    ⟨c', hc', hr⟩
  · intro hid
    obtain ⟨hversion, hv⟩ := deletedVersion_eq_some hdeleted
    have hc'' := hc'
    simp only [unmatchedVersionCandidates, versionCandidates, List.mem_filter] at hc''
    obtain rfl := hsame c' hc''.1.1 hid
    refine hnone (removesFiles_of_versionDeleted hdb hv ?_ ⟨c, hc', v, hdeleted, rfl⟩)
    exact ⟨hdb.candidateVersions c (hload c hc) v hv hversion, Or.inr hversion⟩
  · intro hid
    obtain ⟨c', hc', hid⟩ := List.mem_map.mp hid
    obtain ⟨config, -, hbatch⟩ := mem_deletedJobs hjob
    obtain ⟨hc', hjobMovie⟩ := (mem_batch hbatch).mem_candidates hc'
    obtain rfl := hsame c' hc' hid.symm
    exact batch_ne_of_unmonitor hjob haction (Option.some.inj (hjobMovie.symm.trans hmovie))
  · intro hid
    obtain ⟨c', hc', hid⟩ := List.mem_map.mp hid
    obtain ⟨config, -, hbatch⟩ := mem_unmonitoredJobs hjob
    have hrouted := (mem_batch hbatch).candidates_eq ▸ hc'
    obtain ⟨hc', hjobMovie⟩ := (mem_batch hbatch).mem_candidates hc'
    obtain rfl := hsame c' hc' hid.symm
    obtain rfl : job.movieId = movieId := Option.some.inj (hjobMovie.symm.trans hmovie)
    exact hrecorded (unmonitoredInBatch_of_mem hjob) (Or.inl hrouted)
  · obtain ⟨_, -, rfl, -⟩ := mem_fallbackRemovals hr
    intro hid
    have hload' : c' ∈ loadCandidates env db restrictToIds := by
      simp only [unhandled, wholeMovieCandidates, List.mem_filter] at hc'
      exact hc'.1.1
    obtain rfl := hsame c' hload' hid
    exact hnone (removesFiles_of_mem_fallbackRemovals hc' hr ⟨rfl, Or.inr rfl⟩)

/-- So does the row of its version. -/
theorem mem_movieVersions_of_not_recorded {v : MovieVersion} (hv : v ∈ db.movieVersions)
    (hversion : c.movieVersionId = some v.id) :
    v ∈ (deleteMovieCandidates env outcomes db restrictToIds approvedBy).db.movieVersions := by
  have hload := fun c' (hc' : c' ∈ loadCandidates env db restrictToIds) =>
    (mem_loadCandidates hc').1
  have hcmovie := hdb.candidateVersions c (hload c hc) v hv hversion
  have hvmovie : v.movieId = movieId := Option.some.inj (hcmovie.symm.trans hmovie)
  by_contra hremoved
  rcases (not_mem_run_movieVersions_iff hdb hv).mp hremoved with
    hdeleted | ⟨htargeted, hbatch | hunmonitored⟩
  · exact hnone (removesFiles_of_versionDeleted hdb hv ⟨hcmovie, Or.inr hversion⟩ hdeleted)
  · obtain ⟨job, hjob, hjobMovie⟩ := exists_mem_deletedJobs approvedBy hbatch
    exact batch_ne_of_unmonitor hjob haction (hjobMovie.trans hvmovie)
  · exact hrecorded (hvmovie ▸ hunmonitored) (Or.inr ⟨v, hv, hversion, htargeted⟩)

/-- So does a movie that is selected as a whole. -/
theorem movieInLibrary_of_not_recorded (hwhole : c.movieVersionId = none) :
    (deleteMovieCandidates env outcomes db restrictToIds approvedBy).db.MovieInLibrary movieId := by
  obtain ⟨-, movieId', hmovie', hlibrary⟩ := mem_loadCandidates hc
  obtain rfl : movieId' = movieId := Option.some.inj (hmovie'.symm.trans hmovie)
  refine run_movieInLibrary hlibrary fun r hr => ?_
  rcases mem_removals hr with ⟨c', hc', v, hdeleted, rfl⟩ | ⟨job, hjob, rfl⟩ | ⟨job, hjob, rfl⟩ |
    ⟨c', hc', hr⟩
  · intro w hw hid hwmovie
    refine hnone (removesFiles_of_versionDeleted hdb hw ⟨hwmovie ▸ hmovie, Or.inl hwhole⟩ ?_)
    exact ⟨c', hc', v, hdeleted, hid.symm⟩
  · exact batch_ne_of_unmonitor hjob haction
  · intro hjobMovie
    obtain ⟨config, -, hbatch⟩ := mem_unmonitoredJobs hjob
    have hdata := (mem_batch hbatch).movieData_isSome
    refine hrecorded (hjobMovie ▸ unmonitoredInBatch_of_mem hjob) (Or.inl ?_)
    rw [hjobMovie] at hdata
    simp [routedCandidates, wholeMovieCandidates, hc, hmovie, hwhole, hdata]
  · obtain ⟨movieId'', hc'movie, rfl, -⟩ := mem_fallbackRemovals hr
    rintro rfl
    exact hnone (removesFiles_of_mem_fallbackRemovals hc' hr
      ⟨hc'movie.trans hmovie.symm, Or.inl hwhole⟩)

omit hdb hc hmovie haction hnone hrecorded

/-- The records follow the files exactly when every one of them is backed. -/
theorem unmonitoredFollowFiles_iff (hdb : db.Consistent) :
    UnmonitoredFollowFiles env outcomes db restrictToIds approvedBy ↔
      UnmonitoredBacked env outcomes db (loadCandidates env db restrictToIds) := by
  constructor
  · intro hfollow c hc movieId hmovie hunmonitored hrecorded
    have haction : arrAction db (loadCandidates env db restrictToIds) movieId =
        some .unmonitor := by
      obtain ⟨_, -, job, hjob, rfl⟩ := hunmonitored
      simpa using (mem_batch hjob).action
    have hremoves := @removesFiles_run_iff env outcomes db approvedBy restrictToIds c movieId hdb hc
      hmovie hunmonitored
    refine hremoves.mp ?_
    by_contra hnone
    obtain ⟨hcandidate, hversions, -⟩ := hfollow c hc movieId hmovie haction hnone
    rcases hrecorded with hrouted | ⟨v, hv, hversion, htargeted⟩
    · obtain ⟨job, hjob, rfl⟩ := exists_mem_unmonitoredJobs approvedBy hunmonitored
      obtain ⟨config, -, hbatch⟩ := mem_unmonitoredJobs hjob
      have hkept := (run_hasCandidate_iff.mp hcandidate).2 (.batch job) (by simp [removals, hjob])
      refine hkept (List.mem_map.mpr ⟨c, ?_, rfl⟩)
      rw [(mem_batch hbatch).candidates_eq]
      exact hrouted
    · have hcmovie := hdb.candidateVersions c (mem_loadCandidates hc).1 v hv hversion
      have hvmovie : v.movieId = movieId := Option.some.inj (hcmovie.symm.trans hmovie)
      exact (not_mem_run_movieVersions_iff hdb hv).mpr
        (Or.inr ⟨htargeted, Or.inr (hvmovie ▸ hunmonitored)⟩) (hversions v hv hversion)
  · intro hbacked c hc movieId hmovie haction hnone
    have hrecorded : UnmonitoredInBatch env outcomes db (loadCandidates env db restrictToIds)
        movieId → ¬Recorded env db (loadCandidates env db restrictToIds) c movieId := by
      intro hunmonitored hrecorded
      refine hnone ((removesFiles_run_iff hdb hc hmovie hunmonitored).mpr ?_)
      exact hbacked c hc movieId hmovie hunmonitored hrecorded
    exact ⟨hasCandidate_of_not_recorded hdb hc hmovie haction hnone hrecorded,
      fun v => mem_movieVersions_of_not_recorded hdb hc hmovie haction hnone hrecorded,
      movieInLibrary_of_not_recorded hdb hc hmovie haction hnone hrecorded⟩

end Run

end Movie

/-! ## Both handlers -/

/-- What the series handler, or the unmonitor route of the movie handler, records as removed lost
files in that run. -/
def RecordsFollowFiles (env : Environment) (outcomes : HandlerOutcomes) (db : Tables)
    (restrictToIds : List Nat) (approvedBy : String) : Prop :=
  Series.RemovalsFollowFiles env outcomes.series db restrictToIds approvedBy ∧
    Movie.UnmonitoredFollowFiles env outcomes.movie db restrictToIds approvedBy

theorem recordsFollowFiles_iff (env : Environment) (outcomes : HandlerOutcomes) (db : Tables)
    (restrictToIds : List Nat) (approvedBy : String) (hdb : db.Consistent) :
    RecordsFollowFiles env outcomes db restrictToIds approvedBy ↔
      Series.RemovalsBacked env outcomes.series db (Series.loadCandidates env db restrictToIds) ∧
        Movie.UnmonitoredBacked env outcomes.movie db
          (Movie.loadCandidates env db restrictToIds) := by
  rw [RecordsFollowFiles, Series.removalsFollowFiles_iff hdb.candidateIds,
    Movie.unmonitoredFollowFiles_iff hdb]

/-- A series candidate that no rule matches, so that the series is unmonitored. -/
def unmonitoredSeries : Tables where
  series := [{ id := 1, tmdbId := 100, title := "Show" }]
  seriesArrRefs :=
    [{ id := 1, seriesId := 1, serviceConfigId := 1, arrSeriesId := 10,
       arrSeriesPath := some "/tv/Show" }]
  candidates := [{ id := 1, mediaType := .series, seriesId := some 1 }]

/-- The series folder is found, and removing it succeeds or fails. -/
def folderFound (removed : Outcome Unit) : HandlerOutcomes where
  series :=
    { folderDisk := fun _ => { pathExists := fun _ => true }
      rmtree := fun _ => removed }

/-- The folder is removed, and then the series is recorded as removed. -/
theorem recordsFollowFiles_folderRemoved :
    RecordsFollowFiles sonarrOnly (folderFound (.ok ())) unmonitoredSeries [1] "system" := by
  refine (recordsFollowFiles_iff _ _ _ _ _ ⟨by decide, by decide, by decide⟩).mpr
    ⟨fun seriesId => ⟨fun hmove => absurd rfl hmove, fun hunmonitored => ?_⟩,
      fun c hc => absurd hc (by decide +revert)⟩
  obtain ⟨job, hjob, rfl⟩ := Series.exists_mem_unmonitoredJobs "system" hunmonitored
  have hcleaned : ∀ job ∈ Series.unmonitoredJobs sonarrOnly (folderFound (.ok ())).series
      unmonitoredSeries "system" (Series.loadCandidates sonarrOnly unmonitoredSeries [1]),
      Series.CleansUp sonarrOnly (folderFound (.ok ())).series unmonitoredSeries job.seriesId := by
    unfold Series.CleansUp
    decide
  exact hcleaned job hjob

/-- The folder stays, yet the candidate is removed with the series. -/
theorem not_recordsFollowFiles_folderKept : ¬RecordsFollowFiles sonarrOnly
    (folderFound (.error "Permission denied")) unmonitoredSeries [1] "system" := by
  rintro ⟨hseries, -⟩
  have hkept := hseries { id := 1, mediaType := .series, seriesId := some 1 } (by decide) 1 rfl
    (by unfold RemovesFiles Succeeds; decide)
  exact absurd hkept.1 (by unfold Tables.HasCandidate; decide)

end MediaMasterr.Deletion
