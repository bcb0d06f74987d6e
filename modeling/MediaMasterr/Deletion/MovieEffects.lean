import MediaMasterr.Deletion.Effects
import MediaMasterr.Deletion.Movie

/-! # Effects of the movie handler

The removals of a run and what each of them does to the tables. -/

namespace MediaMasterr.Deletion

open MediaMasterr.Foundations MediaMasterr.Database MediaMasterr.Filesystem

/-- The removals of the movie handler: of a version on the media server, of a movie or its
targeted versions after a batch, and of a movie on the media server. -/
inductive MovieRemoval where
  | version (candidate : ReclaimCandidate) (version : MovieVersion)
  | batch (job : MovieJob)
  | fallback (candidate : ReclaimCandidate) (movieId : Nat)

/-- The statements of a removal. -/
def MovieRemoval.apply (now : Nat) : MovieRemoval → Tables → Tables
  | .version candidate v, db => Movie.deleteVersionRow now v.id (db.deleteCandidate candidate.id)
  | .batch job, db => Movie.recordRemoval now db job
  | .fallback candidate movieId, db => (db.removeMovie now movieId).deleteCandidate candidate.id

namespace MovieRemoval

/-- The candidate with this primary key is not removed. -/
def KeepsCandidate (id : Nat) : MovieRemoval → Prop
  | .version candidate _ | .fallback candidate _ => id ≠ candidate.id
  | .batch job => id ∉ job.allCandidateIds

/-- The version row is not removed. -/
def KeepsVersion (v : MovieVersion) : MovieRemoval → Prop
  | .version _ deleted => v.id ≠ deleted.id
  | .batch job => job.isWholeMovie ∨ v.id ∉ job.concreteVersionIds
  | .fallback .. => True

variable {now : Nat} {db : Tables}

theorem deleteVersionRow_candidates {versionId : Nat} :
    (Movie.deleteVersionRow now versionId db).candidates = db.candidates := by
  unfold Movie.deleteVersionRow
  split <;> simp [Tables.shrinkMovie]

theorem mem_deleteVersionRow {versionId : Nat} {v : MovieVersion} :
    v ∈ (Movie.deleteVersionRow now versionId db).movieVersions ↔
      v ∈ db.movieVersions ∧ v.id ≠ versionId := by
  unfold Movie.deleteVersionRow
  split
  · rename_i hnone
    have hne : v ∈ db.movieVersions → v.id ≠ versionId := by
      intro hv
      simpa using List.find?_eq_none.mp hnone v hv
    exact ⟨fun hv => ⟨hv, hne hv⟩, And.left⟩
  · simp [Tables.shrinkMovie]

theorem findMovie_deleteVersionRow_isSome {versionId id : Nat} :
    ((Movie.deleteVersionRow now versionId db).findMovie id).isSome = (db.findMovie id).isSome := by
  unfold Movie.deleteVersionRow
  split
  · rfl
  · rw [Tables.findMovie_softRemoveMovieIfEmpty_isSome]
    exact (congrArg Option.isSome Tables.findMovie_shrinkMovie).trans Option.isSome_map

theorem removeTargets_candidates (job : MovieJob) :
    (Movie.removeTargets now db job).candidates = db.candidates := by
  unfold Movie.removeTargets
  split
  · rfl
  · split_ifs
    · rfl
    · simp [Movie.deleteVersionRows, Tables.shrinkMovie]

theorem findMovie_removeTargets_isSome (job : MovieJob) (id : Nat) :
    ((Movie.removeTargets now db job).findMovie id).isSome = (db.findMovie id).isSome := by
  unfold Movie.removeTargets
  split
  · rfl
  · split_ifs
    · rw [Tables.findMovie_removeMovie, Option.isSome_map]
    · rw [Movie.deleteVersionRows, Tables.findMovie_softRemoveMovieIfEmpty_isSome]
      exact (congrArg Option.isSome Tables.findMovie_shrinkMovie).trans Option.isSome_map

theorem removeTargets_settings (job : MovieJob) :
    (Movie.removeTargets now db job).settings = db.settings := by
  unfold Movie.removeTargets
  split
  · rfl
  · split_ifs
    · rfl
    · simp [Movie.deleteVersionRows, Tables.shrinkMovie]

theorem recordRemoval_eq (job : MovieJob) : Movie.recordRemoval now db job =
    { Movie.removeTargets now db job with
      candidates := db.candidates.filter (·.id ∉ job.allCandidateIds) } := by
  rw [Movie.recordRemoval, Tables.foldl_deleteCandidate_eq, Tables.foldl_deleteCandidate_candidates,
    removeTargets_candidates]

theorem mem_of_mem_recordRemoval {job : MovieJob} {v : MovieVersion}
    (h : v ∈ (Movie.recordRemoval now db job).movieVersions) : v ∈ db.movieVersions := by
  simp only [recordRemoval_eq, Movie.removeTargets] at h
  split at h
  · exact h
  · split_ifs at h
    · exact h
    · simp only [Movie.deleteVersionRows, Tables.softRemoveMovieIfEmpty_movieVersions] at h
      exact (List.mem_filter.mp h).1

theorem apply_hasCandidate_iff (r : MovieRemoval) (id : Nat) :
    (r.apply now db).HasCandidate id ↔ db.HasCandidate id ∧ r.KeepsCandidate id := by
  cases r with
  | version candidate v =>
    simp only [apply, Tables.HasCandidate, deleteVersionRow_candidates, KeepsCandidate]
    exact Tables.hasCandidate_deleteCandidate
  | batch job =>
    simp only [apply, recordRemoval_eq, Tables.HasCandidate, KeepsCandidate, List.mem_filter,
      decide_eq_true_eq]
    constructor
    · rintro ⟨c, ⟨hc, hnot⟩, rfl⟩
      exact ⟨⟨c, hc, rfl⟩, hnot⟩
    · rintro ⟨⟨c, hc, rfl⟩, hnot⟩
      exact ⟨c, ⟨hc, hnot⟩, rfl⟩
  | fallback candidate movieId => exact Tables.hasCandidate_deleteCandidate

theorem apply_mem_movieVersions_iff (r : MovieRemoval) (v : MovieVersion)
    (hfound : ∀ job, r = .batch job → (db.findMovie job.movieId).isSome) :
    v ∈ (r.apply now db).movieVersions ↔ v ∈ db.movieVersions ∧ r.KeepsVersion v := by
  cases r with
  | version candidate v => exact mem_deleteVersionRow
  | batch job =>
    obtain ⟨movie, hmovie⟩ := Option.isSome_iff_exists.mp (hfound job rfl)
    simp only [apply, recordRemoval_eq, Movie.removeTargets, hmovie, KeepsVersion]
    split_ifs with hwhole
    · simp [Tables.removeMovie, hwhole]
    · simp [Movie.deleteVersionRows, Tables.shrinkMovie, hwhole]
  | fallback candidate movieId =>
    simp [apply, KeepsVersion, Tables.deleteCandidate, Tables.removeMovie]

theorem findMovie_apply_isSome (r : MovieRemoval) (id : Nat) :
    ((r.apply now db).findMovie id).isSome = (db.findMovie id).isSome := by
  cases r with
  | version candidate v => exact findMovie_deleteVersionRow_isSome
  | batch job =>
    rw [apply, recordRemoval_eq]
    exact findMovie_removeTargets_isSome job id
  | fallback candidate movieId =>
    exact (congrArg Option.isSome Tables.findMovie_removeMovie).trans Option.isSome_map

theorem apply_settings (r : MovieRemoval) : (r.apply now db).settings = db.settings := by
  cases r with
  | version candidate v =>
    simp only [apply, Movie.deleteVersionRow]
    split <;> simp [Tables.shrinkMovie, Tables.deleteCandidate]
  | batch job =>
    rw [apply, recordRemoval_eq]
    exact removeTargets_settings job
  | fallback candidate movieId => rfl

end MovieRemoval

namespace Movie

variable (env : Environment) (outcomes : MovieOutcomes) (db : Tables)

/-- The version that is deleted on the media server for a candidate. -/
def deletedVersion (candidate : ReclaimCandidate) : Option MovieVersion :=
  match env.services.mainMediaServerType with
  | none => none
  | some service =>
    match versionTarget db service candidate with
    | .error _ => none
    | .ok (version, _) =>
      if db.effectiveSettings.mediaServerFallbackEnabled ∧
        (outcomes.deleteMovieVersion candidate.id).succeeded then some version else none

def versionRemovals (candidate : ReclaimCandidate) : List MovieRemoval :=
  (deletedVersion env outcomes db candidate).toList.map (.version candidate)

/-- The movie that the fallback deletes for a candidate. -/
def fallbackRemovals (candidate : ReclaimCandidate) : List MovieRemoval :=
  match env.services.mainMediaServerType with
  | none => []
  | some service =>
    match fallbackVersions db service candidate with
    | none => []
    | some (movie, versions) =>
      if db.effectiveSettings.mediaServerFallbackEnabled ∧
        fallbackSucceeds outcomes candidate versions then [.fallback candidate movie.id] else []

section Removals

variable (approvedBy : String) (candidates : List ReclaimCandidate)

/-- The removals of a run. -/
def removals : List MovieRemoval :=
  (unmatchedVersionCandidates env db candidates).flatMap (versionRemovals env outcomes db) ++
    (deletedJobs env outcomes db approvedBy candidates).map .batch ++
    (unmonitoredJobs env outcomes db approvedBy candidates).map .batch ++
    (unhandled env outcomes db approvedBy candidates).flatMap
      (fallbackRemovals env outcomes (batched env outcomes db approvedBy candidates).db)

end Removals

variable {env outcomes db} {approvedBy : String} {candidates : List ReclaimCandidate}

/-! ## A run has the effects of its removals -/

theorem deleteVersionStep_effects {service : Service}
    (hservice : env.services.mainMediaServerType = some service)
    (henabled : db.effectiveSettings.mediaServerFallbackEnabled = true) (run : Run)
    (c : ReclaimCandidate) :
    Effects (MovieRemoval.apply env.now) run.db (versionRemovals env outcomes db c)
      (deleteVersionStep env outcomes db approvedBy service run c).db := by
  simp only [deleteVersionStep, versionRemovals, deletedVersion, hservice, henabled, true_and]
  cases versionTarget db service c with
  | error error => exact .of_marks (Tables.marks_markCandidateDeleteFailure _ _ _)
  | ok target =>
    obtain ⟨version, movie⟩ := target
    cases outcomes.deleteMovieVersion c.id with
    | error e => exact .of_marks (Tables.marks_markCandidateDeleteFailure _ _ _)
    | ok _ =>
      have hremoval : Effects (MovieRemoval.apply env.now) run.db [.version c version]
          (deleteVersionRow env.now version.id (run.db.deleteCandidate c.id)) :=
        .of_removal (MovieRemoval.version c version)
      exact hremoval.mark (Tables.marks_history _ _)

theorem deletedVersion_of_disabled (h : ¬db.effectiveSettings.mediaServerFallbackEnabled = true)
    (c : ReclaimCandidate) : deletedVersion env outcomes db c = none := by
  unfold deletedVersion
  split
  · rfl
  · split <;> simp [h]

theorem versionPhase_effects :
    Effects (MovieRemoval.apply env.now) db
      ((unmatchedVersionCandidates env db candidates).flatMap (versionRemovals env outcomes db))
      (versionPhase env outcomes db approvedBy candidates).db := by
  unfold versionPhase deleteMovieVersionCandidates
  set unmatched := unmatchedVersionCandidates env db candidates
  have hmarks : ∀ error, db.Marks (unmatched.foldl
      (fun db c => db.markCandidateDeleteFailure env.now c.id error) db) := fun error =>
    Tables.marks_foldl (fun _ c => Tables.marks_markCandidateDeleteFailure _ _ _) _ _
  by_cases henabled : db.effectiveSettings.mediaServerFallbackEnabled = true
  · simp only [henabled, Bool.not_true, Bool.false_eq_true, if_false]
    cases hservice : env.services.mainMediaServerType with
    | none =>
      have hnone : unmatched.flatMap (versionRemovals env outcomes db) = [] := by
        simp [versionRemovals, deletedVersion, hservice]
      rw [hnone]
      exact .of_marks (hmarks _)
    | some service =>
      exact Effects.foldl Run.db (deleteVersionStep_effects hservice henabled) _ { db }
  · have hnone : unmatched.flatMap (versionRemovals env outcomes db) = [] := by
      simp [versionRemovals, deletedVersion_of_disabled henabled]
    simp only [henabled]
    rw [hnone]
    exact .of_marks (hmarks _)

/-- A run up to the clean-up of the unmonitored movies. -/
theorem unmonitoring_effects :
    Effects (MovieRemoval.apply env.now) db
      ((unmatchedVersionCandidates env db candidates).flatMap (versionRemovals env outcomes db) ++
        (deletedJobs env outcomes db approvedBy candidates).map .batch)
      (unmonitoring env outcomes db approvedBy candidates).db := by
  have hfinalize : ∀ (db : Tables) (job : MovieJob), Effects (MovieRemoval.apply env.now) db
      [.batch job] (finalizeDelete env.now approvedBy db job) := fun db job =>
    (Effects.of_removal (MovieRemoval.batch job)).mark (Tables.marks_history _ _)
  have hdeleting : (versionPhase env outcomes db approvedBy candidates).db.Marks
      (deleting env outcomes db approvedBy candidates).db := BatchRoute.runBatches_marks
  have hunmonitoring : ((deletedJobs env outcomes db approvedBy candidates).foldl
      (finalizeDelete env.now approvedBy) (deleting env outcomes db approvedBy candidates).db).Marks
      (unmonitoring env outcomes db approvedBy candidates).db := BatchRoute.runBatches_marks
  have hdeleted := (versionPhase_effects.mark hdeleting).trans (Effects.foldl id hfinalize
    (deletedJobs env outcomes db approvedBy candidates) _)
  rw [List.map_eq_flatMap]
  exact hdeleted.mark hunmonitoring

/-- The clean-up of the unmonitored movies. -/
theorem cleaning_effects :
    Effects (MovieRemoval.apply env.now) (unmonitoring env outcomes db approvedBy candidates).db
      ((unmonitoredJobs env outcomes db approvedBy candidates).map .batch)
      (cleaning env outcomes db approvedBy candidates).db := by
  have hfinalize : ∀ (run : Run) (job : MovieJob), Effects (MovieRemoval.apply env.now) run.db
      [.batch job] (finalizeUnmonitor env outcomes candidates approvedBy run job).db :=
    fun run job => (Effects.of_removal (MovieRemoval.batch job)).mark (Tables.marks_history _ _)
  rw [List.map_eq_flatMap]
  exact Effects.foldl Run.db hfinalize _
    { db := (unmonitoring env outcomes db approvedBy candidates).db }

theorem batched_db : (batched env outcomes db approvedBy candidates).db =
    (cleaning env outcomes db approvedBy candidates).db := by
  dsimp only [batched]

theorem batched_effects :
    Effects (MovieRemoval.apply env.now) db
      ((unmatchedVersionCandidates env db candidates).flatMap (versionRemovals env outcomes db) ++
        (deletedJobs env outcomes db approvedBy candidates).map .batch ++
        (unmonitoredJobs env outcomes db approvedBy candidates).map .batch)
      (batched env outcomes db approvedBy candidates).db := by
  rw [batched_db]
  exact unmonitoring_effects.trans cleaning_effects

theorem fallback_effects {error : String} {unhandled : List ReclaimCandidate} {run : Run} :
    Effects (MovieRemoval.apply env.now) run.db
      (unhandled.flatMap (fallbackRemovals env outcomes run.db))
      (fallback env outcomes approvedBy error unhandled run).db := by
  unfold fallback
  split_ifs with henabled
  · cases hservice : env.services.mainMediaServerType with
    | none =>
      have hnone : unhandled.flatMap (fallbackRemovals env outcomes run.db) = [] := by
        simp [fallbackRemovals, hservice]
      rw [hnone]
      exact .done
    | some service =>
      refine Effects.foldl Run.db (fun run' c => ?_) _ run
      simp only [fallbackStep, fallbackRemovals, hservice, henabled, true_and]
      cases fallbackVersions run.db service c with
      | none => exact .done
      | some found =>
        obtain ⟨movie, versions⟩ := found
        dsimp only
        split_ifs
        · have hremoval : Effects (MovieRemoval.apply env.now) run'.db [.fallback c movie.id]
              ((run'.db.removeMovie env.now movie.id).deleteCandidate c.id) :=
            .of_removal (MovieRemoval.fallback c movie.id)
          exact hremoval.mark (Tables.marks_history _ _)
        · exact .done
  · have hnone : unhandled.flatMap (fallbackRemovals env outcomes run.db) = [] := by
      simp only [List.flatMap_eq_nil_iff, fallbackRemovals]
      intro c _
      split
      · rfl
      · split <;> simp [henabled]
    rw [hnone]
    exact .of_marks (Tables.marks_foldl
      (fun _ c => Tables.marks_markUnexplainedDeleteFailures _ _ _) _ _)

theorem run_effects (env : Environment) (outcomes : MovieOutcomes) (db : Tables)
    (restrictToIds : List Nat) (approvedBy : String) :
    Effects (MovieRemoval.apply env.now) db
      (removals env outcomes db approvedBy (loadCandidates env db restrictToIds))
      (deleteMovieCandidates env outcomes db restrictToIds approvedBy).db :=
  batched_effects.trans fallback_effects

theorem run_hasCandidate_iff {restrictToIds : List Nat} {id : Nat} :
    (deleteMovieCandidates env outcomes db restrictToIds approvedBy).db.HasCandidate id ↔
      db.HasCandidate id ∧
        ∀ r ∈ removals env outcomes db approvedBy (loadCandidates env db restrictToIds),
          r.KeepsCandidate id :=
  (run_effects env outcomes db restrictToIds approvedBy).keeps_iff (I := fun _ => True)
    (P := fun db => db.HasCandidate id) (fun _ _ => trivial) Tables.Marks.hasCandidate_iff
    (fun r _ _ _ => ⟨trivial, r.apply_hasCandidate_iff id⟩) trivial

end Movie

end MediaMasterr.Deletion
