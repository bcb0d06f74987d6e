import MediaMasterr.Deletion.Accounts
import MediaMasterr.Deletion.MovieRun

/-! # Counted movie deletions

The movie handler counts a movie once, however many candidates of it one Radarr
delete covers. -/

namespace MediaMasterr.Deletion

open MediaMasterr.Foundations MediaMasterr.Database

/-- The candidates that a removal deletes. -/
def MovieRemoval.candidates : MovieRemoval → List ReclaimCandidate
  | .version candidate _ | .fallback candidate _ => [candidate]
  | .batch job => job.candidates

theorem MovieRemoval.keepsCandidate_iff (r : MovieRemoval) (id : Nat) :
    r.KeepsCandidate id ↔ ∀ c ∈ r.candidates, id ≠ c.id := by
  cases r <;> simp [KeepsCandidate, candidates, MovieJob.allCandidateIds, eq_comm]

theorem MovieRemoval.apply_candidateIds_sublist {now : Nat} (r : MovieRemoval) (db : Tables) :
    ((r.apply now db).candidates.map ReclaimCandidate.id).Sublist
      (db.candidates.map ReclaimCandidate.id) := by
  refine List.Sublist.map _ ?_
  cases r with
  | version candidate v =>
    rw [apply, deleteVersionRow_candidates]
    exact List.filter_sublist
  | batch job =>
    rw [apply, recordRemoval_eq]
    exact List.filter_sublist
  | fallback candidate movieId => exact List.filter_sublist

namespace Movie

variable {env : Environment} {outcomes : MovieOutcomes} {db : Tables} {approvedBy : String}
variable {candidates : List ReclaimCandidate} {restrictToIds : List Nat}

/-! ## The count of a run -/

theorem versionPhase_deletedCount :
    (versionPhase env outcomes db approvedBy candidates).deletedCount =
      ((unmatchedVersionCandidates env db candidates).flatMap
        (versionRemovals env outcomes db)).length := by
  unfold versionPhase deleteMovieVersionCandidates
  set unmatched := unmatchedVersionCandidates env db candidates
  by_cases henabled : db.effectiveSettings.mediaServerFallbackEnabled = true
  · simp only [henabled, Bool.not_true, Bool.false_eq_true, if_false]
    cases hservice : env.services.mainMediaServerType with
    | none =>
      have hnone : unmatched.flatMap (versionRemovals env outcomes db) = [] := by
        simp [versionRemovals, deletedVersion, hservice]
      rw [hnone]
      rfl
    | some service =>
      dsimp only
      rw [Loops.foldl_count (n := Run.deletedCount) (p := versionRemovals env outcomes db)]
      · exact Nat.zero_add _
      · intro run c
        simp only [deleteVersionStep, versionRemovals, deletedVersion, hservice, henabled, true_and]
        cases versionTarget db service c with
        | error error => rfl
        | ok target =>
          obtain ⟨version, movie⟩ := target
          cases outcomes.deleteMovieVersion c.id <;> rfl
  · have hnone : unmatched.flatMap (versionRemovals env outcomes db) = [] := by
      simp [versionRemovals, deletedVersion_of_disabled henabled]
    simp only [henabled]
    rw [hnone]
    rfl

theorem cleaning_deletedCount :
    (cleaning env outcomes db approvedBy candidates).deletedCount =
      (unmonitoredJobs env outcomes db approvedBy candidates).length := by
  rw [cleaning, Loops.foldl_count (n := Run.deletedCount) (p := fun job => [job])]
  · simp
  · exact fun run job => rfl

theorem fallback_deletedCount {error : String} {unhandled : List ReclaimCandidate} {run : Run} :
    (fallback env outcomes approvedBy error unhandled run).deletedCount =
      run.deletedCount + (unhandled.flatMap (fallbackRemovals env outcomes run.db)).length := by
  unfold fallback
  split_ifs with henabled
  · cases hservice : env.services.mainMediaServerType with
    | none => simp [fallbackRemovals, hservice]
    | some service =>
      refine Loops.foldl_count (fun run' c => ?_) _ run
      simp only [fallbackStep, fallbackRemovals, hservice, henabled, true_and]
      cases fallbackVersions run.db service c with
      | none => rfl
      | some found =>
        dsimp only
        split_ifs <;> rfl
  · have hnone : unhandled.flatMap (fallbackRemovals env outcomes run.db) = [] := by
      simp only [List.flatMap_eq_nil_iff, fallbackRemovals]
      intro c _
      split
      · rfl
      · split <;> simp [henabled]
    rw [hnone]
    rfl

/-- A run counts its removals. -/
theorem run_deletedCount :
    (deleteMovieCandidates env outcomes db restrictToIds approvedBy).deletedCount =
      (removals env outcomes db approvedBy (loadCandidates env db restrictToIds)).length := by
  dsimp only [deleteMovieCandidates, removals]
  rw [fallback_deletedCount]
  dsimp only [batched]
  rw [versionPhase_deletedCount, cleaning_deletedCount]
  simp only [List.length_append, List.length_map]

/-! ## The groups of a run -/

theorem loadCandidates_sublist (restrictToIds : List Nat) :
    (loadCandidates env db restrictToIds).Sublist db.candidates :=
  (filterMovieCandidatesByFavorites_sublist ..).trans
    ((restrictTo_sublist ..).trans List.filter_sublist)

theorem id_mem_of_mem_loadCandidates {c : ReclaimCandidate} (hne : restrictToIds ≠ [])
    (h : c ∈ loadCandidates env db restrictToIds) : c.id ∈ restrictToIds :=
  mem_restrictTo hne ((filterMovieCandidatesByFavorites_sublist ..).subset h)

theorem versionRemovals_eq (env : Environment) (outcomes : MovieOutcomes) (db : Tables)
    (c : ReclaimCandidate) : versionRemovals env outcomes db c = [] ∨
      ∃ v, versionRemovals env outcomes db c = [.version c v] := by
  unfold versionRemovals
  cases deletedVersion env outcomes db c with
  | none => exact .inl rfl
  | some v => exact .inr ⟨v, rfl⟩

theorem fallbackRemovals_eq (env : Environment) (outcomes : MovieOutcomes) (db : Tables)
    (c : ReclaimCandidate) : fallbackRemovals env outcomes db c = [] ∨
      ∃ movieId, fallbackRemovals env outcomes db c = [.fallback c movieId] := by
  unfold fallbackRemovals
  split
  · exact .inl rfl
  · split
    · exact .inl rfl
    · split_ifs
      · exact .inr ⟨_, rfl⟩
      · exact .inl rfl

/-- The candidates of a removal of each candidate at most are among them, in order. -/
theorem flatMap_candidates_sublist {p : ReclaimCandidate → List MovieRemoval}
    (hp : ∀ c, p c = [] ∨ ∃ r : MovieRemoval, p c = [r] ∧ r.candidates = [c])
    (cs : List ReclaimCandidate) :
    ((cs.flatMap p).flatMap MovieRemoval.candidates).Sublist cs := by
  induction cs with
  | nil => exact List.Sublist.refl _
  | cons c cs ih =>
    rw [List.flatMap_cons, List.flatMap_append]
    rcases hp c with hnone | ⟨r, hone, hr⟩
    · rw [hnone]
      exact ih.cons c
    · rw [hone, List.flatMap_singleton, hr]
      exact ih.cons_cons c

theorem flatMap_versionRemovals_sublist :
    (((unmatchedVersionCandidates env db candidates).flatMap
      (versionRemovals env outcomes db)).flatMap MovieRemoval.candidates).Sublist
      (unmatchedVersionCandidates env db candidates) := by
  refine flatMap_candidates_sublist (fun c => ?_) _
  rcases versionRemovals_eq env outcomes db c with h | ⟨v, h⟩
  · exact .inl h
  · exact .inr ⟨_, h, rfl⟩

theorem flatMap_fallbackRemovals_sublist {rows : Tables} {unhandled : List ReclaimCandidate} :
    ((unhandled.flatMap (fallbackRemovals env outcomes rows)).flatMap
      MovieRemoval.candidates).Sublist unhandled := by
  refine flatMap_candidates_sublist (fun c => ?_) _
  rcases fallbackRemovals_eq env outcomes rows c with h | ⟨id, h⟩
  · exact .inl h
  · exact .inr ⟨_, h, rfl⟩

/-! ## No candidate is removed twice -/

section Disjoint

theorem routedCandidates_nodup (h : candidates.Nodup) (movieId : Nat) :
    (routedCandidates env db candidates movieId).Nodup := by
  refine List.Nodup.append ((h.filter _).filter _) ((h.filter _).filter _) ?_
  intro c hversion hwhole
  simp only [versionCandidates, wholeMovieCandidates, List.mem_filter] at hversion hwhole
  simp [Option.isNone_iff_eq_none.mp hwhole.1.2] at hversion

/-- The entries of the movies that the batches record as removed. -/
theorem handledJobs_pairwise :
    (deletedJobs env outcomes db approvedBy candidates ++
      unmonitoredJobs env outcomes db approvedBy candidates).Pairwise
        fun a b => a.movieId ≠ b.movieId := by
  rw [List.pairwise_append]
  refine ⟨firstOfEach_pairwise _ _, firstOfEach_pairwise _ _, fun job hjob job' hjob' => ?_⟩
  obtain ⟨_, -, hdelete⟩ := mem_deletedJobs hjob
  obtain ⟨_, -, hunmonitor⟩ := mem_unmonitoredJobs hjob'
  exact movie_ne_of_mem_batches hdelete hunmonitor

/-- An entry that is recorded as removed is made for the routed candidates of its movie. -/
theorem candidates_of_mem_handledJobs {job : MovieJob}
    (h : job ∈ deletedJobs env outcomes db approvedBy candidates ++
      unmonitoredJobs env outcomes db approvedBy candidates) :
    job.candidates = routedCandidates env db candidates job.movieId ∧ job.candidates ≠ [] := by
  have hentry : ∃ unmonitor config, BatchEntry env db candidates unmonitor config job := by
    rcases List.mem_append.mp h with hjob | hjob
    · obtain ⟨config, -, hbatch⟩ := mem_deletedJobs hjob
      exact ⟨false, config, mem_batch hbatch⟩
    · obtain ⟨config, -, hbatch⟩ := mem_unmonitoredJobs hjob
      exact ⟨true, config, mem_batch hbatch⟩
  obtain ⟨unmonitor, config, hentry⟩ := hentry
  refine ⟨hentry.candidates_eq, ?_⟩
  rw [hentry.candidates_eq]
  intro hempty
  have hrouting := hentry.mem_routing
  simp [routing, hempty] at hrouting

theorem handledJobs_candidates_nodup (h : candidates.Nodup) :
    ((deletedJobs env outcomes db approvedBy candidates ++
      unmonitoredJobs env outcomes db approvedBy candidates).flatMap MovieJob.candidates).Nodup := by
  refine List.nodup_flatMap.mpr ⟨fun job hjob => ?_, ?_⟩
  · rw [(candidates_of_mem_handledJobs hjob).1]
    exact routedCandidates_nodup h _
  · refine handledJobs_pairwise.imp_of_mem fun {a b} ha hb hne c hca hcb => ?_
    rw [(candidates_of_mem_handledJobs ha).1] at hca
    rw [(candidates_of_mem_handledJobs hb).1] at hcb
    exact hne (Option.some.inj
      ((mem_routedCandidates hca).2.symm.trans (mem_routedCandidates hcb).2))

/-- A candidate that the media server deletes is not one that was routed. -/
theorem notMem_routedCandidates_of_unmatched {c : ReclaimCandidate} {movieId : Nat}
    (h : c ∈ unmatchedVersionCandidates env db candidates) :
    c ∉ routedCandidates env db candidates movieId := by
  simp only [unmatchedVersionCandidates, routedCandidates, versionCandidates, wholeMovieCandidates,
    List.mem_append, List.mem_filter, decide_eq_true_eq] at h ⊢
  rintro (⟨-, -, hroute⟩ | ⟨⟨-, hnone⟩, -⟩)
  · simp [Option.isNone_iff_eq_none.mp h.2] at hroute
  · simp [Option.isNone_iff_eq_none.mp hnone] at h

theorem notMem_routedCandidates_of_unhandled {c : ReclaimCandidate} {job : MovieJob}
    (h : c ∈ unhandled env outcomes db approvedBy candidates)
    (hjob : job ∈ deletedJobs env outcomes db approvedBy candidates ++
      unmonitoredJobs env outcomes db approvedBy candidates) : c ∉ job.candidates := by
  rw [(candidates_of_mem_handledJobs hjob).1]
  intro hc
  have hmovie := (mem_routedCandidates hc).2
  have hhandled : job ∈ (deleting env outcomes db approvedBy candidates).handled ++
      (unmonitoring env outcomes db approvedBy candidates).handled := by
    rcases List.mem_append.mp hjob with hjob | hjob
    · exact List.mem_append_left _ (mem_of_mem_firstOfEach hjob)
    · exact List.mem_append_right _ (mem_of_mem_firstOfEach hjob)
  simp only [unhandled, List.mem_filter, Bool.not_eq_true', List.any_eq_false] at h
  exact h.2 job hhandled (by simp [hmovie])

theorem removals_flatMap_candidates :
    (removals env outcomes db approvedBy candidates).flatMap MovieRemoval.candidates =
      ((unmatchedVersionCandidates env db candidates).flatMap
          (versionRemovals env outcomes db)).flatMap MovieRemoval.candidates ++
        ((deletedJobs env outcomes db approvedBy candidates ++
          unmonitoredJobs env outcomes db approvedBy candidates).flatMap MovieJob.candidates ++
        ((unhandled env outcomes db approvedBy candidates).flatMap
          (fallbackRemovals env outcomes
            (batched env outcomes db approvedBy candidates).db)).flatMap
            MovieRemoval.candidates) := by
  simp only [removals, List.flatMap_append, List.flatMap_map, List.append_assoc]
  rfl

theorem removals_candidates_nodup (h : candidates.Nodup) :
    ((removals env outcomes db approvedBy candidates).flatMap MovieRemoval.candidates).Nodup := by
  have hunmatched : (unmatchedVersionCandidates env db candidates).Nodup := (h.filter _).filter _
  have hunhandled : (unhandled env outcomes db approvedBy candidates).Nodup := (h.filter _).filter _
  rw [removals_flatMap_candidates]
  refine List.Nodup.append (hunmatched.sublist flatMap_versionRemovals_sublist)
    (List.Nodup.append (handledJobs_candidates_nodup h)
      (hunhandled.sublist flatMap_fallbackRemovals_sublist) ?_) ?_
  · intro c hjobs hfallback
    obtain ⟨job, hjob, hc⟩ := List.mem_flatMap.mp hjobs
    exact notMem_routedCandidates_of_unhandled
      (flatMap_fallbackRemovals_sublist.subset hfallback) hjob hc
  · intro c hversion hrest
    have hc := flatMap_versionRemovals_sublist.subset hversion
    rcases List.mem_append.mp hrest with hjobs | hfallback
    · obtain ⟨job, hjob, hmem⟩ := List.mem_flatMap.mp hjobs
      rw [(candidates_of_mem_handledJobs hjob).1] at hmem
      exact notMem_routedCandidates_of_unmatched hc hmem
    · have hwhole := flatMap_fallbackRemovals_sublist.subset hfallback
      simp only [unmatchedVersionCandidates, versionCandidates, List.mem_filter] at hc
      simp only [unhandled, wholeMovieCandidates, List.mem_filter] at hwhole
      simp [Option.isNone_iff_eq_none.mp hwhole.1.2] at hc

theorem mem_removals_candidates {c : ReclaimCandidate}
    (h : c ∈ (removals env outcomes db approvedBy candidates).flatMap MovieRemoval.candidates) :
    c ∈ candidates := by
  rw [removals_flatMap_candidates, List.mem_append, List.mem_append] at h
  rcases h with hversion | hjobs | hfallback
  · have hc := flatMap_versionRemovals_sublist.subset hversion
    exact (List.mem_filter.mp (List.mem_filter.mp hc).1).1
  · obtain ⟨job, hjob, hc⟩ := List.mem_flatMap.mp hjobs
    rw [(candidates_of_mem_handledJobs hjob).1] at hc
    exact (mem_routedCandidates hc).1
  · have hc := flatMap_fallbackRemovals_sublist.subset hfallback
    exact (List.mem_filter.mp (List.mem_filter.mp hc).1).1

end Disjoint

theorem batch_mem_removals {job : MovieJob} :
    .batch job ∈ removals env outcomes db approvedBy candidates ↔
      job ∈ deletedJobs env outcomes db approvedBy candidates ++
        unmonitoredJobs env outcomes db approvedBy candidates := by
  have hfallback : ∀ rows c, .batch job ∉ fallbackRemovals env outcomes rows c := by
    intro rows c hmem
    rcases fallbackRemovals_eq env outcomes rows c with h | ⟨_, h⟩
    · simp [h] at hmem
    · simp [h] at hmem
  simp [removals, versionRemovals, hfallback]

/-! ## The accounts of a run -/

/-- Every movie that a batch handles is routed for one candidate. -/
def CountsExact (env : Environment) (outcomes : MovieOutcomes) (db : Tables)
    (candidates : List ReclaimCandidate) : Prop :=
  ∀ movieId, DeletedInBatch env outcomes db candidates movieId ∨
      UnmonitoredInBatch env outcomes db candidates movieId →
    (routedCandidates env db candidates movieId).length = 1

theorem length_candidates_iff (approvedBy : String) :
    (∀ g ∈ (removals env outcomes db approvedBy candidates).map MovieRemoval.candidates,
      g.length = 1) ↔ CountsExact env outcomes db candidates := by
  have hjobs : (∀ g ∈ (removals env outcomes db approvedBy candidates).map MovieRemoval.candidates,
      g.length = 1) ↔ ∀ job ∈ deletedJobs env outcomes db approvedBy candidates ++
        unmonitoredJobs env outcomes db approvedBy candidates,
          (routedCandidates env db candidates job.movieId).length = 1 := by
    rw [List.forall_mem_map]
    constructor
    · intro h job hjob
      rw [← (candidates_of_mem_handledJobs hjob).1]
      exact h (.batch job) (batch_mem_removals.mpr hjob)
    · intro h r hr
      cases r with
      | version c v => rfl
      | fallback c id => rfl
      | batch job =>
        have hjob := batch_mem_removals.mp hr
        rw [MovieRemoval.candidates, (candidates_of_mem_handledJobs hjob).1]
        exact h job hjob
  rw [hjobs]
  constructor
  · rintro h movieId (hdeleted | hunmonitored)
    · obtain ⟨job, hjob, rfl⟩ := exists_mem_deletedJobs approvedBy hdeleted
      exact h job (List.mem_append_left _ hjob)
    · obtain ⟨job, hjob, rfl⟩ := exists_mem_unmonitoredJobs approvedBy hunmonitored
      exact h job (List.mem_append_right _ hjob)
  · intro h job hjob
    refine h job.movieId ?_
    rcases List.mem_append.mp hjob with hjob | hjob
    · obtain ⟨config, hok, hbatch⟩ := mem_deletedJobs hjob
      exact .inl ⟨config, hok, job, hbatch, rfl⟩
    · obtain ⟨config, hok, hbatch⟩ := mem_unmonitoredJobs hjob
      exact .inr ⟨config, hok, job, hbatch, rfl⟩

theorem run_candidateIds_nodup (h : (db.candidates.map ReclaimCandidate.id).Nodup) :
    ((deleteMovieCandidates env outcomes db restrictToIds approvedBy).db.candidates.map
      ReclaimCandidate.id).Nodup := by
  refine (run_effects ..).preserves (P := fun db : Tables =>
    (db.candidates.map ReclaimCandidate.id).Nodup) ?_ ?_ h
  · intro db db' hmarks hdb
    rwa [hmarks.candidateIds_eq]
  · intro r _ db' hdb'
    exact hdb'.sublist (r.apply_candidateIds_sublist db')

theorem run_accounts (hids : (db.candidates.map ReclaimCandidate.id).Nodup)
    (hnodup : restrictToIds.Nodup) (hne : restrictToIds ≠ []) :
    Accounts restrictToIds db (deleteMovieCandidates env outcomes db restrictToIds approvedBy)
      (CountsExact env outcomes db (loadCandidates env db restrictToIds)) := by
  set candidates := loadCandidates env db restrictToIds with hcandidates
  have hloaded : candidates.Nodup := hids.of_map.sublist (loadCandidates_sublist restrictToIds)
  rw [← length_candidates_iff approvedBy]
  refine accounts_of_groups hnodup hids (run_candidateIds_nodup hids) ?_ ?_ ?_ ?_ ?_
  · intro id
    rw [run_hasCandidate_iff, ← hcandidates, ← List.flatMap_def]
    simp only [MovieRemoval.keepsCandidate_iff, List.forall_mem_flatMap]
  · intro c hc
    have hmem := mem_removals_candidates (List.flatMap_def ▸ hc)
    exact ⟨(loadCandidates_sublist restrictToIds).subset hmem,
      id_mem_of_mem_loadCandidates hne hmem⟩
  · rw [← List.flatMap_def]
    exact removals_candidates_nodup hloaded
  · intro g hg
    obtain ⟨r, hr, rfl⟩ := List.mem_map.mp hg
    cases r with
    | version c v => exact List.cons_ne_nil _ _
    | fallback c id => exact List.cons_ne_nil _ _
    | batch job => exact (candidates_of_mem_handledJobs (batch_mem_removals.mp hr)).2
  · rw [List.length_map]
    exact run_deletedCount

end Movie

end MediaMasterr.Deletion
