import MediaMasterr.Deletion.Accounts
import MediaMasterr.Deletion.Removals

/-! # Counted series deletions

The series handler counts one series for each candidate that it deletes, so its
count is always exact. -/

namespace MediaMasterr.Deletion.Series

open MediaMasterr.Foundations MediaMasterr.Database

variable {env : Environment} {outcomes : SeriesOutcomes} {db : Tables} {approvedBy : String}
variable {candidates : List ReclaimCandidate} {restrictToIds : List Nat}

/-- What marks and the records of removals keep, the run keeps. -/
theorem run_preserves {P : Tables → Prop}
    (hmarks : ∀ {db db' : Tables}, db.Marks db' → P db → P db')
    (hremoval : ∀ (action : String) (db : Tables) (job : SeriesJob),
      P db → P (recordRemoval env.now approvedBy action db job)) (hdb : P db) :
    P (deleteSeriesCandidates env outcomes db restrictToIds approvedBy).db := by
  have hfold : ∀ action (jobs : List SeriesJob) (db : Tables), P db →
      P (jobs.foldl (recordRemoval env.now approvedBy action) db) :=
    fun action jobs db => Loops.foldl_invariant fun job _ db => hremoval action db job
  set candidates := loadCandidates env db restrictToIds with hcandidates
  have hbatched : P (batched env outcomes db approvedBy candidates).db := by
    apply hfold
    apply hmarks BatchRoute.runBatches_marks
    apply hfold
    exact hmarks BatchRoute.runBatches_marks hdb
  dsimp only [deleteSeriesCandidates, fallback]
  rw [← hcandidates]
  split_ifs
  · refine Loops.foldl_invariant (P := fun run : Run => P run.db) (fun c _ run hrun => ?_) hbatched
    dsimp only [fallbackStep]
    cases fallbackJob env outcomes db c with
    | none => exact hrun
    | some job => exact hremoval _ _ _ hrun
  · refine hmarks (Tables.marks_foldl (fun db c => ?_) _ _) hbatched
    exact Tables.marks_markUnexplainedDeleteFailures _ _ _

/-- A run counts its removals. -/
theorem run_deletedCount :
    (deleteSeriesCandidates env outcomes db restrictToIds approvedBy).deletedCount =
      (removals env outcomes db approvedBy (loadCandidates env db restrictToIds)).length := by
  dsimp only [deleteSeriesCandidates, fallback, removals]
  split_ifs
  · rw [Loops.foldl_count (n := Run.deletedCount)
      (p := fun c => (fallbackJob env outcomes db c).toList), List.length_append,
      List.length_append, List.filterMap_eq_flatMap_toList]
    · rfl
    · intro run c
      dsimp only [fallbackStep]
      cases fallbackJob env outcomes db c <;> rfl
  · simp only [List.append_nil, List.length_append]
    rfl

/-! ## No candidate is removed twice -/

theorem loadCandidates_sublist (restrictToIds : List Nat) :
    (loadCandidates env db restrictToIds).Sublist db.candidates :=
  (filterSeriesCandidatesByFavorites_sublist ..).trans
    ((restrictTo_sublist ..).trans List.filter_sublist)

theorem id_mem_of_mem_loadCandidates {c : ReclaimCandidate} (hne : restrictToIds ≠ [])
    (h : c ∈ loadCandidates env db restrictToIds) : c.id ∈ restrictToIds :=
  mem_restrictTo hne ((filterSeriesCandidatesByFavorites_sublist ..).subset h)

theorem candidate_of_fallbackJob {c : ReclaimCandidate} {job : SeriesJob}
    (h : fallbackJob env outcomes db c = some job) : job.candidate = c := by
  obtain ⟨hc, -, -⟩ := removesFiles_fallbackEvents h
  exact hc.symm

theorem candidate_mem_of_mem_removals {job : SeriesJob}
    (h : job ∈ removals env outcomes db approvedBy candidates) : job.candidate ∈ candidates := by
  simp only [removals, List.mem_append, or_assoc] at h
  rcases h with hdeleted | hunmonitored | hfallback
  · exact (deletedInBatch_of_mem hdeleted).2.1
  · exact (unmonitoredInBatch_of_mem hunmonitored).2.1
  · split_ifs at hfallback
    · obtain ⟨c, hc, hjob⟩ := List.mem_filterMap.mp hfallback
      rw [candidate_of_fallbackJob hjob]
      exact (List.mem_filter.mp hc).1
    · simp at hfallback

theorem removals_candidates_nodup (h : candidates.Nodup) :
    ((removals env outcomes db approvedBy candidates).map SeriesJob.candidate).Nodup := by
  have hbatched : ((deletedJobs env outcomes db candidates ++
      unmonitoredJobs env outcomes db approvedBy candidates).map SeriesJob.candidate).Nodup := by
    have hseries : ∀ job ∈ deletedJobs env outcomes db candidates ++
        unmonitoredJobs env outcomes db approvedBy candidates,
        job.candidate.seriesId = some job.seriesId := by
      intro job hjob
      rcases List.mem_append.mp hjob with hjob | hjob
      · exact (deletedInBatch_of_mem hjob).1
      · exact (unmonitoredInBatch_of_mem hjob).1
    have hpairwise : (deletedJobs env outcomes db candidates ++
        unmonitoredJobs env outcomes db approvedBy candidates).Pairwise
          fun a b => a.seriesId ≠ b.seriesId := by
      rw [List.pairwise_append]
      refine ⟨firstOfEach_pairwise _ _, firstOfEach_pairwise _ _, fun job hjob job' hjob' => ?_⟩
      obtain ⟨_, -, -, hdelete⟩ := mem_deletedJobs hjob
      obtain ⟨_, -, -, hunmonitor⟩ := mem_unmonitoredJobs hjob'
      exact series_ne_of_mem_batches hdelete hunmonitor
    refine List.pairwise_map.mpr (hpairwise.imp_of_mem fun {a b} ha hb hne heq => ?_)
    have hsame : some a.seriesId = some b.seriesId := by rw [← hseries a ha, ← hseries b hb, heq]
    exact hne (Option.some.inj hsame)
  unfold removals
  rw [List.map_append]
  split_ifs
  · have hremaining : (remaining env outcomes db approvedBy candidates).Nodup := h.filter _
    refine hbatched.append
      (hremaining.sublist (filterMap_map_sublist candidate_of_fallbackJob _)) ?_
    intro c hjobs hfallback
    obtain ⟨job, hjob, rfl⟩ := List.mem_map.mp hjobs
    have hc := (filterMap_map_sublist candidate_of_fallbackJob _).subset hfallback
    rcases List.mem_append.mp hjob with hdeleted | hunmonitored
    · obtain ⟨hseries, -, hbatch⟩ := deletedInBatch_of_mem hdeleted
      exact (not_handled_of_mem_remaining hc hseries).1 hbatch
    · obtain ⟨hseries, -, hbatch⟩ := unmonitoredInBatch_of_mem hunmonitored
      exact (not_handled_of_mem_remaining hc hseries).2 hbatch
  · rw [List.map_nil, List.append_nil]
    exact hbatched

/-! ## The accounts of a run -/

theorem run_accounts (hids : (db.candidates.map ReclaimCandidate.id).Nodup)
    (hnodup : restrictToIds.Nodup) (hne : restrictToIds ≠ []) :
    Accounts restrictToIds db (deleteSeriesCandidates env outcomes db restrictToIds approvedBy)
      True := by
  set candidates := loadCandidates env db restrictToIds with hcandidates
  set jobs := removals env outcomes db approvedBy candidates with hjobs
  have hloaded : candidates.Nodup := hids.of_map.sublist (loadCandidates_sublist restrictToIds)
  have hexact : True ↔ ∀ g ∈ jobs.map fun job => [job.candidate], g.length = 1 := by simp
  have hflatten : (jobs.map fun job => [job.candidate]).flatten = jobs.map SeriesJob.candidate := by
    rw [← List.flatMap_def, List.map_eq_flatMap]
  rw [hexact]
  refine accounts_of_groups hnodup hids ?_ ?_ ?_ ?_ ?_ ?_
  · refine run_preserves (P := fun db : Tables => (db.candidates.map ReclaimCandidate.id).Nodup)
      ?_ ?_ hids
    · intro db db' hmarks hdb
      rwa [hmarks.candidateIds_eq]
    · intro action db' job hdb'
      exact hdb'.sublist (List.filter_sublist.map _)
  · intro id
    rw [run_hasCandidate_iff, hflatten, ← hcandidates, ← hjobs, List.forall_mem_map]
  · intro c hc
    rw [hflatten] at hc
    obtain ⟨job, hjob, rfl⟩ := List.mem_map.mp hc
    have hmem := candidate_mem_of_mem_removals hjob
    exact ⟨(loadCandidates_sublist restrictToIds).subset hmem,
      id_mem_of_mem_loadCandidates hne hmem⟩
  · rw [hflatten]
    exact removals_candidates_nodup hloaded
  · simp
  · rw [List.length_map]
    exact run_deletedCount

end MediaMasterr.Deletion.Series
