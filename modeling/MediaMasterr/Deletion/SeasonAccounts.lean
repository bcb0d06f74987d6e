import MediaMasterr.Deletion.Accounts
import MediaMasterr.Deletion.Episode

/-! # Counted season and episode deletions

The season and episode handlers count one for each candidate that they delete on
its own. The statements that delete a season row delete every candidate that names
the season, and these are not counted. -/

namespace MediaMasterr.Database.Tables

/-- The season row is there, or no candidate names the season. -/
def SeasonSettled (db : Tables) (seasonId : Nat) : Prop :=
  (db.findSeason seasonId).isSome ∨ ∀ k ∈ db.candidateKeys, k.2 ≠ some seasonId

variable {db db' : Tables} {now seriesId seasonId key : Nat}

theorem findSeason_isSome_iff : (db.findSeason key).isSome ↔ ∃ s ∈ db.seasons, s.id = key := by
  simp [findSeason]

theorem SeasonSettled.of_sublist (h : db.SeasonSettled key)
    (hkeys : ∀ k ∈ db'.candidateKeys, k ∈ db.candidateKeys)
    (hseasons : db'.seasons.map Season.id = db.seasons.map Season.id) : db'.SeasonSettled key := by
  rcases h with hrow | hnone
  · left
    have hmem : key ∈ db.seasons.map Season.id := by
      simpa using findSeason_isSome_iff.mp hrow
    rw [← hseasons] at hmem
    exact findSeason_isSome_iff.mpr (by simpa using hmem)
  · exact .inr fun k hk => hnone k (hkeys k hk)

theorem SeasonSettled.marks (hmarks : db.Marks db') (h : db.SeasonSettled key) :
    db'.SeasonSettled key := by
  refine h.of_sublist (fun k hk => hmarks.candidateKeys_eq ▸ hk) ?_
  obtain ⟨-, -, -, rfl⟩ := hmarks
  rfl

theorem Marks.episodes_eq (h : db.Marks db') : db'.episodes = db.episodes := by
  obtain ⟨-, -, -, rfl⟩ := h
  rfl

theorem deleteSeasonRow_seasons :
    (db.deleteSeasonRow now seriesId seasonId).seasons = db.seasons.filter (·.id ≠ seasonId) := by
  unfold deleteSeasonRow softRemoveSeriesIfEmpty
  dsimp only
  split_ifs <;> rfl

theorem deleteSeasonRow_episodes :
    (db.deleteSeasonRow now seriesId seasonId).episodes = db.episodes := by
  unfold deleteSeasonRow softRemoveSeriesIfEmpty
  dsimp only
  split_ifs <;> rfl

theorem SeasonSettled.deleteSeasonRow (h : db.SeasonSettled key) :
    (db.deleteSeasonRow now seriesId seasonId).SeasonSettled key := by
  by_cases hsame : key = seasonId
  · right
    rw [candidateKeys_deleteSeasonRow]
    intro k hk
    simpa [hsame] using (List.mem_filter.mp hk).2
  · rcases h with hrow | hnone
    · left
      obtain ⟨s, hs, rfl⟩ := findSeason_isSome_iff.mp hrow
      refine findSeason_isSome_iff.mpr ⟨s, ?_, rfl⟩
      rw [deleteSeasonRow_seasons]
      exact List.mem_filter.mpr ⟨hs, by simpa using hsame⟩
    · right
      rw [candidateKeys_deleteSeasonRow]
      exact fun k hk => hnone k (List.mem_filter.mp hk).1

/-- The row is deleted when it is there; in a settled table its candidates are gone then. -/
theorem SeasonSettled.candidateKeys_deleteSeasonRow (h : db.SeasonSettled seasonId) :
    (if (db.findSeason seasonId).isSome then db.deleteSeasonRow now seriesId seasonId
      else db).candidateKeys = db.candidateKeys.filter (·.2 ≠ some seasonId) := by
  split_ifs with hrow
  · exact Tables.candidateKeys_deleteSeasonRow
  · have hnone := h.resolve_left hrow
    exact (List.filter_eq_self.mpr fun k hk => by simpa using hnone k hk).symm

end MediaMasterr.Database.Tables

namespace MediaMasterr.Deletion

open MediaMasterr.Foundations MediaMasterr.Database

namespace Season

variable {env : Environment} {outcomes : SeasonOutcomes} {settings : GeneralSettings}
variable {db rows : Tables} {approvedBy : String} {restrictToIds : List Nat} {task : SeasonTask}

/-- The task deletes its season. -/
def TaskDeletes (env : Environment) (outcomes : SeasonOutcomes) (settings : GeneralSettings)
    (rows : Tables) (task : SeasonTask) : Prop :=
  taskFailure env outcomes settings rows task = none

instance : DecidablePred (TaskDeletes env outcomes settings rows) := fun _ =>
  inferInstanceAs (Decidable (_ = none))

/-- The tasks of a run that delete their season. -/
def deletedTasks (env : Environment) (outcomes : SeasonOutcomes) (db : Tables)
    (restrictToIds : List Nat) : List SeasonTask :=
  (tasks env db restrictToIds).filter (TaskDeletes env outcomes db.effectiveSettings db ·)

/-- The tables before a season row is deleted. -/
theorem finalize_eq (env : Environment) (approvedBy : String) (action : ArrDeleteAction)
    (task : SeasonTask) (db : Tables) : ∃ db' : Tables,
      db'.candidateKeys = db.candidateKeys.filter (·.1 ≠ task.candidate.id) ∧
      db'.seasons = db.seasons ∧
      (if (db'.findSeason task.season.id).isSome then
          db'.deleteSeasonRow env.now task.series.id task.season.id
        else db').Marks (finalize env approvedBy action task db) := by
  refine ⟨_, ?_, ?_, Tables.marks_history _ _⟩
  · exact Tables.candidateKeys_deleteCandidate
  · rfl

theorem finalize_candidateKeys {action : ArrDeleteAction} (h : db.SeasonSettled task.season.id) :
    (finalize env approvedBy action task db).candidateKeys =
      db.candidateKeys.filter fun k =>
        k.1 ≠ task.candidate.id ∧ k.2 ≠ some task.season.id := by
  obtain ⟨db', hkeys, hseasons, hmarks⟩ := finalize_eq env approvedBy action task db
  have hsettled : db'.SeasonSettled task.season.id := by
    refine h.of_sublist (fun k hk => ?_) (by rw [hseasons])
    rw [hkeys] at hk
    exact (List.mem_filter.mp hk).1
  rw [hmarks.candidateKeys_eq, hsettled.candidateKeys_deleteSeasonRow, hkeys, List.filter_filter]
  simp [Bool.and_comm]

theorem settled_finalize {action : ArrDeleteAction} {key : Nat} (h : db.SeasonSettled key) :
    (finalize env approvedBy action task db).SeasonSettled key := by
  obtain ⟨db', hkeys, hseasons, hmarks⟩ := finalize_eq env approvedBy action task db
  have hsettled : db'.SeasonSettled key := by
    refine h.of_sublist (fun k hk => ?_) (by rw [hseasons])
    rw [hkeys] at hk
    exact (List.mem_filter.mp hk).1
  refine Tables.SeasonSettled.marks hmarks ?_
  split_ifs
  · exact hsettled.deleteSeasonRow
  · exact hsettled

/-! ## A run -/

/-- The candidate keys and the seasons of every task, through a run. -/
theorem processTask_keys (run : Run) (hsettled : ∀ task' ∈ tasks env db restrictToIds,
    run.db.SeasonSettled task'.season.id) (htask : task ∈ tasks env db restrictToIds)
    (k : Nat × Option Nat) :
    k ∈ (processTask env outcomes settings rows approvedBy run task).db.candidateKeys ↔
      k ∈ run.db.candidateKeys ∧ (TaskDeletes env outcomes settings rows task →
        k.1 ≠ task.candidate.id ∧ k.2 ≠ some task.season.id) := by
  dsimp only [processTask, TaskDeletes]
  cases hfailure : taskFailure env outcomes settings rows task with
  | some error => simp [Tables.candidateKeys_markCandidateDeleteFailure]
  | none => simp [finalize_candidateKeys (hsettled task htask)]

theorem processTask_settled {key : Nat} (run : Run) (h : run.db.SeasonSettled key) :
    (processTask env outcomes settings rows approvedBy run task).db.SeasonSettled key := by
  dsimp only [processTask]
  cases taskFailure env outcomes settings rows task with
  | some error => exact h.marks (Tables.marks_markCandidateDeleteFailure _ _ _)
  | none => exact settled_finalize h

theorem processTask_keys_sublist (run : Run) (h : run.db.SeasonSettled task.season.id) :
    (processTask env outcomes settings rows approvedBy run task).db.candidateKeys.Sublist
      run.db.candidateKeys := by
  dsimp only [processTask]
  cases taskFailure env outcomes settings rows task with
  | some error => rw [Tables.candidateKeys_markCandidateDeleteFailure]
  | none =>
    rw [finalize_candidateKeys h]
    exact List.filter_sublist

/-- The rows of the tasks' seasons are there at the start. -/
theorem settled_of_mem_tasks (h : task ∈ tasks env db restrictToIds) :
    db.SeasonSettled task.season.id := by
  obtain ⟨c, -, htask⟩ := List.mem_filterMap.mp h
  unfold taskOf at htask
  split at htask
  · rename_i season series hseason hseries
    obtain rfl := Option.some.inj htask
    obtain ⟨id, -, hfind⟩ := Option.bind_eq_some_iff.mp hseason
    exact .inl (Tables.findSeason_isSome_iff.mpr ⟨season, List.mem_of_find?_eq_some hfind, rfl⟩)
  · exact absurd htask (by simp)

theorem candidate_of_taskOf {c : ReclaimCandidate} (h : taskOf db c = some task) :
    task.candidate = c := by
  unfold taskOf at h
  split at h
  · exact (congrArg SeasonTask.candidate (Option.some.inj h)).symm
  · exact absurd h (by simp)

theorem tasks_candidates_sublist :
    ((tasks env db restrictToIds).map SeasonTask.candidate).Sublist
      (loadCandidates env db restrictToIds) :=
  filterMap_map_sublist candidate_of_taskOf _

theorem loadCandidates_sublist (restrictToIds : List Nat) :
    (loadCandidates env db restrictToIds).Sublist db.candidates :=
  (filterSeriesCandidatesByFavorites_sublist ..).trans
    ((restrictTo_sublist ..).trans List.filter_sublist)

theorem id_mem_of_mem_loadCandidates {c : ReclaimCandidate} (hne : restrictToIds ≠ [])
    (h : c ∈ loadCandidates env db restrictToIds) : c.id ∈ restrictToIds :=
  mem_restrictTo hne ((filterSeriesCandidatesByFavorites_sublist ..).subset h)

theorem run_deletedCount :
    (deleteSeasonCandidates env outcomes db restrictToIds approvedBy).deletedCount =
      (deletedTasks env outcomes db restrictToIds).length := by
  dsimp only [deleteSeasonCandidates, processTasks, deletedTasks]
  rw [Loops.foldl_countIf (n := Run.deletedCount)]
  · exact Nat.zero_add _
  · intro run task
    dsimp only [processTask]
    cases hfailure : taskFailure env outcomes db.effectiveSettings db task with
    | some error => simp [TaskDeletes, hfailure]
    | none => simp [TaskDeletes, hfailure]

/-! ## The accounts of a run -/

/-- A deleted season takes the candidates with it that name the season. -/
def RemovedWith (env : Environment) (outcomes : SeasonOutcomes) (db : Tables)
    (restrictToIds : List Nat) (k : Nat × Option Nat) : Prop :=
  ∃ task ∈ deletedTasks env outcomes db restrictToIds,
    k.1 = task.candidate.id ∨ k.2 = some task.season.id

/-- Every requested candidate that goes with a season is deleted by a task of its own. -/
def CountsExact (env : Environment) (outcomes : SeasonOutcomes) (db : Tables)
    (restrictToIds : List Nat) : Prop :=
  ∀ k ∈ db.candidateKeys, k.1 ∈ restrictToIds → RemovedWith env outcomes db restrictToIds k →
    ∃ task ∈ deletedTasks env outcomes db restrictToIds, task.candidate.id = k.1

theorem mem_deletedTasks : task ∈ deletedTasks env outcomes db restrictToIds ↔
    task ∈ tasks env db restrictToIds ∧
      TaskDeletes env outcomes db.effectiveSettings db task := by
  simp [deletedTasks]

/-- The candidates that a run leaves. -/
theorem mem_run_candidateKeys {k : Nat × Option Nat} :
    k ∈ (deleteSeasonCandidates env outcomes db restrictToIds approvedBy).db.candidateKeys ↔
      k ∈ db.candidateKeys ∧ ¬RemovedWith env outcomes db restrictToIds k := by
  dsimp only [deleteSeasonCandidates, processTasks]
  rw [Loops.foldl_keeps_iff
    (I := fun run : Run => ∀ task ∈ tasks env db restrictToIds, run.db.SeasonSettled task.season.id)
    (P := fun run : Run => k ∈ run.db.candidateKeys)
    (fun _ _ run hrun task htask => processTask_settled run (hrun task htask))
    (fun task htask run hrun => processTask_keys run hrun htask k)
    (fun task htask => settled_of_mem_tasks htask)]
  simp only [RemovedWith, mem_deletedTasks]
  grind

theorem run_candidateKeys_sublist :
    (deleteSeasonCandidates env outcomes db restrictToIds approvedBy).db.candidateKeys.Sublist
      db.candidateKeys := by
  dsimp only [deleteSeasonCandidates, processTasks]
  refine (Loops.foldl_invariant
    (P := fun run : Run => run.db.candidateKeys.Sublist db.candidateKeys ∧
      ∀ task ∈ tasks env db restrictToIds, run.db.SeasonSettled task.season.id) ?_
    ⟨List.Sublist.refl _, fun task htask => settled_of_mem_tasks htask⟩).1
  intro task htask run hrun
  exact ⟨(processTask_keys_sublist run (hrun.2 task htask)).trans hrun.1,
    fun task' htask' => processTask_settled run (hrun.2 task' htask')⟩

theorem run_accounts (hids : (db.candidates.map ReclaimCandidate.id).Nodup)
    (hnodup : restrictToIds.Nodup) (hne : restrictToIds ≠ []) :
    Accounts restrictToIds db (deleteSeasonCandidates env outcomes db restrictToIds approvedBy)
      (CountsExact env outcomes db restrictToIds) := by
  set recorded := ((deletedTasks env outcomes db restrictToIds).map SeasonTask.candidate).map
    ReclaimCandidate.id with hrecorded
  have hsub : ((deletedTasks env outcomes db restrictToIds).map SeasonTask.candidate).Sublist
      (loadCandidates env db restrictToIds) :=
    (List.filter_sublist.map _).trans tasks_candidates_sublist
  have hexact : CountsExact env outcomes db restrictToIds ↔ ∀ k ∈ db.candidateKeys,
      k.1 ∈ restrictToIds → RemovedWith env outcomes db restrictToIds k → k.1 ∈ recorded := by
    simp only [CountsExact, hrecorded, List.mem_map, exists_exists_and_eq_and]
  rw [hexact]
  refine accounts_of_recorded hnodup hids run_candidateKeys_sublist ?_ ?_ ?_ ?_
  · intro k hk
    rw [mem_run_candidateKeys]
    exact and_iff_right hk
  · intro id hid
    obtain ⟨c, hc, rfl⟩ := List.mem_map.mp hid
    have hloaded := hsub.subset hc
    obtain ⟨task, htask, rfl⟩ := List.mem_map.mp hc
    refine ⟨id_mem_of_mem_loadCandidates hne hloaded, _,
      Tables.mem_candidateKeys ((loadCandidates_sublist restrictToIds).subset hloaded), rfl, ?_⟩
    exact ⟨task, htask, .inl rfl⟩
  · exact hids.sublist ((hsub.trans (loadCandidates_sublist restrictToIds)).map _)
  · rw [run_deletedCount, hrecorded, List.length_map, List.length_map]

end Season

namespace Episode

variable {env : Environment} {outcomes : EpisodeOutcomes} {settings : GeneralSettings}
variable {db rows : Tables} {approvedBy : String} {restrictToIds : List Nat} {task : EpisodeTask}

/-- The task deletes its episode. -/
def TaskDeletes (env : Environment) (outcomes : EpisodeOutcomes) (settings : GeneralSettings)
    (rows : Tables) (task : EpisodeTask) : Prop :=
  taskFailure env outcomes settings rows task = none

instance : DecidablePred (TaskDeletes env outcomes settings rows) := fun _ =>
  inferInstanceAs (Decidable (_ = none))

/-- The tasks of a run that delete their episode. -/
def deletedTasks (env : Environment) (outcomes : EpisodeOutcomes) (db : Tables)
    (restrictToIds : List Nat) : List EpisodeTask :=
  (tasks env db restrictToIds).filter (TaskDeletes env outcomes db.effectiveSettings db ·)

theorem mem_deletedTasks : task ∈ deletedTasks env outcomes db restrictToIds ↔
    task ∈ tasks env db restrictToIds ∧
      TaskDeletes env outcomes db.effectiveSettings db task := by
  simp [deletedTasks]

/-- The tables before a season row is deleted. -/
theorem finalize_eq (env : Environment) (approvedBy : String) (action : ArrDeleteAction)
    (task : EpisodeTask) (db : Tables) : ∃ db' : Tables,
      db'.candidateKeys = db.candidateKeys.filter (·.1 ≠ task.candidate.id) ∧
      db'.seasons.map Database.Season.id = db.seasons.map Database.Season.id ∧
      db'.episodes = db.episodes.filter (·.id ≠ task.episode.id) ∧
      (if (db'.findSeason task.season.id).isSome ∧
            !db'.episodes.any (·.seasonId == task.season.id) then
          db'.deleteSeasonRow env.now task.series.id task.season.id
        else db').Marks (finalize env approvedBy action task db) := by
  refine ⟨_, ?_, ?_, ?_, Tables.marks_history _ _⟩
  · dsimp only [Tables.candidateKeys]
    split_ifs
    · exact Tables.candidateKeys_deleteCandidate
    · exact Tables.candidateKeys_deleteCandidate
  · have hids : ∀ seasons : List Database.Season, (seasons.map fun (s : Database.Season) =>
        if s.id = task.season.id then
          { s with
            size := s.size.map (· - (deletedSize db task).getD 0)
            episodeCount := s.episodeCount.map (· - 1) }
        else s).map Database.Season.id = seasons.map Database.Season.id := by
      intro seasons
      rw [List.map_map]
      refine List.map_congr_left fun s _ => ?_
      dsimp only [Function.comp_apply]
      split_ifs <;> rfl
    refine (hids _).trans ?_
    split_ifs <;> rfl
  · show (if ((db.deleteCandidate task.candidate.id).findEpisode task.episode.id).isSome then
      (db.deleteCandidate task.candidate.id).deleteEpisodeRow task.episode.id
      else db.deleteCandidate task.candidate.id).episodes = _
    split_ifs with hfound
    · rfl
    · rw [Option.not_isSome_iff_eq_none] at hfound
      refine (List.filter_eq_self.mpr fun e he => ?_).symm
      simpa using List.find?_eq_none.mp hfound e he

/-- The season row goes with its last episode. -/
theorem finalize_candidateKeys {action : ArrDeleteAction} (h : db.SeasonSettled task.season.id) :
    (finalize env approvedBy action task db).candidateKeys =
      db.candidateKeys.filter fun k => k.1 ≠ task.candidate.id ∧
        (k.2 = some task.season.id →
          ∃ e ∈ db.episodes, e.seasonId = task.season.id ∧ e.id ≠ task.episode.id) := by
  obtain ⟨db', hkeys, hseasons, hepisodes, hmarks⟩ := finalize_eq env approvedBy action task db
  have hsettled : db'.SeasonSettled task.season.id := by
    refine h.of_sublist (fun k hk => ?_) hseasons
    rw [hkeys] at hk
    exact (List.mem_filter.mp hk).1
  have hrest : db'.episodes.any (·.seasonId == task.season.id) = true ↔
      ∃ e ∈ db.episodes, e.seasonId = task.season.id ∧ e.id ≠ task.episode.id := by
    simp only [hepisodes, List.any_eq_true, List.mem_filter, decide_eq_true_eq, beq_iff_eq]
    grind
  rw [hmarks.candidateKeys_eq]
  by_cases hany : db'.episodes.any (·.seasonId == task.season.id) = true
  · simp [hany, hkeys, hrest.mp hany]
  · have hempty : ¬∃ e ∈ db.episodes, e.seasonId = task.season.id ∧ e.id ≠ task.episode.id :=
      fun h => hany (hrest.mpr h)
    simp only [hany, hempty, Bool.not_false, and_true, imp_false]
    rw [hsettled.candidateKeys_deleteSeasonRow, hkeys, List.filter_filter]
    simp [Bool.and_comm]

theorem finalize_episodes {action : ArrDeleteAction} :
    (finalize env approvedBy action task db).episodes =
      db.episodes.filter (·.id ≠ task.episode.id) := by
  obtain ⟨db', -, -, hepisodes, hmarks⟩ := finalize_eq env approvedBy action task db
  rw [hmarks.episodes_eq, ← hepisodes]
  split_ifs
  · exact Tables.deleteSeasonRow_episodes
  · rfl

theorem settled_finalize {action : ArrDeleteAction} {key : Nat} (h : db.SeasonSettled key) :
    (finalize env approvedBy action task db).SeasonSettled key := by
  obtain ⟨db', hkeys, hseasons, -, hmarks⟩ := finalize_eq env approvedBy action task db
  have hsettled : db'.SeasonSettled key := by
    refine h.of_sublist (fun k hk => ?_) hseasons
    rw [hkeys] at hk
    exact (List.mem_filter.mp hk).1
  refine Tables.SeasonSettled.marks hmarks ?_
  split_ifs
  · exact hsettled.deleteSeasonRow
  · exact hsettled

/-! ## A run -/

/-- The episodes of the task's season are all deleted by the task and those before it. -/
def EmptiesSeason (env : Environment) (outcomes : EpisodeOutcomes) (db : Tables)
    (before : List EpisodeTask) (task : EpisodeTask) : Prop :=
  ∀ e ∈ db.episodes, e.seasonId = task.season.id → ∃ task' ∈ before ++ [task],
    TaskDeletes env outcomes db.effectiveSettings db task' ∧ e.id = task'.episode.id

/-- The tables while a run goes on: the tasks so far have deleted their episodes, and the seasons
of all tasks are settled. -/
structure Progress (env : Environment) (outcomes : EpisodeOutcomes) (db : Tables)
    (restrictToIds : List Nat) (before : List EpisodeTask) (db' : Tables) : Prop where
  settled : ∀ task ∈ tasks env db restrictToIds, db'.SeasonSettled task.season.id
  mem_episodes : ∀ e, e ∈ db'.episodes ↔ e ∈ db.episodes ∧ ∀ task ∈ before,
    TaskDeletes env outcomes db.effectiveSettings db task → e.id ≠ task.episode.id

theorem Progress.processTask {before : List EpisodeTask} {run : Run}
    (h : Progress env outcomes db restrictToIds before run.db) (task : EpisodeTask) :
    Progress env outcomes db restrictToIds (before ++ [task])
      (processTask env outcomes db.effectiveSettings db approvedBy run task).db := by
  dsimp only [Episode.processTask]
  cases hfailure : taskFailure env outcomes db.effectiveSettings db task with
  | some error =>
    have hmarks : run.db.Marks
      (run.db.markCandidateDeleteFailure env.now task.candidate.id error) :=
      Tables.marks_markCandidateDeleteFailure _ _ _
    refine ⟨fun task' htask' => (h.settled task' htask').marks hmarks, fun e => ?_⟩
    rw [hmarks.episodes_eq, h.mem_episodes]
    simp [or_imp, forall_and, TaskDeletes, hfailure]
  | none =>
    refine ⟨fun task' htask' => settled_finalize (h.settled task' htask'), fun e => ?_⟩
    simp only [finalize_episodes, List.mem_filter, h.mem_episodes]
    simp [or_imp, forall_and, TaskDeletes, hfailure, and_assoc]

theorem Progress.processTask_keys {before : List EpisodeTask} {run : Run}
    (h : Progress env outcomes db restrictToIds before run.db)
    (htask : task ∈ tasks env db restrictToIds) (k : Nat × Option Nat) :
    k ∈ (Episode.processTask env outcomes db.effectiveSettings db approvedBy run
        task).db.candidateKeys ↔
      k ∈ run.db.candidateKeys ∧ (TaskDeletes env outcomes db.effectiveSettings db task →
        k.1 ≠ task.candidate.id ∧
          (k.2 = some task.season.id → ¬EmptiesSeason env outcomes db before task)) := by
  dsimp only [Episode.processTask]
  cases hfailure : taskFailure env outcomes db.effectiveSettings db task with
  | some error => simp [Tables.candidateKeys_markCandidateDeleteFailure, TaskDeletes, hfailure]
  | none =>
    have hdeletes : TaskDeletes env outcomes db.effectiveSettings db task := hfailure
    have hempties : (∃ e ∈ run.db.episodes, e.seasonId = task.season.id ∧ e.id ≠ task.episode.id) ↔
        ¬EmptiesSeason env outcomes db before task := by
      simp only [EmptiesSeason, h.mem_episodes, List.mem_append, List.mem_singleton]
      grind
    simp only [finalize_candidateKeys (h.settled task htask), List.mem_filter, decide_eq_true_eq,
      hempties, hdeletes, true_imp_iff]

/-- The rows of the tasks' seasons are there at the start. -/
theorem settled_of_mem_tasks (h : task ∈ tasks env db restrictToIds) :
    db.SeasonSettled task.season.id := by
  obtain ⟨c, -, htask⟩ := List.mem_filterMap.mp h
  unfold taskOf at htask
  split at htask
  · rename_i episode season series hepisode hseason hseries
    obtain rfl := Option.some.inj htask
    obtain ⟨id, -, hfind⟩ := Option.bind_eq_some_iff.mp hseason
    exact .inl (Tables.findSeason_isSome_iff.mpr ⟨season, List.mem_of_find?_eq_some hfind, rfl⟩)
  · exact absurd htask (by simp)

theorem progress_start : Progress env outcomes db restrictToIds [] db :=
  ⟨fun _ htask => settled_of_mem_tasks htask, by simp⟩

theorem candidate_of_taskOf {c : ReclaimCandidate} (h : taskOf db c = some task) :
    task.candidate = c := by
  unfold taskOf at h
  split at h
  · exact (congrArg EpisodeTask.candidate (Option.some.inj h)).symm
  · exact absurd h (by simp)

theorem tasks_candidates_sublist :
    ((tasks env db restrictToIds).map EpisodeTask.candidate).Sublist
      (loadCandidates env db restrictToIds) :=
  filterMap_map_sublist candidate_of_taskOf _

theorem loadCandidates_sublist (restrictToIds : List Nat) :
    (loadCandidates env db restrictToIds).Sublist db.candidates :=
  (filterSeriesCandidatesByFavorites_sublist ..).trans
    ((restrictTo_sublist ..).trans List.filter_sublist)

theorem id_mem_of_mem_loadCandidates {c : ReclaimCandidate} (hne : restrictToIds ≠ [])
    (h : c ∈ loadCandidates env db restrictToIds) : c.id ∈ restrictToIds :=
  mem_restrictTo hne ((filterSeriesCandidatesByFavorites_sublist ..).subset h)

theorem run_deletedCount :
    (deleteEpisodeCandidates env outcomes db restrictToIds approvedBy).deletedCount =
      (deletedTasks env outcomes db restrictToIds).length := by
  dsimp only [deleteEpisodeCandidates, processTasks, deletedTasks]
  rw [Loops.foldl_countIf (n := Run.deletedCount)]
  · exact Nat.zero_add _
  · intro run task
    dsimp only [processTask]
    cases hfailure : taskFailure env outcomes db.effectiveSettings db task with
    | some error => simp [TaskDeletes, hfailure]
    | none => simp [TaskDeletes, hfailure]

/-! ## The accounts of a run -/

/-- A deleted episode takes its own candidate, and the last one of a season all candidates that
name the season. -/
def RemovedWith (env : Environment) (outcomes : EpisodeOutcomes) (db : Tables)
    (restrictToIds : List Nat) (k : Nat × Option Nat) : Prop :=
  ∃ before task rest, tasks env db restrictToIds = before ++ task :: rest ∧
    TaskDeletes env outcomes db.effectiveSettings db task ∧
    (k.1 = task.candidate.id ∨
      (k.2 = some task.season.id ∧ EmptiesSeason env outcomes db before task))

/-- Every requested candidate that goes with an episode is deleted by a task of its own. -/
def CountsExact (env : Environment) (outcomes : EpisodeOutcomes) (db : Tables)
    (restrictToIds : List Nat) : Prop :=
  ∀ k ∈ db.candidateKeys, k.1 ∈ restrictToIds → RemovedWith env outcomes db restrictToIds k →
    ∃ task ∈ deletedTasks env outcomes db restrictToIds, task.candidate.id = k.1

/-- The candidates that a run leaves. -/
theorem mem_run_candidateKeys {k : Nat × Option Nat} :
    k ∈ (deleteEpisodeCandidates env outcomes db restrictToIds approvedBy).db.candidateKeys ↔
      k ∈ db.candidateKeys ∧ ¬RemovedWith env outcomes db restrictToIds k := by
  dsimp only [deleteEpisodeCandidates, processTasks]
  rw [Loops.foldl_keeps_iff_of_prefix
    (I := fun before (run : Run) => Progress env outcomes db restrictToIds before run.db)
    (P := fun run : Run => k ∈ run.db.candidateKeys)
    (fun before task _ run hrun => hrun.processTask task)
    (fun before task htask run hrun => hrun.processTask_keys htask k) progress_start]
  refine and_congr_right fun _ => ⟨?_, ?_⟩
  · rintro hall ⟨before, task, rest, heq, hdeletes, hgone⟩
    obtain ⟨hid, hseason⟩ := hall before task rest heq hdeletes
    rcases hgone with hown | ⟨hnames, hempties⟩
    · exact hid hown
    · exact hseason hnames hempties
  · intro hnot before task rest heq hdeletes
    refine ⟨fun hown => hnot ⟨before, task, rest, heq, hdeletes, .inl hown⟩, ?_⟩
    exact fun hnames hempties => hnot ⟨before, task, rest, heq, hdeletes, .inr ⟨hnames, hempties⟩⟩

theorem processTask_keys_sublist (run : Run) (h : run.db.SeasonSettled task.season.id) :
    (processTask env outcomes settings rows approvedBy run task).db.candidateKeys.Sublist
      run.db.candidateKeys := by
  dsimp only [processTask]
  cases taskFailure env outcomes settings rows task with
  | some error => rw [Tables.candidateKeys_markCandidateDeleteFailure]
  | none =>
    rw [finalize_candidateKeys h]
    exact List.filter_sublist

theorem processTask_settled {key : Nat} (run : Run) (h : run.db.SeasonSettled key) :
    (processTask env outcomes settings rows approvedBy run task).db.SeasonSettled key := by
  dsimp only [processTask]
  cases taskFailure env outcomes settings rows task with
  | some error => exact h.marks (Tables.marks_markCandidateDeleteFailure _ _ _)
  | none => exact settled_finalize h

theorem run_candidateKeys_sublist :
    (deleteEpisodeCandidates env outcomes db restrictToIds approvedBy).db.candidateKeys.Sublist
      db.candidateKeys := by
  dsimp only [deleteEpisodeCandidates, processTasks]
  refine (Loops.foldl_invariant
    (P := fun run : Run => run.db.candidateKeys.Sublist db.candidateKeys ∧
      ∀ task ∈ tasks env db restrictToIds, run.db.SeasonSettled task.season.id) ?_
    ⟨List.Sublist.refl _, fun task htask => settled_of_mem_tasks htask⟩).1
  intro task htask run hrun
  exact ⟨(processTask_keys_sublist run (hrun.2 task htask)).trans hrun.1,
    fun task' htask' => processTask_settled run (hrun.2 task' htask')⟩

theorem run_accounts (hids : (db.candidates.map ReclaimCandidate.id).Nodup)
    (hnodup : restrictToIds.Nodup) (hne : restrictToIds ≠ []) :
    Accounts restrictToIds db (deleteEpisodeCandidates env outcomes db restrictToIds approvedBy)
      (CountsExact env outcomes db restrictToIds) := by
  set recorded := ((deletedTasks env outcomes db restrictToIds).map EpisodeTask.candidate).map
    ReclaimCandidate.id with hrecorded
  have hsub : ((deletedTasks env outcomes db restrictToIds).map EpisodeTask.candidate).Sublist
      (loadCandidates env db restrictToIds) :=
    (List.filter_sublist.map _).trans tasks_candidates_sublist
  have hexact : CountsExact env outcomes db restrictToIds ↔ ∀ k ∈ db.candidateKeys,
      k.1 ∈ restrictToIds → RemovedWith env outcomes db restrictToIds k → k.1 ∈ recorded := by
    simp only [CountsExact, hrecorded, List.mem_map, exists_exists_and_eq_and]
  rw [hexact]
  refine accounts_of_recorded hnodup hids run_candidateKeys_sublist ?_ ?_ ?_ ?_
  · intro k hk
    rw [mem_run_candidateKeys]
    exact and_iff_right hk
  · intro id hid
    obtain ⟨c, hc, rfl⟩ := List.mem_map.mp hid
    have hloaded := hsub.subset hc
    obtain ⟨task, htask, rfl⟩ := List.mem_map.mp hc
    refine ⟨id_mem_of_mem_loadCandidates hne hloaded, _,
      Tables.mem_candidateKeys ((loadCandidates_sublist restrictToIds).subset hloaded), rfl, ?_⟩
    obtain ⟨hmem, hdeletes⟩ := mem_deletedTasks.mp htask
    obtain ⟨before, rest, heq⟩ := List.append_of_mem hmem
    exact ⟨before, task, rest, heq, hdeletes, .inl rfl⟩
  · exact hids.sublist ((hsub.trans (loadCandidates_sublist restrictToIds)).map _)
  · rw [run_deletedCount, hrecorded, List.length_map, List.length_map]

end Episode

end MediaMasterr.Deletion
