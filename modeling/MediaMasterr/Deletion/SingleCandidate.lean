import MediaMasterr.Deletion.Counts
import MediaMasterr.Deletion.Move

/-! # Calls for one candidate

A file operation job calls the deletion or the move for one candidate at a time.
Such a call counts one success exactly when the candidate is gone, and no handler
deletes a candidate that it does not count. -/

namespace MediaMasterr.Deletion

open MediaMasterr.Foundations MediaMasterr.Database

/-- What the counts of a call for one candidate say about its row. A call may be `blocked`: then
it counts a failure without a look at the row. It may have `skipped` the candidate. -/
structure CallReport (id : Nat) (db : Tables) (blocked skipped : Prop)
    (called : Tables × Nat × Nat) :
    Prop where
  candidateIds : (called.1.candidates.map ReclaimCandidate.id).Nodup
  shrinks : ∀ id, called.1.HasCandidate id → db.HasCandidate id
  counts_le : called.2.1 + called.2.2 ≤ 1
  gone_of_succeeded : called.2.1 = 1 → ¬called.1.HasCandidate id
  kept_of_failed : called.2.2 = 1 → blocked ∨ called.1.HasCandidate id
  gone_of_uncounted : called.2.1 = 0 → called.2.2 = 0 → skipped ∨ ¬called.1.HasCandidate id

theorem CallReport.imp {id : Nat} {db : Tables} {blocked blocked' skipped skipped' : Prop}
    {called : Tables × Nat × Nat} (h : CallReport id db blocked skipped called)
    (hblocked : blocked → blocked') (hskipped : skipped → skipped') :
    CallReport id db blocked' skipped' called :=
  ⟨h.candidateIds, h.shrinks, h.counts_le, h.gone_of_succeeded,
    fun hfailed => (h.kept_of_failed hfailed).imp_left hblocked,
    fun hnone hnone' => (h.gone_of_uncounted hnone hnone').imp_left hskipped⟩

variable {env : Environment} {db : Tables} {id : Nat} {approvedBy : String}

/-! ## Deletions -/

section Deletions

variable {outcomes : HandlerOutcomes}

theorem Movie.routedCandidates_ne_nil {outcomes : MovieOutcomes}
    {candidates : List ReclaimCandidate}
    {movieId : Nat} (h : DeletedInBatch env outcomes db candidates movieId ∨
      UnmonitoredInBatch env outcomes db candidates movieId) :
    routedCandidates env db candidates movieId ≠ [] := by
  rcases h with hbatch | hbatch
  · obtain ⟨job, hjob, rfl⟩ := exists_mem_deletedJobs "" hbatch
    have hcandidates := candidates_of_mem_handledJobs (List.mem_append_left _ hjob)
    exact hcandidates.1 ▸ hcandidates.2
  · obtain ⟨job, hjob, rfl⟩ := exists_mem_unmonitoredJobs "" hbatch
    have hcandidates := candidates_of_mem_handledJobs (List.mem_append_right _ hjob)
    exact hcandidates.1 ▸ hcandidates.2

/-- No handler deletes another requested candidate: there is none. -/
theorem Handler.countsExact_single (hids : (db.candidates.map ReclaimCandidate.id).Nodup)
    (handler : Handler) : handler.CountsExact env outcomes db [id] := by
  cases handler with
  | movie =>
    intro movieId hbatch
    set candidates := Movie.loadCandidates env db [id] with hcandidates
    have hloaded : candidates.Sublist db.candidates := Movie.loadCandidates_sublist [id]
    have hrouted := Movie.routedCandidates_ne_nil hbatch
    -- two routed candidates would have the same primary key
    have hone : ∀ c ∈ Movie.routedCandidates env db candidates movieId,
        ∀ c' ∈ Movie.routedCandidates env db candidates movieId, c = c' := by
      intro c hc c' hc'
      have hmem := (Movie.mem_routedCandidates hc).1
      have hmem' := (Movie.mem_routedCandidates hc').1
      have hid := Movie.id_mem_of_mem_loadCandidates (List.cons_ne_nil _ _) hmem
      have hid' := Movie.id_mem_of_mem_loadCandidates (List.cons_ne_nil _ _) hmem'
      refine List.inj_on_of_nodup_map hids (hloaded.subset hmem) (hloaded.subset hmem') ?_
      rw [List.mem_singleton.mp hid, List.mem_singleton.mp hid']
    have hnodup : (Movie.routedCandidates env db candidates movieId).Nodup :=
      Movie.routedCandidates_nodup (hids.of_map.sublist hloaded) movieId
    match hlist : Movie.routedCandidates env db candidates movieId, hrouted with
    | [c], _ => rfl
    | c :: c' :: rest, _ =>
      rw [hlist] at hone hnodup
      have heq : c = c' := hone c (by simp) c' (by simp)
      simp [heq] at hnodup
  | series => trivial
  | season =>
    rintro k hk hrequested ⟨task, htask, -⟩
    refine ⟨task, htask, ?_⟩
    have hloaded := Season.tasks_candidates_sublist.subset
      (List.mem_map_of_mem (Season.mem_deletedTasks.mp htask).1)
    have hid := Season.id_mem_of_mem_loadCandidates (List.cons_ne_nil _ _) hloaded
    rw [List.mem_singleton.mp hid, List.mem_singleton.mp hrequested]
  | episode =>
    rintro k hk hrequested ⟨before, task, rest, htasks, hdeletes, -⟩
    have htask : task ∈ Episode.tasks env db [id] := by simp [htasks]
    refine ⟨task, Episode.mem_deletedTasks.mpr ⟨htask, hdeletes⟩, ?_⟩
    have hloaded := Episode.tasks_candidates_sublist.subset (List.mem_map_of_mem htask)
    have hid := Episode.id_mem_of_mem_loadCandidates (List.cons_ne_nil _ _) hloaded
    rw [List.mem_singleton.mp hid, List.mem_singleton.mp hrequested]

theorem candidateIds_nodup_of_mem_handlerStarts {handlers : List Handler} {db : Tables}
    (hids : (db.candidates.map ReclaimCandidate.id).Nodup) {start : Handler × Tables}
    (h : start ∈ handlerStarts env outcomes approvedBy [id] handlers db) :
    (start.2.candidates.map ReclaimCandidate.id).Nodup := by
  induction handlers generalizing db with
  | nil => simp [handlerStarts] at h
  | cons handler handlers ih =>
    rcases List.mem_cons.mp h with rfl | h
    · exact hids
    · exact ih (handler.run_accounts env outcomes approvedBy hids (List.nodup_singleton id)
        (List.cons_ne_nil _ _)).candidateIds h

theorem runHandlers_candidateIds_nodup (handlers : List Handler) {db : Tables}
    (hids : (db.candidates.map ReclaimCandidate.id).Nodup) :
    ((runHandlers env outcomes [id] approvedBy handlers db).1.candidates.map
      ReclaimCandidate.id).Nodup := by
  induction handlers generalizing db with
  | nil => exact hids
  | cons handler handlers ih =>
    rw [runHandlers_cons]
    exact ih (handler.run_accounts env outcomes approvedBy hids (List.nodup_singleton id)
      (List.cons_ne_nil _ _)).candidateIds

theorem countsHonest_single (env : Environment) (outcomes : HandlerOutcomes) (id : Nat)
    (approvedBy : String)
    (hids : (db.candidates.map ReclaimCandidate.id).Nodup) :
    CountsHonest env outcomes db [id] approvedBy := by
  have hsingle : [id].eraseDups = [id] := rfl
  rw [countsHonest_iff hids, hsingle]
  intro start hstart
  exact Handler.countsExact_single (candidateIds_nodup_of_mem_handlerStarts hids hstart) start.1

/-- The length of a filter of one item. -/
theorem length_filter_singleton {p : Nat → Bool} :
    ([id].filter p).length = if p id then 1 else 0 := by
  rw [List.filter_singleton]
  cases p id <;> rfl

theorem deleteSpecificCandidatesImpl_counts (env : Environment) (outcomes : HandlerOutcomes)
    (id : Nat)
    (approvedBy : String) (hids : (db.candidates.map ReclaimCandidate.id).Nodup) :
    let called := deleteSpecificCandidatesImpl env outcomes db [id] approvedBy
    (called.2.1 = 1 ∨ called.2.1 = 0) ∧ (called.2.2 = 1 ∨ called.2.2 = 0) ∧
      (called.2.1 = 1 ↔ db.HasCandidate id ∧ ¬called.1.HasCandidate id) ∧
      (called.2.2 = 1 ↔ db.HasCandidate id ∧ called.1.HasCandidate id) := by
  have hhonest := countsHonest_single env outcomes id approvedBy hids
  have hsingle : [id].eraseDups = [id] := rfl
  simp only [CountsHonest, hsingle, deletedIds, keptIds, length_filter_singleton] at hhonest
  simp only [hasCandidate_iff, hhonest]
  grind

theorem deleteSpecificCandidatesImpl_report (hids : (db.candidates.map ReclaimCandidate.id).Nodup) :
    CallReport id db False False
      (deleteSpecificCandidatesImpl env outcomes db [id] approvedBy) := by
  have hsingle : [id].eraseDups = [id] := rfl
  have hmarks := deleteSpecificCandidatesImpl_marks env outcomes db approvedBy
    (List.cons_ne_nil id [])
  rw [hsingle] at hmarks
  have hshrinks := (runHandlers_accounts env outcomes approvedBy
    (handlersOf env.services db [id]) (List.nodup_singleton id) (List.cons_ne_nil _ _) hids).1
  have hcounts := deleteSpecificCandidatesImpl_counts env outcomes id approvedBy hids
  dsimp only at hcounts
  generalize deleteSpecificCandidatesImpl env outcomes db [id] approvedBy =
    called at hcounts hmarks ⊢
  have hafter : ∀ id, called.1.HasCandidate id → db.HasCandidate id :=
    fun id h => hshrinks id (hmarks.hasCandidate_iff.mp h)
  obtain ⟨hdeleted, hfailed, hgone, hkept⟩ := hcounts
  refine ⟨?_, hafter, ?_, fun h => (hgone.mp h).2, fun h => .inr (hkept.mp h).2, ?_⟩
  · rw [hmarks.candidateIds_eq]
    exact runHandlers_candidateIds_nodup _ hids
  · grind
  · intro hnone hnone'
    -- a candidate that is still there would count as failed
    refine .inr fun h => ?_
    have hone := hkept.mpr ⟨hafter id h, h⟩
    omega

end Deletions

/-! ## Moves -/

namespace Move

variable {outcomes : MoveOutcomes} {candidate : ReclaimCandidate}

theorem loadCandidates_sublist (env : Environment) (db : Tables) (candidateIds : List Nat) :
    (loadCandidates env db candidateIds).Sublist (db.candidates.filter (·.id ∈ candidateIds)) := by
  unfold loadCandidates
  dsimp only
  split_ifs
  · exact List.filter_sublist
  · exact List.Sublist.refl _

/-- At most one candidate is loaded for an id. -/
theorem loadCandidates_single (env : Environment) (id : Nat)
    (hids : (db.candidates.map ReclaimCandidate.id).Nodup) :
    loadCandidates env db [id] = [] ∨
      ∃ c ∈ db.candidates, c.id = id ∧ loadCandidates env db [id] = [c] := by
  have hsub := loadCandidates_sublist env db [id]
  have hmem : ∀ c ∈ loadCandidates env db [id], c ∈ db.candidates ∧ c.id = id := by
    intro c hc
    simpa using hsub.subset hc
  have hnodup : (loadCandidates env db [id]).Nodup :=
    hids.of_map.sublist (hsub.trans List.filter_sublist)
  match hlist : loadCandidates env db [id] with
  | [] => exact .inl rfl
  | [c] =>
    obtain ⟨hc, hid⟩ := hmem c (by simp [hlist])
    exact .inr ⟨c, hc, hid, rfl⟩
  | c :: c' :: rest =>
    obtain ⟨hc, hid⟩ := hmem c (by simp [hlist])
    obtain ⟨hc', hid'⟩ := hmem c' (by simp [hlist])
    have heq : c = c' := List.inj_on_of_nodup_map hids hc hc' (hid.trans hid'.symm)
    simp [hlist, heq] at hnodup

theorem recordMovieMove_candidates {dest : String} {version : MovieVersion} {movie : Movie} :
    (recordMovieMove env approvedBy dest version movie db).candidates =
      db.candidates.filter (·.movieVersionId ≠ some version.id) := by
  unfold recordMovieMove
  dsimp only
  split <;> simp [Tables.shrinkMovie]

theorem deleteSeasonRow_candidates {now seriesId seasonId : Nat} :
    (db.deleteSeasonRow now seriesId seasonId).candidates =
      db.candidates.filter (·.seasonId ≠ some seasonId) := by
  unfold Tables.deleteSeasonRow Tables.softRemoveSeriesIfEmpty
  dsimp only
  split_ifs <;> rfl

theorem recordSeriesMove_candidates {dest : String} {move : SeriesMove} :
    (recordSeriesMove env approvedBy dest candidate move db).candidates.Sublist
      (db.candidates.filter (·.id ≠ candidate.id)) := by
  unfold recordSeriesMove recordSeasonMove
  dsimp only
  cases move.season with
  | none => exact List.Sublist.refl _
  | some season =>
    dsimp only
    split_ifs
    · rw [deleteSeasonRow_candidates]
      exact List.filter_sublist
    · exact List.Sublist.refl _

/-- The version that is moved is the one that the candidate names. -/
theorem version_of_movieMove {rows : Tables} {version : MovieVersion} {movie : Movie}
    {call : MoveCall}
    (h : movieMove outcomes rows candidate = some (version, movie, call)) :
    candidate.movieVersionId = some version.id := by
  simp only [movieMove, Option.bind_eq_bind, Option.bind_eq_some_iff] at h
  obtain ⟨versionId, hversion, row, hrow, _, -, _, -, _, -, hpure⟩ := h
  obtain rfl : row = version := by
    simpa using congrArg (Option.map Prod.fst) hpure
  have hid : row.id = versionId := by simpa [Tables.findVersion] using List.find?_some hrow
  rw [hid]
  exact (Option.filter_eq_some_iff.mp hversion).1

/-- One step fails, or moves its candidate. -/
structure StepReport (candidate : ReclaimCandidate) (run run' : MoveRun) : Prop where
  sublist : run'.db.candidates.Sublist run.db.candidates
  counts : (run'.moved = run.moved ∧ run'.failed = run.failed + 1 ∧ run'.db = run.db) ∨
    (run'.moved = run.moved + 1 ∧ run'.failed = run.failed ∧ ¬run'.db.HasCandidate candidate.id)

theorem moveMovieStep_report {rows : Tables} {run : MoveRun}
    (hids : (run.db.candidates.map ReclaimCandidate.id).Nodup)
      (hmem : candidate ∈ run.db.candidates) :
    StepReport candidate run (moveMovieStep env outcomes rows approvedBy run candidate) := by
  unfold moveMovieStep
  cases hmove : movieMove outcomes rows candidate with
  | none => exact ⟨List.Sublist.refl _, .inl ⟨rfl, rfl, rfl⟩⟩
  | some found =>
    obtain ⟨version, movie, call⟩ := found
    dsimp only
    cases outcomes.move call with
    | error e => exact ⟨List.Sublist.refl _, .inl ⟨rfl, rfl, rfl⟩⟩
    | ok dest =>
      refine ⟨?_, .inr ⟨rfl, rfl, ?_⟩⟩
      · simp only [recordMovieMove_candidates]
        exact List.filter_sublist
      · rintro ⟨c, hc, hid⟩
        simp only [recordMovieMove_candidates, List.mem_filter, decide_eq_true_eq] at hc
        obtain rfl := List.inj_on_of_nodup_map hids hc.1 hmem hid
        exact hc.2 (version_of_movieMove hmove)

theorem moveSeriesStep_report {rows : Tables} {run : MoveRun} :
    StepReport candidate run (moveSeriesStep env outcomes rows approvedBy run candidate) := by
  unfold moveSeriesStep
  cases seriesMove env outcomes rows candidate with
  | none => exact ⟨List.Sublist.refl _, .inl ⟨rfl, rfl, rfl⟩⟩
  | some move =>
    dsimp only
    cases outcomes.move move.call with
    | error e => exact ⟨List.Sublist.refl _, .inl ⟨rfl, rfl, rfl⟩⟩
    | ok dest =>
      refine ⟨recordSeriesMove_candidates.trans List.filter_sublist, .inr ⟨rfl, rfl, ?_⟩⟩
      rintro ⟨c, hc, hid⟩
      have hne := recordSeriesMove_candidates.subset hc
      simp [hid] at hne

end Move

/-- The candidate is one of those that a move leaves out. -/
def MoveSkips (env : Environment) (db : Tables) (id : Nat) : Prop :=
  db.effectiveSettings.moveEnabled = true ∧ db.HasCandidate id ∧
    Move.loadCandidates env db [id] = []

/-- Moves are switched off, and there is no such candidate. -/
def MoveBlocked (db : Tables) (id : Nat) : Prop :=
  db.effectiveSettings.moveEnabled = false ∧ ¬db.HasCandidate id

theorem moveSpecificCandidatesImpl_report (outcomes : MoveOutcomes)
    (hids : (db.candidates.map ReclaimCandidate.id).Nodup) :
    CallReport id db (MoveBlocked db id) (MoveSkips env db id)
      (moveSpecificCandidatesImpl env outcomes db [id] approvedBy) := by
  by_cases henabled : db.effectiveSettings.moveEnabled = true
  · obtain hnone | ⟨c, hc, rfl, hone⟩ := Move.loadCandidates_single env id hids
    · -- nothing is loaded, and nothing is counted
      simp only [moveSpecificCandidatesImpl, henabled, hnone]
      refine ⟨hids, fun _ h => h, by simp, by simp, by simp, fun _ _ => ?_⟩
      by_cases hcandidate : db.HasCandidate id
      · exact .inl ⟨henabled, hcandidate, hnone⟩
      · exact .inr hcandidate
    · have hstep : ∃ run, Move.StepReport c { db } run ∧
          moveSpecificCandidatesImpl env outcomes db [c.id] approvedBy =
            (run.db, run.moved, run.failed) := by
        cases hmedia : c.mediaType with
        | movie =>
          refine ⟨Move.moveMovieStep env outcomes db approvedBy { db } c,
            Move.moveMovieStep_report hids hc, ?_⟩
          simp [moveSpecificCandidatesImpl, henabled, hone, hmedia]
        | series =>
          refine ⟨Move.moveSeriesStep env outcomes db approvedBy { db } c,
            Move.moveSeriesStep_report, ?_⟩
          simp [moveSpecificCandidatesImpl, henabled, hone, hmedia]
      obtain ⟨run, ⟨hsub, hcounts⟩, heq⟩ := hstep
      rw [heq]
      refine ⟨hids.sublist (hsub.map _), fun id h => ?_, ?_, ?_, ?_, ?_⟩
      · obtain ⟨c', hc', rfl⟩ := h
        exact ⟨c', hsub.subset hc', rfl⟩
      all_goals
        dsimp only at hcounts ⊢
        rcases hcounts with ⟨hmoved, hfailed, hdb⟩ | ⟨hmoved, hfailed, hgone⟩
      · omega
      · omega
      · omega
      · exact fun _ => hgone
      · exact fun _ => .inr (hdb ▸ ⟨c, hc, rfl⟩)
      · omega
      · omega
      · omega
  · simp only [moveSpecificCandidatesImpl, henabled]
    refine ⟨hids, fun _ h => h, by simp, by simp, fun _ => ?_, by simp⟩
    by_cases hcandidate : db.HasCandidate id
    · exact .inr hcandidate
    · exact .inl ⟨by simpa using henabled, hcandidate⟩

end MediaMasterr.Deletion
