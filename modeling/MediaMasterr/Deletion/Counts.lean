import MediaMasterr.Deletion.Handlers
import MediaMasterr.Deletion.MovieAccounts
import MediaMasterr.Deletion.RadarrRouting
import MediaMasterr.Deletion.SeriesAccounts
import MediaMasterr.Deletion.SeasonAccounts

/-! # Deletion counts

`_delete_specific_candidates_impl` adds up what the handlers count and takes the
rest of the candidates for failed. The counts agree with the candidate table
exactly when no handler deletes a candidate that it does not count. -/

namespace MediaMasterr.Deletion

open MediaMasterr.Foundations MediaMasterr.Database

/-! ## The job -/

/-- The error of a candidate that no handler has marked. -/
def unexplainedDeleteError : String :=
  "Candidate delete failed before a scoped handler could complete. " ++
    "The candidate may be stale, have an invalid scope, lack an active " ++
    "Arr/media-server route, or have failed in a branch without a more specific error."

/-- The handlers, one after the other, and the sum of their counts. -/
def runHandlers (env : Environment) (outcomes : HandlerOutcomes) (restrict : List Nat)
    (approvedBy : String) (handlers : List Handler) (db : Tables) : Tables × Nat :=
  handlers.foldl (fun (db, deleted) handler =>
    let run := handler.run env outcomes db restrict approvedBy
    (run.db, deleted + run.deletedCount)) (db, 0)

/-- `_delete_specific_candidates_impl`: the tables afterwards, and the deleted and failed
counts. -/
def deleteSpecificCandidatesImpl (env : Environment) (outcomes : HandlerOutcomes) (db : Tables)
    (candidateIds : List Nat) (approvedBy : String) : Tables × Nat × Nat :=
  if candidateIds.isEmpty then (db, 0, 0)
  else
    let restrict := candidateIds.eraseDups
    let foundIds := (db.candidates.filter (·.id ∈ restrict)).map ReclaimCandidate.id
    let (after, deleted) := runHandlers env outcomes restrict approvedBy
      (handlersOf env.services db restrict) db
    let failed := foundIds.length - deleted
    let after :=
      if failed = 0 then after
      else after.markUnexplainedDeleteFailures env.now foundIds unexplainedDeleteError
    (after, deleted, failed)

section

variable (env : Environment) (outcomes : HandlerOutcomes) (db : Tables) (candidateIds : List Nat)
variable (approvedBy : String)

/-- The requested candidates that are in both tables. -/
def keptIds (requested : List Nat) (db db' : Tables) : List Nat :=
  requested.filter fun id => id ∈ db.candidates.map (·.id) ∧ id ∈ db'.candidates.map (·.id)

/-- The counts are those of the requested candidates that are gone and of those that are still
there, and all that were there are counted. -/
def CountsHonest : Prop :=
  let (after, deleted, failed) :=
    deleteSpecificCandidatesImpl env outcomes db candidateIds approvedBy
  let requested := candidateIds.eraseDups
  deleted = (deletedIds requested db after).length ∧
    failed = (keptIds requested db after).length ∧
    deleted + failed = (requested.filter fun id => id ∈ db.candidates.map (·.id)).length

instance : Decidable (CountsHonest env outcomes db candidateIds approvedBy) := by
  unfold CountsHonest
  infer_instance

/-- No candidate goes that the handler does not count. -/
def Handler.CountsExact (restrict : List Nat) : Handler → Prop
  | .movie =>
    Movie.CountsExact env outcomes.movie db (Movie.loadCandidates env db restrict)
  | .series => True
  | .season => Season.CountsExact env outcomes.season db restrict
  | .episode => Episode.CountsExact env outcomes.episode db restrict

/-- The handlers, each with the tables that it starts from. -/
def handlerStarts (restrict : List Nat) : List Handler → Tables → List (Handler × Tables)
  | [], _ => []
  | handler :: handlers, db =>
    (handler, db) ::
      handlerStarts restrict handlers (handler.run env outcomes db restrict approvedBy).db

end

variable {env : Environment} {outcomes : HandlerOutcomes} {db db' db'' : Tables}
variable {candidateIds restrict requested : List Nat} {approvedBy : String}

theorem Handler.run_accounts (env : Environment) (outcomes : HandlerOutcomes)
    (approvedBy : String) (hids : (db.candidates.map ReclaimCandidate.id).Nodup)
    (hnodup : restrict.Nodup) (hne : restrict ≠ []) (handler : Handler) :
    Accounts restrict db (handler.run env outcomes db restrict approvedBy)
      (handler.CountsExact env outcomes db restrict) := by
  cases handler with
  | movie => exact Movie.run_accounts hids hnodup hne
  | series => exact Series.run_accounts hids hnodup hne
  | season => exact Season.run_accounts hids hnodup hne
  | episode => exact Episode.run_accounts hids hnodup hne

/-! ## Runs one after the other -/

/-- The members of a list that a predicate keeps, and those that it does not. -/
theorem length_filter_split {α : Type*} (q : α → Bool) (l : List α) {p : α → Bool} :
    (l.filter p).length =
      (l.filter fun a => p a && !q a).length + (l.filter fun a => p a && q a).length := by
  rw [List.length_eq_length_filter_add (l := l.filter p) q, List.filter_filter, List.filter_filter,
    Nat.add_comm]
  simp only [Bool.and_comm]

theorem length_found_eq (requested : List Nat) (db db' : Tables) :
    (requested.filter fun id => id ∈ db.candidates.map (·.id)).length =
      (deletedIds requested db db').length + (keptIds requested db db').length := by
  rw [length_filter_split (fun id => decide (id ∈ db'.candidates.map (·.id)))]
  simp only [deletedIds, keptIds, Bool.decide_and, decide_not]

/-- What two runs delete. -/
theorem length_deletedIds_add (hshrinks : ∀ id, db'.HasCandidate id → db.HasCandidate id)
    (hshrinks' : ∀ id, db''.HasCandidate id → db'.HasCandidate id) :
    (deletedIds requested db db'').length =
      (deletedIds requested db db').length + (deletedIds requested db' db'').length := by
  simp only [hasCandidate_iff] at hshrinks hshrinks'
  rw [deletedIds, length_filter_split (fun id => decide (id ∈ db'.candidates.map (·.id)))]
  congr 1
  · refine congrArg List.length (List.filter_congr fun id _ => ?_)
    have h := hshrinks' id
    grind
  · refine congrArg List.length (List.filter_congr fun id _ => ?_)
    have h := hshrinks id
    grind

theorem foldl_handlers_add (handlers : List Handler) (db : Tables) (n : Nat) :
    handlers.foldl (fun (db, deleted) (handler : Handler) =>
        let run := handler.run env outcomes db restrict approvedBy
        (run.db, deleted + run.deletedCount)) (db, n) =
      ((runHandlers env outcomes restrict approvedBy handlers db).1,
        n + (runHandlers env outcomes restrict approvedBy handlers db).2) := by
  unfold runHandlers
  induction handlers generalizing db n with
  | nil => rfl
  | cons handler handlers ih =>
    rw [List.foldl_cons, List.foldl_cons, ih, ih _ (0 + _)]
    simp only [Nat.zero_add, Nat.add_assoc]

theorem runHandlers_cons (handler : Handler) (handlers : List Handler) (db : Tables) :
    runHandlers env outcomes restrict approvedBy (handler :: handlers) db =
      let run := handler.run env outcomes db restrict approvedBy
      let rest := runHandlers env outcomes restrict approvedBy handlers run.db
      (rest.1, run.deletedCount + rest.2) := by
  rw [runHandlers, List.foldl_cons, foldl_handlers_add, Nat.zero_add]

/-- What the handlers do, one after the other. -/
theorem runHandlers_accounts (env : Environment) (outcomes : HandlerOutcomes)
    (approvedBy : String) (handlers : List Handler) (hnodup : restrict.Nodup)
    (hne : restrict ≠ []) (hids : (db.candidates.map ReclaimCandidate.id).Nodup) :
    let result := runHandlers env outcomes restrict approvedBy handlers db
    (∀ id, result.1.HasCandidate id → db.HasCandidate id) ∧
      result.2 ≤ (deletedIds restrict db result.1).length ∧
      (result.2 = (deletedIds restrict db result.1).length ↔
        ∀ start ∈ handlerStarts env outcomes approvedBy restrict handlers db,
          start.1.CountsExact env outcomes start.2 restrict) := by
  induction handlers generalizing db with
  | nil =>
    have hnone : deletedIds restrict db db = [] := List.filter_eq_nil_iff.mpr fun id _ => by simp
    simp [runHandlers, handlerStarts, hnone]
  | cons handler handlers ih =>
    have haccounts := handler.run_accounts env outcomes approvedBy hids hnodup hne
    obtain ⟨hshrinks, hle, hiff⟩ := ih haccounts.candidateIds
    rw [runHandlers_cons]
    dsimp only
    rw [length_deletedIds_add haccounts.shrinks hshrinks, handlerStarts, List.forall_mem_cons,
      ← hiff, ← haccounts.count_eq_iff]
    have hfirst := haccounts.count_le
    refine ⟨fun id h => haccounts.shrinks id (hshrinks id h), by omega, by omega⟩

/-! ## The counts of a job -/

/-- The unexplained failures leave the candidates in place. -/
theorem deleteSpecificCandidatesImpl_marks (env : Environment) (outcomes : HandlerOutcomes)
    (db : Tables) (approvedBy : String) (hne : candidateIds ≠ []) :
    (runHandlers env outcomes candidateIds.eraseDups approvedBy
        (handlersOf env.services db candidateIds.eraseDups) db).1.Marks
      (deleteSpecificCandidatesImpl env outcomes db candidateIds approvedBy).1 := by
  dsimp only [deleteSpecificCandidatesImpl]
  rw [if_neg (by simpa using hne)]
  dsimp only
  split_ifs
  · exact .refl _
  · exact Tables.marks_markUnexplainedDeleteFailures _ _ _

theorem deleteSpecificCandidatesImpl_snd (env : Environment) (outcomes : HandlerOutcomes)
    (approvedBy : String) (hids : (db.candidates.map ReclaimCandidate.id).Nodup)
    (hne : candidateIds ≠ []) :
    let deleted := (runHandlers env outcomes candidateIds.eraseDups approvedBy
      (handlersOf env.services db candidateIds.eraseDups) db).2
    (deleteSpecificCandidatesImpl env outcomes db candidateIds approvedBy).2 =
      (deleted, (candidateIds.eraseDups.filter fun id =>
        id ∈ db.candidates.map (·.id)).length - deleted) := by
  have hfound : ((db.candidates.filter (·.id ∈ candidateIds.eraseDups)).map
      ReclaimCandidate.id).length =
      (candidateIds.eraseDups.filter fun id => id ∈ db.candidates.map (·.id)).length := by
    refine List.Perm.length_eq ?_
    refine (List.perm_ext_iff_of_nodup (hids.sublist (List.filter_sublist.map _))
      ((nodup_eraseDups _).filter _)).mpr fun id => ?_
    simp only [List.mem_map, List.mem_filter, decide_eq_true_eq]
    grind
  dsimp only [deleteSpecificCandidatesImpl]
  rw [if_neg (by simpa using hne), ← hfound]

theorem deletedIds_congr (requested : List Nat) (db : Tables) (h : db'.Marks db'') :
    deletedIds requested db db'' = deletedIds requested db db' := by
  rw [deletedIds, deletedIds, h.candidateIds_eq]

theorem countsHonest_iff (hids : (db.candidates.map ReclaimCandidate.id).Nodup) :
    CountsHonest env outcomes db candidateIds approvedBy ↔
      ∀ start ∈ handlerStarts env outcomes approvedBy candidateIds.eraseDups
          (handlersOf env.services db candidateIds.eraseDups) db,
        start.1.CountsExact env outcomes start.2 candidateIds.eraseDups := by
  by_cases hempty : candidateIds = []
  · subst hempty
    have hnone : handlersOf env.services db [] = [] := by simp [handlersOf]
    simp [CountsHonest, deleteSpecificCandidatesImpl, hnone, handlerStarts, deletedIds, keptIds]
  · have hne : candidateIds.eraseDups ≠ [] := by
      obtain ⟨id, rest, rfl⟩ := List.exists_cons_of_ne_nil hempty
      rw [List.eraseDups_cons]
      exact List.cons_ne_nil _ _
    obtain ⟨-, hle, hiff⟩ := runHandlers_accounts env outcomes approvedBy
      (handlersOf env.services db candidateIds.eraseDups) (nodup_eraseDups _) hne hids
    have hgone := deletedIds_congr candidateIds.eraseDups db
      (deleteSpecificCandidatesImpl_marks env outcomes db approvedBy hempty)
    have hfound := length_found_eq candidateIds.eraseDups db
      (deleteSpecificCandidatesImpl env outcomes db candidateIds approvedBy).1
    have hcounts := deleteSpecificCandidatesImpl_snd env outcomes approvedBy hids hempty
    rw [← hiff]
    rw [← hgone] at hle ⊢
    simp only [CountsHonest, hcounts]
    omega

/-- One version of a movie is one candidate and one entry. -/
theorem countsExact_oneVersion :
    CountsHonest Movie.twoRadarrs {} Movie.splitMovie [1] "system" ∧
      (CountsHonest Movie.twoRadarrs {} Movie.splitMovie [1] "system" ↔
        ∀ start ∈ handlerStarts Movie.twoRadarrs {} "system" [1]
            (handlersOf Movie.twoRadarrs.services Movie.splitMovie [1]) Movie.splitMovie,
          start.1.CountsExact Movie.twoRadarrs {} start.2 [1]) :=
  ⟨by decide, countsHonest_iff (by decide)⟩

/-- Two versions of a movie go and are counted as one. -/
theorem not_countsHonest_twoVersions :
    ¬CountsHonest Movie.twoRadarrs {} Movie.splitMovie [1, 2] "system" := by
  decide

end MediaMasterr.Deletion
