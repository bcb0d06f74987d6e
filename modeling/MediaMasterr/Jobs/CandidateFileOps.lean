import MediaMasterr.Deletion.Counts
import MediaMasterr.Deletion.Move
import MediaMasterr.Foundations.Doubles
import MediaMasterr.Requests.Store

/-! # Candidate file operations

The job that deletes or moves candidates, one after the other: its progress, its
result, and how it finalizes the delete request that it was queued for. -/

namespace MediaMasterr.Jobs.CandidateFileOps

open MediaMasterr.Foundations MediaMasterr.Database MediaMasterr.Deletion MediaMasterr.Requests

/-! ## Calls -/

/-- `_prune_leaving_soon_before_candidate_actions`: the text of its exception, when pruning the
items of some candidates fails. Without a candidate there is no item to prune. -/
structure LeavingSoonPrune where
  error : List ReclaimCandidate → Option String := fun _ => none
  error_nil : error [] = none := by rfl

/-- The outcomes of the calls for one item. -/
structure ItemOutcomes where
  prune : LeavingSoonPrune := {}
  handlers : HandlerOutcomes := {}
  move : MoveOutcomes := {}
  /-- Another exception, and the tables that the call leaves. -/
  raised : Option (String × Tables) := none

section

variable (env : Environment) (outcomes : ItemOutcomes) (db : Tables) (candidateIds : List Nat)
  (approvedBy : String)

/-- The frame of `delete_specific_candidates` and `move_specific_candidates`, which differ in what
they call and in the text of their error. -/
def guardedByPrune (blocked : String) (impl : Tables → List Nat → Tables × Nat × Nat) :
    Tables × Nat × Nat :=
  let unique := candidateIds.eraseDups
  if unique.isEmpty then (db, 0, 0)
  else
    match outcomes.prune.error (db.candidates.filter (·.id ∈ unique)) with
    | some e =>
      (db.markCandidateDeleteFailures env.now unique
        (blocked ++ " blocked by Leaving Soon collection cleanup: " ++ e), 0, unique.length)
    | none => impl db unique

def deleteSpecificCandidates : Tables × Nat × Nat :=
  guardedByPrune env outcomes db candidateIds "Deletion" fun db ids =>
    deleteSpecificCandidatesImpl env outcomes.handlers db ids approvedBy

def moveSpecificCandidates : Tables × Nat × Nat :=
  guardedByPrune env outcomes db candidateIds "Move" fun db ids =>
    moveSpecificCandidatesImpl env outcomes.move db ids approvedBy

def operate : CandidateFileOpOperation → Tables × Nat × Nat
  | .delete => deleteSpecificCandidates env outcomes db candidateIds approvedBy
  | .move => moveSpecificCandidates env outcomes db candidateIds approvedBy

end

/-! ## The job -/

/-- The payload of a job. It is a text of the database, which has less than `2 ^ 31` bytes. -/
structure CandidateFileOpJobPayload where
  operation : CandidateFileOpOperation
  candidateIds : List Nat
  requestedByUsername : String := ""
  deleteRequestId : Option Nat := none
  /-- The candidate ids and display labels of `item_details`. -/
  itemDetails : List (Nat × String) := []
  fits : candidateIds.length < 2 ^ 31

structure CandidateFileOpJobProgress where
  totalItems : Nat
  completedItems : Nat := 0
  failedItems : Nat := 0
  currentItemLabel : Option String := none
  percent : Int := 0
  deriving DecidableEq, Repr

structure CandidateFileOpJobResult where
  operation : CandidateFileOpOperation
  processed : Nat
  succeeded : Nat
  failed : Nat
  deriving DecidableEq, Repr

/-- `int((completed / total_items) * 100)`, within 0 and 100. -/
def percentOf (completed total : Nat) : Int :=
  let percent := if total = 0 then 100 else ⌊Doubles.round
    (Doubles.round ((completed : ℚ) / total) * 100)⌋
  min 100 (max 0 percent)

/-- What the job has done about one item, with the tables before and behind it. -/
structure ItemResult where
  candidateId : Nat
  succeeded : Nat
  failed : Nat
  before : Tables
  after : Tables

/-- The tables and counters of a running job, with a record of what it has done. -/
structure JobState where
  db : Tables
  succeeded : Nat := 0
  failed : Nat := 0
  completedItems : Nat := 0
  progress : List CandidateFileOpJobProgress := []
  results : List ItemResult := []
  /-- The request whose `executed_at` the job has set. -/
  executed : Option Nat := none

section

variable (env : Environment) (outcomes : Nat → ItemOutcomes) (payload : CandidateFileOpJobPayload)

/-- `_persist_progress`. -/
def persistProgress (currentItemLabel : Option String) (s : JobState) : JobState :=
  { s with
    progress := s.progress ++
      [{ totalItems := payload.candidateIds.length
         completedItems := s.completedItems
         failedItems := s.failed
         currentItemLabel
         percent := percentOf s.completedItems payload.candidateIds.length }] }

def itemLabel (index candidateId : Nat) : String :=
  ((payload.itemDetails.reverse.find? (·.1 = candidateId)).map Prod.snd).getD
    ("Item " ++ toString (index + 1) ++ " of " ++ toString payload.candidateIds.length)

/-- The counts of an item: a candidate without any count is taken for one that is gone. -/
def countItem (candidateId : Nat) (s : JobState) (called : Tables × Nat × Nat) : JobState :=
  let succeeded := if called.2.1 = 0 ∧ called.2.2 = 0 then 1 else called.2.1
  { s with
    db := called.1
    succeeded := s.succeeded + succeeded
    failed := s.failed + called.2.2
    completedItems := s.completedItems + 1
    results := s.results ++ [⟨candidateId, succeeded, called.2.2, s.db, called.1⟩] }

/-- The iteration of one item. -/
def runItem (index candidateId : Nat) (s : JobState) : Except (String × JobState) JobState :=
  let label := some (itemLabel payload index candidateId)
  let s := persistProgress payload label s
  match (outcomes index).raised with
  | some (e, after) => .error (e, { s with db := after })
  | none =>
    let called := operate env
      (outcomes index) s.db [candidateId] payload.requestedByUsername payload.operation
    .ok (persistProgress payload label (countItem candidateId s called))

def runItems : Nat → List Nat → JobState → Except (String × JobState) JobState
  | _, [], s => .ok s
  | index, candidateId :: rest, s => do
    let s ← runItem env outcomes payload index candidateId s
    runItems (index + 1) rest s

/-- The first text that is neither `None` nor empty. -/
def firstText (texts : List (Option String)) : Option String := texts.findSome? truthyText

/-- `_finalize_delete_request_job`. -/
def finalizeDeleteRequestJob (now deleteRequestId : Nat) (candidateIds : List Nat)
    (succeeded failed : Nat)
    (fallbackError : Option String) (db : Tables) : Tables :=
  match db.deleteRequests.find? (·.id = deleteRequestId) with
  | none => db
  | some _ =>
    let candidateAfter := candidateIds.head?.bind fun id => db.candidates.find? (·.id = id)
    let written (f : DeleteRequest → DeleteRequest) :=
      db.deleteRequests.map fun r => if r.id = deleteRequestId then f r else r
    if succeeded > 0 ∧ failed = 0 then
      { db with deleteRequests := written fun r =>
        { r with executedAt := some now, executionError := none } }
    else
      let error := (firstText [candidateAfter.bind (·.lastDeleteError),
        fallbackError]).getD "Deletion failed"
      { db with
        deleteRequests := written fun r => { r with executionError := some error }
        candidates := db.candidates.filter fun c => ∀ found ∈ candidateAfter, c.id ≠ found.id }

/-- The condition under which `_finalize_delete_request_job` sets `executed_at`. -/
def SetsExecutedAt (db : Tables) (deleteRequestId succeeded failed : Nat) : Prop :=
  (db.deleteRequests.find? (·.id = deleteRequestId)).isSome = true ∧ succeeded > 0 ∧ failed = 0

instance (db : Tables) (deleteRequestId succeeded failed : Nat) :
    Decidable (SetsExecutedAt db deleteRequestId succeeded failed) :=
      inferInstanceAs (Decidable (_ ∧ _))

/-- The end of a job: the request that it was queued for is finalized. -/
def finalizeJob (failed : Nat) (fallbackError : Option String) (s : JobState) : JobState :=
  match payload.deleteRequestId with
  | none => s
  | some requestId =>
    { s with
      db := finalizeDeleteRequestJob env.now requestId payload.candidateIds s.succeeded failed fallbackError s.db
      executed := if SetsExecutedAt s.db requestId s.succeeded failed then some requestId else none }

/-- `_run_candidate_file_op_job_unlocked`: its result or exception, and the state that it leaves. -/
def runCandidateFileOpJob (db : Tables) : Except String CandidateFileOpJobResult × JobState :=
  match runItems env outcomes payload 0 payload.candidateIds { db } with
  | .error (e, s) =>
    let failed := max s.failed (payload.candidateIds.length - s.completedItems)
    (.error e, finalizeJob env payload failed (some e) (persistProgress payload none s))
  | .ok s =>
    (.ok ⟨payload.operation, payload.candidateIds.length, s.succeeded, s.failed⟩,
      finalizeJob env payload s.failed none (persistProgress payload none s))

end

end MediaMasterr.Jobs.CandidateFileOps
