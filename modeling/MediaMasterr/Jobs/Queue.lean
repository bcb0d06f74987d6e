import Mathlib.Data.List.Sort
import MediaMasterr.Foundations.Dict
import MediaMasterr.Foundations.Transactions
import MediaMasterr.Foundations.Writes

/-! # The job queue

The functions of `jobs/queue.py`, one statement of the database at a time, and the
points at which `worker_loop` calls them. A payload is a dictionary of JSON
values, of which the queue knows nothing more. -/

namespace MediaMasterr.Jobs

open MediaMasterr.Foundations MediaMasterr.Foundations.Transactions

variable {ν : Type*}

inductive BackgroundJobType where
  | serviceToggle
  | taskRun
  | candidateFileOp
  deriving DecidableEq, Repr

inductive BackgroundJobStatus where
  | pending
  | running
  | completed
  | failed
  | canceled
  deriving DecidableEq, Repr

abbrev Payload (ν : Type*) := Dict String ν

structure BackgroundJob (ν : Type*) where
  id : Nat
  jobType : BackgroundJobType
  scheduledAt : Nat
  status : BackgroundJobStatus := .pending
  payload : Payload ν
  dedupeKey : Option String := none
  attempts : Nat := 0
  maxAttempts : Int := 3
  claimedBy : Option String := none
  claimedAt : Option Nat := none
  startedAt : Option Nat := none
  completedAt : Option Nat := none
  errorMessage : Option String := none

def BackgroundJob.IsActive (job : BackgroundJob ν) : Prop :=
  job.status = .pending ∨ job.status = .running

instance (job : BackgroundJob ν) : Decidable job.IsActive := inferInstanceAs (Decidable (_ ∨ _))

/-! ## The statements -/

/-- The row that an update by primary key changes. -/
def updateJob (id : Nat) (change : BackgroundJob ν → BackgroundJob ν)
    (jobs : List (BackgroundJob ν)) :
    List (BackgroundJob ν) :=
  jobs.map fun job => if job.id = id then change job else job

/-- The update of the pending jobs of a key. -/
def cancelPending (key error : String) (now : Nat) (jobs : List (BackgroundJob ν)) :
    List (BackgroundJob ν) :=
  jobs.map fun job =>
    if job.dedupeKey = some key ∧ job.status = .pending then
      { job with status := .canceled, completedAt := some now, errorMessage := some error }
    else job

/-- The update of `reset_stale_jobs`. -/
def failRunning (now : Nat) (jobs : List (BackgroundJob ν)) : List (BackgroundJob ν) :=
  jobs.map fun job =>
    if job.status = .running then
      { job with
        status := .failed
        completedAt := some now
        errorMessage := some "Server restarted while job was running" }
    else job

/-- The query of `enqueue_background_job` for an active job of the key: the one
scheduled last, and of those the newest. -/
def activeJob? (key : String) (jobs : List (BackgroundJob ν)) : Option (BackgroundJob ν) :=
  ((jobs.filter fun job => job.dedupeKey = some key ∧ job.IsActive).insertionSort fun a b =>
    b.scheduledAt < a.scheduledAt ∨ (a.scheduledAt = b.scheduledAt ∧ b.id ≤ a.id)).head?

/-- The query of `claim_next_background_job`: the job scheduled first, and of those the
oldest. -/
def nextJobId? (allowed : Option (List BackgroundJobType)) (now : Nat)
    (jobs : List (BackgroundJob ν)) :
    Option Nat :=
  (((jobs.filter fun job => job.status = .pending ∧ job.scheduledAt ≤ now ∧
      ∀ types ∈ allowed, job.jobType ∈ types).insertionSort fun a b =>
    a.scheduledAt < b.scheduledAt ∨ (a.scheduledAt = b.scheduledAt ∧ a.id ≤ b.id)).head?).map
      BackgroundJob.id

/-- The guarded update of `claim_next_background_job`. -/
def claimJob (workerId : String) (now id : Nat) (jobs : List (BackgroundJob ν)) :
    List (BackgroundJob ν) :=
  updateJob id (fun job =>
    if job.status = .pending then
      { job with
        status := .running
        claimedBy := some workerId
        claimedAt := some now
        startedAt := some now
        attempts := job.attempts + 1 }
    else job) jobs

/-- What the update of `claimJob` returns: the id, when the job is still pending. -/
def IsClaimable (id : Nat) (jobs : List (BackgroundJob ν)) : Prop :=
  ∃ job ∈ jobs, job.id = id ∧ job.status = .pending

instance (id : Nat) (jobs : List (BackgroundJob ν)) : Decidable (IsClaimable id jobs) :=
  inferInstanceAs (Decidable (∃ job ∈ jobs, _))

def findJob (id : Nat) (jobs : List (BackgroundJob ν)) : Option (BackgroundJob ν) :=
  jobs.find? (·.id = id)

/-- `payload_result.scalar_one_or_none() or {}`. -/
def payloadOf (id : Nat) (jobs : List (BackgroundJob ν)) : Payload ν :=
  ((findJob id jobs).map BackgroundJob.payload).getD ∅

/-- `{**payload, **updates}`. -/
def mergePayload (payload updates : Payload ν) : Payload ν :=
  updates.entries.foldl (fun payload e => payload.set e.1 e.2) payload

def withResult (payload : Payload ν) (resultPayload : Option ν) : Payload ν :=
  resultPayload.elim payload (payload.set "result")

def completeJob (id : Nat) (payload : Payload ν) (now : Nat) (jobs : List (BackgroundJob ν)) :
    List (BackgroundJob ν) :=
  updateJob id (fun job =>
    { job with
      status := .completed
      completedAt := some now
      errorMessage := none
      payload := payload }) jobs

def failJob (id : Nat) (error : String) (now : Nat) (jobs : List (BackgroundJob ν)) :
    List (BackgroundJob ν) :=
  updateJob id (fun job =>
    { job with status := .failed, completedAt := some now, errorMessage := some error }) jobs

def setPayload (id : Nat) (payload : Payload ν) (jobs : List (BackgroundJob ν)) :
    List (BackgroundJob ν) :=
  updateJob id (fun job => { job with payload := payload }) jobs

/-! ## Calls -/

/-- The arguments of `enqueue_background_job`, with `run_at` for the time of the job. -/
structure EnqueueRequest (ν : Type*) where
  jobType : BackgroundJobType
  payload : Payload ν
  runAt : Nat
  dedupeKey : Option String := none
  replacePending : Bool := false
  skipIfActive : Bool := false
  maxAttempts : Int := 3

namespace EnqueueRequest

variable (request : EnqueueRequest ν)

/-- A key that passes the truth test. -/
def key? : Option String := request.dedupeKey.filter (· ≠ "")

/-- The key whose pending jobs the call cancels. -/
def replacedKey? : Option String := if request.replacePending then request.key? else none

/-- The key that the call checks for an active job. -/
def checkedKey? : Option String := if request.skipIfActive then request.key? else none

def replace (key : String) (jobs : List (BackgroundJob ν)) : List (BackgroundJob ν) :=
  cancelPending key "Replaced by newer queued job" request.runAt jobs

/-- What the transaction has written before the insert. -/
def replaced : Option (List (BackgroundJob ν) → List (BackgroundJob ν)) :=
  request.replacedKey?.map request.replace

def job (id : Nat) : BackgroundJob ν where
  id := id
  jobType := request.jobType
  payload := request.payload
  dedupeKey := request.dedupeKey
  scheduledAt := request.runAt
  maxAttempts := request.maxAttempts

def insert (jobs : List (BackgroundJob ν)) : List (BackgroundJob ν) :=
  jobs ++ [request.job (Write.nextId BackgroundJob.id jobs)]

end EnqueueRequest

/-- Where a session stands: the next statement of its call. -/
inductive Point (ν : Type*) where
  | idle
  -- `enqueue_background_job`
  | replacePending (request : EnqueueRequest ν)
  | checkActive (request : EnqueueRequest ν)
  | skipEnqueue (request : EnqueueRequest ν)
  | insertJob (request : EnqueueRequest ν)
  | commitInsert (request : EnqueueRequest ν) (id : Nat)
  | refreshJob (id : Nat)
  -- `reset_stale_jobs`
  | resetStale (now : Nat)
  | commitReset (now : Nat)
  -- `cancel_pending_background_jobs_by_dedupe_key`
  | cancelPending (key reason : String) (now : Nat)
  | commitCancel (key reason : String) (now : Nat)
  -- `claim_next_background_job`
  | selectNext (workerId : String) (allowed : Option (List BackgroundJobType)) (now : Nat)
  | claimJob (workerId : String) (now id : Nat)
  | abandonClaim (workerId : String) (now id : Nat)
  | commitClaim (workerId : String) (now id : Nat)
  | readClaimed (id : Nat)
  /-- `run_background_job`. -/
  | runJob (job : BackgroundJob ν)
  -- `update_background_job_payload`, in the job
  | readUpdated (job : BackgroundJob ν) (updates : Payload ν)
  | setPayload (job : BackgroundJob ν) (payload : Payload ν)
  | commitUpdated (job : BackgroundJob ν) (payload : Payload ν)
  -- `complete_background_job`
  | readCompleted (job : BackgroundJob ν) (resultPayload : Option ν) (now : Nat)
  | completeJob (job : BackgroundJob ν) (payload : Payload ν) (now : Nat)
  | commitCompleted (job : BackgroundJob ν) (payload : Payload ν) (now : Nat)
  -- `fail_background_job`
  | failJob (job : BackgroundJob ν) (error : String) (now : Nat)
  | commitFailed (job : BackgroundJob ν) (error : String) (now : Nat)

/-- What happens to a session outside the database. -/
inductive Signal (ν : Type*) where
  | enqueue (request : EnqueueRequest ν)
  | cancelPending (key reason : String) (now : Nat)
  | resetStale (now : Nat)
  | claimNext (workerId : String) (allowed : Option (List BackgroundJobType)) (now : Nat)
  | updatePayload (updates : Payload ν)
  | complete (resultPayload : Option ν) (now : Nat)
  /-- An `Exception`. -/
  | raise (error : String) (now : Nat)
  /-- `asyncio.CancelledError`. -/
  | cancel

def EnqueueRequest.afterReplace (request : EnqueueRequest ν) : Point ν :=
  if request.checkedKey?.isSome then .checkActive request else .insertJob request

def EnqueueRequest.first (request : EnqueueRequest ν) : Point ν :=
  if request.replacedKey?.isSome then .replacePending request else request.afterReplace

/-- The job that a worker runs at a point. -/
def Point.job? : Point ν → Option (BackgroundJob ν)
  | .runJob job | .readUpdated job _ | .setPayload job _ | .commitUpdated job _ | .readCompleted job _ _
  | .completeJob job _ _ | .commitCompleted job _ _ => some job
  | _ => none

def statement : Point ν → Option (Statement (List (BackgroundJob ν)) (Point ν))
  | .idle => none
  | .replacePending request =>
    request.replacedKey?.map fun key => .modify (request.replace key) fun _ => request.afterReplace
  | .checkActive request =>
    request.checkedKey?.map fun key =>
      .select fun jobs =>
        if (activeJob? key jobs).isSome then .skipEnqueue request else .insertJob request
  | .skipEnqueue _ => some (.rollback .idle)
  | .insertJob request =>
    some (.modify request.insert fun jobs =>
      .commitInsert request (Write.nextId BackgroundJob.id jobs))
  | .commitInsert _ id => some (.commit (.refreshJob id))
  | .refreshJob _ => some (.select fun _ => .idle)
  | .resetStale now => some (.modify (failRunning now) fun _ => .commitReset now)
  | .commitReset _ => some (.commit .idle)
  | .cancelPending key reason now =>
    some (.modify (Jobs.cancelPending key reason now) fun _ => .commitCancel key reason now)
  | .commitCancel _ _ _ => some (.commit .idle)
  | .selectNext workerId allowed now =>
    some (.select fun jobs => (nextJobId? allowed now jobs).elim .idle (.claimJob workerId now))
  | .claimJob workerId now id =>
    some (.modify (Jobs.claimJob workerId now id) fun jobs =>
      if IsClaimable id jobs then .commitClaim workerId now id else .abandonClaim workerId now id)
  | .abandonClaim _ _ _ => some (.rollback .idle)
  | .commitClaim _ _ id => some (.commit (.readClaimed id))
  | .readClaimed id => some (.select fun jobs => (findJob id jobs).elim .idle .runJob)
  | .runJob _ => none
  | .readUpdated job updates =>
    some (.select fun jobs => .setPayload job (mergePayload (payloadOf job.id jobs) updates))
  | .setPayload job payload =>
    some (.modify (Jobs.setPayload job.id payload) fun _ => .commitUpdated job payload)
  | .commitUpdated job _ => some (.commit (.runJob job))
  | .readCompleted job resultPayload now =>
    some (.select fun jobs =>
      .completeJob job (withResult (payloadOf job.id jobs) resultPayload) now)
  | .completeJob job payload now =>
    some (.modify (Jobs.completeJob job.id payload now) fun _ => .commitCompleted job payload now)
  | .commitCompleted _ _ _ => some (.commit .idle)
  | .failJob job error now =>
    some (.modify (Jobs.failJob job.id error now) fun _ => .commitFailed job error now)
  | .commitFailed _ _ _ => some (.commit .idle)

def leave : Point ν → Signal ν → Option (Point ν)
  | .idle, .enqueue request => some request.first
  | .idle, .cancelPending key reason now => some (.cancelPending key reason now)
  | .idle, .resetStale now => some (.resetStale now)
  -- a worker with no allowed types asks the database nothing
  | .idle, .claimNext workerId allowed now =>
    some (if allowed = some [] then .idle else .selectNext workerId allowed now)
  | .runJob job, .updatePayload updates => some (.readUpdated job updates)
  | .runJob job, .complete resultPayload now => some (.readCompleted job resultPayload now)
  -- an exception in the job, or on the way to completing it, fails the job
  | p, .raise error now => some ((p.job?).elim .idle (.failJob · error now))
  | _, .cancel => some .idle
  | _, _ => none

def queueProgram : Program (List (BackgroundJob ν)) (Signal ν) (Point ν) where
  statement := statement
  leave := leave

/-! ## Accounts -/

/-- What the transaction of a call has written at a point. -/
def written : Point ν → Option (List (BackgroundJob ν) → List (BackgroundJob ν))
  | .checkActive request | .skipEnqueue request | .insertJob request => request.replaced
  | .commitInsert request _ => some fun jobs => request.insert (request.replaced.getD id jobs)
  | .commitReset now => some (failRunning now)
  | .commitCancel key reason now => some (Jobs.cancelPending key reason now)
  | .abandonClaim workerId now id | .commitClaim workerId now id =>
    some (Jobs.claimJob workerId now id)
  | .commitUpdated job payload => some (Jobs.setPayload job.id payload)
  | .commitCompleted job payload now => some (Jobs.completeJob job.id payload now)
  | .commitFailed job error now => some (Jobs.failJob job.id error now)
  | _ => none

theorem written_afterReplace (request : EnqueueRequest ν) :
    written request.afterReplace = request.replaced := by
  unfold EnqueueRequest.afterReplace
  split_ifs <;> rfl

theorem written_first (request : EnqueueRequest ν) : written request.first = none := by
  unfold EnqueueRequest.first
  split_ifs with h
  · rfl
  · rw [written_afterReplace, EnqueueRequest.replaced, Option.map_eq_none_iff]
    exact Option.not_isSome_iff_eq_none.mp h

/-- Every point knows what its transaction has written. -/
theorem accounts : Accounts (queueProgram (ν := ν)) written where
  select {p next} h jobs := by
    cases p <;> simp only [queueProgram, statement, Option.some.injEq, reduceCtorEq,
      Statement.select.injEq, Option.map_eq_some_iff, exists_const, and_false] at h
    case checkActive request =>
      obtain ⟨key, -, rfl⟩ := h
      dsimp only
      split_ifs <;> rfl
    case selectNext workerId allowed now =>
      subst h
      dsimp only
      cases nextJobId? allowed now jobs <;> rfl
    case readClaimed id =>
      subst h
      dsimp only
      cases findJob id jobs <;> rfl
    all_goals subst h; rfl
  modify {p change next} h jobs := by
    cases p <;> simp only [queueProgram, statement, Option.some.injEq, reduceCtorEq,
      Statement.modify.injEq, Option.map_eq_some_iff, exists_const, and_false] at h
    case replacePending request =>
      obtain ⟨key, hkey, rfl, rfl⟩ := h
      have hreplaced : request.replaced = some (request.replace key) := by
        rw [EnqueueRequest.replaced, hkey, Option.map_some]
      dsimp only [seen]
      rw [written_afterReplace, hreplaced]
      exact ⟨Option.some_ne_none _, rfl⟩
    case claimJob workerId now id =>
      obtain ⟨rfl, rfl⟩ := h
      unfold seen
      dsimp only
      split_ifs <;> exact ⟨Option.some_ne_none _, rfl⟩
    all_goals
      obtain ⟨rfl, rfl⟩ := h
      exact ⟨Option.some_ne_none _, rfl⟩
  commit {p next} h := by
    cases p <;> simp only [queueProgram, statement, Option.some.injEq, reduceCtorEq,
      Statement.commit.injEq, Option.map_eq_some_iff, exists_const, and_false] at h
    all_goals subst h; rfl
  rollback {p next} h := by
    cases p <;> simp only [queueProgram, statement, Option.some.injEq, reduceCtorEq,
      Statement.rollback.injEq, Option.map_eq_some_iff, exists_const, and_false] at h
    all_goals subst h; rfl
  leave {p signal next} h := by
    change leave p signal = some next at h
    revert h
    fun_cases leave p signal <;> intro h
    all_goals cases h
    · exact written_first _
    · rfl
    · rfl
    · split_ifs <;> rfl
    · rfl
    · rfl
    · cases p.job? <;> rfl
    · rfl

end MediaMasterr.Jobs
