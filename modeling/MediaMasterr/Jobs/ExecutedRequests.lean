import MediaMasterr.Candidates.Reconcile
import MediaMasterr.Deletion.GoneMedia
import MediaMasterr.Foundations.Runs
import MediaMasterr.Jobs.CandidateFileOps
import MediaMasterr.Requests.DeleteRequests

/-! # Executed delete requests

A delete request is approved, its candidate waits for a job, and the job marks the
request as executed. Meanwhile scans and other jobs change the candidates, and a
job that does not find its candidate takes it for deleted. -/

namespace MediaMasterr.Jobs.CandidateFileOps

open MediaMasterr.Foundations MediaMasterr.Database MediaMasterr.Deletion MediaMasterr.Requests
open MediaMasterr.Candidates

/-! ## The system -/

/-- The store, with what the requests were approved for and which of them were executed. -/
structure Executions where
  store : Store
  /-- The media of a request when it was approved. -/
  approved : Nat → Option MediaTarget
  /-- The approved media of the requests whose `executed_at` was set, with the tables then. -/
  executed : List (MediaTarget × Tables)

inductive ExecutionEvent where
  | approve (requestId : Nat) (review : Review)
  | scan (now : Nat) (records : ScanRecords)
  /-- Any other transaction: a synchronisation, another deletion, the creation of a request. -/
  | operation (run : Tables → Tables)
  | queue (operation : CandidateFileOpOperation) (candidateIds : List Nat)
  | runJob (env : Environment) (outcomes : Nat → ItemOutcomes) (payload : CandidateFileOpJobPayload)

/-- The payload is that of the job. -/
def IsPayloadOf (payload : CandidateFileOpJobPayload) (job : CandidateFileOpJob) : Prop :=
  payload.operation = job.operation ∧ payload.candidateIds = job.candidateIds ∧
    payload.deleteRequestId = job.deleteRequestId

instance (payload : CandidateFileOpJobPayload) : DecidablePred (IsPayloadOf payload) :=
  fun _ => inferInstanceAs (Decidable (_ ∧ _))

namespace Executions

variable (s : Executions)

def start (tables : Tables) : Executions where
  store := { tables }
  approved _ := none
  executed := []

/-- A transaction that repeats a primary key fails. -/
def commit (after : Store) : Option Executions :=
  if (after.tables.candidates.map ReclaimCandidate.id).Nodup then some
    { s with store := after } else none

/-- `executed_at` is set for what the request was approved for. -/
def execute (state : JobState) : Executions :=
  match state.executed.bind s.approved with
  | some target => { s with executed := s.executed ++ [(target, state.db)] }
  | none => s

def step (s : Executions) : ExecutionEvent → Option Executions
  | .approve requestId review =>
    let call := (approveDeleteRequest requestId review).handle s.store
    match call.1 with
    | .error _ => s.commit call.2
    | .ok _ =>
      let target := (s.store.tables.deleteRequests.find?
        (·.id = requestId)).map DeleteRequest.target
      commit { s with approved := Function.update s.approved requestId target } call.2
  | .scan now records =>
    s.commit { s.store with tables := scanCandidates now records s.store.tables }
  | .operation run => s.commit { s.store with tables := run s.store.tables }
  | .queue operation candidateIds =>
    s.commit { s.store with
      jobs := s.store.jobs ++
        [{ id := Write.nextId CandidateFileOpJob.id s.store.jobs, operation, candidateIds }] }
  | .runJob env outcomes payload =>
    if s.store.jobs.any (IsPayloadOf payload ·) then
      let state := (runCandidateFileOpJob env outcomes payload s.store.tables).2
      (s.execute state).commit { s.store with tables := state.db }
    else none

/-- The candidate of the job is there, with the media that its request was approved for, unless
those are gone. -/
def Ready (s : Executions) : ExecutionEvent → Prop
  | .runJob _ _ payload => ∀ requestId ∈ payload.deleteRequestId, ∀ target ∈ s.approved requestId,
      s.store.tables.MediaGone target ∨
        ∃ c ∈ s.store.tables.candidates, payload.candidateIds.head? = some c.id ∧ c.target = target
  | _ => True

end Executions

/-- The media of every request that was marked as executed were gone at that time. -/
def ExecutedAreGone (s : Executions) : Prop := ∀ e ∈ s.executed, e.2.MediaGone e.1

/-! ## A job -/

section Job

variable {env : Environment} {outcomes : ItemOutcomes} {db : Tables} {id : Nat}
    {approvedBy : String}

/-- The media of a target are gone, or this candidate stands for them. -/
def StandsFor (db : Tables) (id : Nat) (target : MediaTarget) : Prop :=
  db.MediaGone target ∨ ∃ c ∈ db.candidates, c.id = id ∧ c.target = target

/-- A deletion without a failure leaves nothing of the media that its candidate stands for. -/
theorem mediaGone_of_impl {outcomes : HandlerOutcomes} {target : MediaTarget}
    (hids : (db.candidates.map ReclaimCandidate.id).Nodup) (htarget : StandsFor db id target)
    (hfailed : (deleteSpecificCandidatesImpl env outcomes db [id] approvedBy).2.2 = 0) :
    (deleteSpecificCandidatesImpl env outcomes db [id] approvedBy).1.MediaGone target := by
  obtain hgone | ⟨c, hc, hid, rfl⟩ := htarget
  · exact hgone.shrinks (deleteSpecificCandidatesImpl_shrinks ..)
  · obtain ⟨-, -, hdeleted, hkept⟩ :=
      deleteSpecificCandidatesImpl_counts env outcomes id approvedBy hids
    refine mediaGone_of_deleted hids ?_ hc hid
    -- the candidate was there, so it counts as deleted or as failed
    by_cases hstill :
        (deleteSpecificCandidatesImpl env outcomes db [id] approvedBy).1.HasCandidate id
    · have hone := hkept.mpr ⟨⟨c, hc, hid⟩, hstill⟩
      omega
    · have hone := hdeleted.mpr ⟨⟨c, hc, hid⟩, hstill⟩
      omega

theorem mediaGone_of_operate {target : MediaTarget}
    (hids : (db.candidates.map ReclaimCandidate.id).Nodup) (htarget : StandsFor db id target)
    (hfailed : (operate env outcomes db [id] approvedBy .delete).2.2 = 0) :
    (operate env outcomes db [id] approvedBy .delete).1.MediaGone target := by
  have hsingle : [id].eraseDups = [id] := rfl
  simp only [operate, deleteSpecificCandidates, guardedByPrune, hsingle, List.isEmpty_cons,
    Bool.false_eq_true, if_false] at hfailed ⊢
  cases hprune : outcomes.prune.error (db.candidates.filter (·.id ∈ [id])) with
  | some e =>
    rw [hprune] at hfailed
    exact absurd hfailed Nat.one_ne_zero
  | none =>
    rw [hprune] at hfailed
    exact mediaGone_of_impl hids htarget hfailed

end Job

section Run

variable {env : Environment} {outcomes : Nat → ItemOutcomes} {payload : CandidateFileOpJobPayload}
variable {db : Tables} {id requestId : Nat}

/-- Finalizing a request changes no media. -/
theorem shrinks_finalizeDeleteRequestJob {now succeeded failed : Nat} {candidateIds : List Nat}
    {error : Option String} :
    db.Shrinks (finalizeDeleteRequestJob now requestId candidateIds succeeded failed error db) := by
  unfold finalizeDeleteRequestJob
  cases db.deleteRequests.find? (·.id = requestId) with
  | none => exact .refl db
  | some _ =>
    dsimp only
    split_ifs
    · exact Tables.shrinks_of_rows (fun c hc => ⟨c, hc, rfl, rfl⟩) rfl rfl rfl rfl rfl
    · exact Tables.shrinks_of_rows (fun c hc => ⟨c, List.mem_of_mem_filter hc, rfl, rfl⟩)
        rfl rfl rfl rfl rfl

theorem shrinks_finalizeJob {failed : Nat} {error : Option String} {s : JobState} :
    s.db.Shrinks (finalizeJob env payload failed error s).db := by
  unfold finalizeJob
  cases payload.deleteRequestId with
  | none => exact .refl s.db
  | some requestId => exact shrinks_finalizeDeleteRequestJob

/-- A job executes the request that it was queued for, and only without a failure. -/
theorem of_finalizeJob_executed {failed : Nat} {error : Option String} {s : JobState}
    (hs : s.executed = none)
    (h : (finalizeJob env payload failed error s).executed = some requestId) :
    payload.deleteRequestId = some requestId ∧ failed = 0 := by
  unfold finalizeJob at h
  cases hrequest : payload.deleteRequestId with
  | none => simp [hrequest, hs] at h
  | some id =>
    simp only [hrequest] at h
    split_ifs at h with hsets
    exact ⟨h, hsets.2.2⟩

theorem executedAt_finalizeDeleteRequestJob {now succeeded failed : Nat} {candidateIds : List Nat}
    {error : Option String} {r : DeleteRequest}
    (hr : r ∈ (finalizeDeleteRequestJob now requestId candidateIds succeeded failed error db).deleteRequests) :
    ∃ r₀ ∈ db.deleteRequests, r₀.id = r.id ∧ r.executedAt =
      if SetsExecutedAt db requestId succeeded failed ∧
        requestId = r.id then some now else r₀.executedAt := by
  unfold finalizeDeleteRequestJob at hr
  cases hfind : db.deleteRequests.find? (·.id = requestId) with
  | none =>
    rw [hfind] at hr
    exact ⟨r, hr, rfl, by simp [SetsExecutedAt, hfind]⟩
  | some found =>
    rw [hfind] at hr
    dsimp only at hr
    split_ifs at hr with hsuccess
    · obtain ⟨r₀, hr₀, rfl⟩ := List.mem_map.mp hr
      refine ⟨r₀, hr₀, by split_ifs <;> rfl, ?_⟩
      by_cases hid : r₀.id = requestId
      · simp [SetsExecutedAt, hfind, hid, hsuccess]
      · simp [hid, Ne.symm hid]
    · obtain ⟨r₀, hr₀, rfl⟩ := List.mem_map.mp hr
      refine ⟨r₀, hr₀, by split_ifs <;> rfl, ?_⟩
      have hfailure : ¬SetsExecutedAt db requestId succeeded failed := fun h => hsuccess h.2
      simp only [hfailure, false_and, if_false]
      split_ifs <;> rfl

/-- `executed_at` changes for the executed request only. -/
theorem executedAt_finalizeJob {failed : Nat} {error : Option String} {s : JobState}
    (hs : s.executed = none)
    {r : DeleteRequest} (hr : r ∈ (finalizeJob env payload failed error s).db.deleteRequests) :
    ∃ r₀ ∈ s.db.deleteRequests, r₀.id = r.id ∧ r.executedAt =
      if (finalizeJob env payload failed error s).executed =
        some r.id then some env.now else r₀.executedAt := by
  unfold finalizeJob at hr ⊢
  cases hrequest : payload.deleteRequestId with
  | none =>
    rw [hrequest] at hr
    exact ⟨r, hr, rfl, by simp [hs]⟩
  | some requestId =>
    rw [hrequest] at hr
    obtain ⟨r₀, hr₀, hid, hexecuted⟩ := executedAt_finalizeDeleteRequestJob hr
    refine ⟨r₀, hr₀, hid, ?_⟩
    dsimp only
    rw [hexecuted]
    by_cases hsets : SetsExecutedAt s.db requestId s.succeeded failed <;> simp [hsets]

/-- No item executes a request. -/
theorem runItems_executed {index : Nat} {ids : List Nat} {s : JobState} :
    (∀ s', runItems env outcomes payload index ids s = .ok s' → s'.executed = s.executed) ∧
      ∀ e s', runItems env outcomes payload index ids s = .error (e, s') →
        s'.executed = s.executed := by
  induction ids generalizing index s with
  | nil => exact ⟨fun s' h => by rw [Except.ok.inj h], fun e s' h => by cases h⟩
  | cons id ids ih =>
    rw [runItems]
    cases hraised : (outcomes index).raised with
    | some raised =>
      simp only [runItem, hraised, bind, Except.bind]
      refine ⟨fun s' h => absurd h (by simp), fun e s' h => ?_⟩
      obtain ⟨-, rfl⟩ := Prod.mk.inj (Except.error.inj h)
      rfl
    | none =>
      simp only [runItem, hraised, bind, Except.bind]
      exact ih

theorem deleteRequestId_of_executed
    (hexecuted : (runCandidateFileOpJob env outcomes payload db).2.executed = some requestId) :
    payload.deleteRequestId = some requestId := by
  unfold runCandidateFileOpJob at hexecuted
  cases hitems : runItems env outcomes payload 0 payload.candidateIds { db } with
  | error raised =>
    have hnone : (persistProgress payload none raised.2).executed = none :=
      runItems_executed.2 raised.1 raised.2 hitems
    rw [hitems] at hexecuted
    exact (of_finalizeJob_executed hnone hexecuted).1
  | ok s =>
    have hnone : (persistProgress payload none s).executed = none := runItems_executed.1 s hitems
    rw [hitems] at hexecuted
    exact (of_finalizeJob_executed hnone hexecuted).1

/-- A job that marks its request as executed leaves nothing of what its candidate stands for. -/
theorem mediaGone_of_executed {target : MediaTarget}
    (hids : (db.candidates.map ReclaimCandidate.id).Nodup)
    (hoperation : payload.operation = .delete) (hcandidate : payload.candidateIds = [id])
    (htarget : StandsFor db id target)
    (hexecuted : (runCandidateFileOpJob env outcomes payload db).2.executed = some requestId) :
    (runCandidateFileOpJob env outcomes payload db).2.db.MediaGone target := by
  have hitems : runItems env outcomes payload 0 payload.candidateIds { db } =
      runItem env outcomes payload 0 id { db } := by
    rw [hcandidate, runItems]
    cases runItem env outcomes payload 0 id { db } <;> rfl
  unfold runCandidateFileOpJob at hexecuted ⊢
  rw [hitems] at hexecuted ⊢
  unfold runItem at hexecuted ⊢
  cases hraised : (outcomes 0).raised with
  | some raised =>
    -- the item that raises is not completed, so it counts as failed
    simp only [hraised] at hexecuted
    have hnone := (of_finalizeJob_executed rfl hexecuted).2
    simp [persistProgress, hcandidate] at hnone
  | none =>
    simp only [hraised] at hexecuted ⊢
    have hfailed := (of_finalizeJob_executed rfl hexecuted).2
    refine Tables.MediaGone.shrinks ?_ shrinks_finalizeJob
    rw [hoperation] at hfailed ⊢
    exact mediaGone_of_operate hids htarget (by simpa [persistProgress, countItem] using hfailed)

end Run

/-! ## Steps -/

/-- The jobs that were queued for a request delete one candidate. -/
def JobsForOne (jobs : List CandidateFileOpJob) : Prop :=
  ∀ job ∈ jobs, job.deleteRequestId.isSome = true → job.operation = .delete ∧ ∃ id,
    job.candidateIds = [id]

theorem jobsForOne_approve {store : Store} (requestId : Nat) (review : Review)
    (h : JobsForOne store.jobs) :
    JobsForOne ((approveDeleteRequest requestId review).handle store).2.jobs := by
  by_cases happroved : ∃ request,
    store.tables.deleteRequests.find? (·.id = requestId) = some request ∧
      request.status = .pending ∧
      checkMedia store.tables request.mediaType request.movieId request.seriesId = .ok ()
  · obtain ⟨request, hfind, hpending, hmedia⟩ := happroved
    rw [handle_approveDeleteRequest_of hfind hpending hmedia, carryOut_approveDeletion hfind]
    intro job hjob hrequest
    rcases List.mem_append.mp hjob with hold | hnew
    · exact h job hold hrequest
    · obtain rfl := List.mem_singleton.mp hnew
      exact ⟨rfl, _, rfl⟩
  · rw [handle_approveDeleteRequest_of_not fun request hfind hpending hmedia =>
      happroved ⟨request, hfind, hpending, hmedia⟩]
    exact h

namespace Executions

variable {s s' : Executions}

structure Sound (s : Executions) : Prop where
  candidateIds : (s.store.tables.candidates.map ReclaimCandidate.id).Nodup
  jobs : JobsForOne s.store.jobs
  gone : ExecutedAreGone s

/-- A commit keeps what it says about jobs and executions. -/
theorem sound_of_commit {after : Store} (hcommit : s.commit after = some s')
    (hjobs : JobsForOne after.jobs)
    (hgone : ExecutedAreGone s) : s'.Sound := by
  unfold commit at hcommit
  split_ifs at hcommit with hids
  obtain rfl := Option.some.inj hcommit
  exact ⟨hids, hjobs, hgone⟩

theorem sound_step (event : ExecutionEvent) (h : s.Sound) (hready : s.Ready event)
    (hstep : s.step event = some s') : s'.Sound := by
  cases event with
  | approve requestId review =>
    have hjobs := jobsForOne_approve requestId review h.jobs
    simp only [step] at hstep
    split at hstep
    · exact sound_of_commit hstep hjobs h.gone
    · exact sound_of_commit hstep hjobs h.gone
  | scan now records => exact sound_of_commit hstep h.jobs h.gone
  | operation run => exact sound_of_commit hstep h.jobs h.gone
  | queue operation candidateIds =>
    refine sound_of_commit hstep (fun job hjob hrequest => ?_) h.gone
    rcases List.mem_append.mp hjob with hold | hnew
    · exact h.jobs job hold hrequest
    · obtain rfl := List.mem_singleton.mp hnew
      exact absurd hrequest Bool.false_ne_true
  | runJob env outcomes payload =>
    simp only [step] at hstep
    split_ifs at hstep with hqueued
    refine sound_of_commit hstep h.jobs ?_
    obtain ⟨job, hjob, hpayload⟩ := List.any_eq_true.mp hqueued
    obtain ⟨hoperation, hcandidates, hrequest⟩ := of_decide_eq_true hpayload
    unfold execute
    split
    · rename_i target htarget
      obtain ⟨requestId, hexecuted, hasked⟩ := Option.bind_eq_some_iff.mp htarget
      intro e he
      rcases List.mem_append.mp he with hold | hnew
      · exact h.gone e hold
      · obtain rfl := List.mem_singleton.mp hnew
        have hid := deleteRequestId_of_executed hexecuted
        obtain ⟨hdelete, id, hid'⟩ := h.jobs job hjob (by rw [← hrequest, hid]; rfl)
        have hone : payload.candidateIds = [id] := hcandidates.trans hid'
        refine mediaGone_of_executed h.candidateIds (hoperation.trans hdelete) hone ?_ hexecuted
        refine (hready requestId hid target hasked).imp_right ?_
        rintro ⟨c, hc, hhead, htarget⟩
        rw [hone] at hhead
        exact ⟨c, hc, (Option.some.inj hhead).symm, htarget⟩
    · exact h.gone

end Executions

/-! ## Runs -/

/-- When every job finds its candidate, or media that are gone, then the media of every request
that is marked as executed are gone. -/
theorem executedAreGone_run {tables : Tables} {events : List ExecutionEvent} {s : Executions}
    (hids : (tables.candidates.map ReclaimCandidate.id).Nodup)
    (hready : Runs.Meets Executions.step Executions.Ready (.start tables) events)
    (hrun : Runs.run Executions.step (.start tables) events = some s) : ExecutedAreGone s := by
  have hstart : (Executions.start tables).Sound := ⟨hids, by simp [JobsForOne, Executions.start],
    by simp [ExecutedAreGone, Executions.start]⟩
  exact (Runs.invariant_of_meets (fun _ _ event h hcondition hstep =>
    Executions.sound_step event h hcondition hstep) hready hrun hstart).gone

/-- A movie with a pending delete request. -/
def requestedMovie : Tables :=
  { Movie.splitMovie with
    candidates := []
    deleteRequests := [{ id := 1, mediaType := .movie, movieId := some 1 }] }

def deleteJobPayload : CandidateFileOpJobPayload where
  operation := .delete
  candidateIds := [1]
  deleteRequestId := some 1
  fits := by decide

def approveThenRun (between : List ExecutionEvent) (outcomes : Nat → ItemOutcomes) :
    List ExecutionEvent :=
  .approve 1 { managerId := 1, now := 5 } :: between ++
    [.runJob Movie.twoRadarrs outcomes deleteJobPayload]

/-- The movie is deleted, and the request is marked as executed. -/
theorem executedAreGone_run_approveThenRun : ∃ s,
    Runs.run Executions.step (.start requestedMovie) (approveThenRun [] fun _ => {}) = some s ∧
      s.executed.length = 1 ∧ ExecutedAreGone s := by
  have hready : Runs.Meets Executions.step Executions.Ready (.start requestedMovie)
    (approveThenRun [] fun _ => {}) := by
    refine ⟨trivial, fun s hs => ⟨?_, fun _ _ => trivial⟩⟩
    obtain rfl := Option.some.inj hs
    intro requestId hid target htarget
    obtain rfl : 1 = requestId := Option.some.inj hid
    obtain rfl : ⟨.movie, some 1, none, none, none, none⟩ = target := Option.some.inj htarget
    exact .inr ⟨{ id := 1, mediaType := .movie, movieId := some 1, createdAt := 5 },
      by decide +kernel, rfl, rfl⟩
  exact ⟨_, rfl, rfl, executedAreGone_run (by decide) hready rfl⟩

/-- A scan deletes the candidate of the request, and its job takes the movie for deleted. -/
theorem not_executedAreGone_run :
    ¬∀ (tables : Tables) (events : List ExecutionEvent) (s : Executions),
    (tables.candidates.map ReclaimCandidate.id).Nodup →
      Runs.run Executions.step (.start tables) events = some s → ExecutedAreGone s := by
  intro h
  have hgone := h requestedMovie (approveThenRun [.scan 7 { movies := some [] }] fun _ => {}) _
    (by decide) rfl
  have hrecord := hgone (⟨.movie, some 1, none, none, none, none⟩, _) (List.mem_singleton.mpr rfl)
  exact hrecord 1 rfl ⟨_, rfl, rfl⟩

end MediaMasterr.Jobs.CandidateFileOps
