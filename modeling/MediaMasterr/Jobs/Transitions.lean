import MediaMasterr.Jobs.Process

/-! # What a commit does to the jobs

Every commit of the queue takes each job along a transition of its status, and
adds one pending job at most. -/

namespace MediaMasterr.Jobs

open MediaMasterr.Foundations MediaMasterr.Foundations.Transactions

variable {ν : Type*}

/-- A job whose status is one of these has ended. -/
def BackgroundJobStatus.IsFinal : BackgroundJobStatus → Prop
  | .completed | .failed | .canceled => True
  | _ => False

/-- The status of a job, with its attempts. -/
def BackgroundJob.stage (job : BackgroundJob ν) : BackgroundJobStatus × Nat :=
  (job.status, job.attempts)

/-- The transitions of a job. Only a job that may end leaves `running`. -/
inductive Transition (mayEnd : Prop) : BackgroundJobStatus × Nat → BackgroundJobStatus × Nat →
    Prop where
  | stay (stage) : Transition mayEnd stage stage
  | cancel (n : Nat) : Transition mayEnd (.pending, n) (.canceled, n)
  | claim (n : Nat) : Transition mayEnd (.pending, n) (.running, n + 1)
  | complete (n : Nat) (h : mayEnd) : Transition mayEnd (.running, n) (.completed, n)
  | fail (n : Nat) (h : mayEnd) : Transition mayEnd (.running, n) (.failed, n)

/-- The job of an id has a status. -/
def HasStatus (status : BackgroundJobStatus) (id : Nat) (jobs : List (BackgroundJob ν)) : Prop :=
  ∃ job ∈ jobs, job.id = id ∧ job.status = status

/-- From one table of jobs to the next. -/
structure Evolves (mayEnd : Nat → Prop) (jobs jobs' : List (BackgroundJob ν)) : Prop where
  old : ∀ job ∈ jobs, ∃ job' ∈ jobs', job'.id = job.id ∧
    Transition (mayEnd job.id) job.stage job'.stage
  new : ∀ job' ∈ jobs', job'.stage = (.pending, 0) ∨
    ∃ job ∈ jobs, job'.id = job.id ∧ Transition (mayEnd job.id) job.stage job'.stage
  ids : (jobs.map BackgroundJob.id).Nodup → (jobs'.map BackgroundJob.id).Nodup

variable {mayEnd : Nat → Prop} {jobs jobs' : List (BackgroundJob ν)}

/-- An update of the rows, and a new row under the next id. -/
theorem evolves_map_append {change : BackgroundJob ν → BackgroundJob ν}
    (new : Option (BackgroundJob ν))
    (hid : ∀ job, (change job).id = job.id)
    (hchange : ∀ job ∈ jobs, Transition (mayEnd job.id) job.stage (change job).stage)
    (hnew : ∀ job ∈ new, job.id = Write.nextId BackgroundJob.id (jobs.map change) ∧
      job.stage = (.pending, 0)) :
    Evolves mayEnd jobs (jobs.map change ++ new.toList) where
  old job hjob :=
    ⟨change job, List.mem_append_left _ (List.mem_map_of_mem hjob), hid job, hchange job hjob⟩
  new job' hjob' := by
    rcases List.mem_append.mp hjob' with hold | hadded
    · obtain ⟨job, hjob, rfl⟩ := List.mem_map.mp hold
      exact .inr ⟨job, hjob, hid job, hchange job hjob⟩
    · exact .inl (hnew job' (Option.mem_toList.mp hadded)).2
  ids hids := by
    have hmap : (jobs.map change).map BackgroundJob.id = jobs.map BackgroundJob.id := by
      rw [List.map_map]
      exact List.map_congr_left fun job _ => hid job
    cases hn : new with
    | none => simpa [hmap] using hids
    | some job =>
      rw [Option.toList_some, List.map_append, List.map_singleton, List.nodup_append_comm,
        List.singleton_append, List.nodup_cons, hmap]
      refine ⟨fun hmem => ?_, hids⟩
      obtain ⟨row, hrow, hsame⟩ := List.mem_map.mp (hmap ▸ hmem)
      have hlt : row.id < Write.nextId BackgroundJob.id (jobs.map change) := Write.lt_nextId hrow
      rw [hsame, (hnew job (hn ▸ rfl)).1] at hlt
      exact lt_irrefl _ hlt

theorem evolves_map {change : BackgroundJob ν → BackgroundJob ν}
    (hid : ∀ job, (change job).id = job.id)
    (hchange : ∀ job ∈ jobs, Transition (mayEnd job.id) job.stage (change job).stage) :
    Evolves mayEnd jobs (jobs.map change) := by
  simpa using evolves_map_append none hid hchange (by simp)

theorem Evolves.refl (mayEnd : Nat → Prop) (jobs : List (BackgroundJob ν)) :
    Evolves mayEnd jobs jobs := by
  have hevolves : Evolves mayEnd jobs (jobs.map id) :=
    evolves_map (fun _ => rfl) fun job _ => .stay job.stage
  rwa [List.map_id] at hevolves

/-! ## The updates -/

theorem evolves_cancelPending (mayEnd : Nat → Prop) (key error : String) (now : Nat)
    (jobs : List (BackgroundJob ν)) : Evolves mayEnd jobs (cancelPending key error now jobs) := by
  refine evolves_map (fun job => by split_ifs <;> rfl) fun job _ => ?_
  split_ifs with h
  · rw [BackgroundJob.stage, h.2]
    exact .cancel _
  · exact .stay _

/-- `enqueue_background_job` commits its cancellations with the new job. -/
theorem evolves_enqueue (mayEnd : Nat → Prop) (request : EnqueueRequest ν)
    (jobs : List (BackgroundJob ν)) :
    Evolves mayEnd jobs (request.insert (request.replaced.getD id jobs)) := by
  cases hkey : request.replacedKey? with
  | none =>
    rw [EnqueueRequest.replaced, hkey]
    have hevolves : Evolves mayEnd jobs (jobs.map id ++
        (some (request.job (Write.nextId BackgroundJob.id jobs))).toList) := by
      refine evolves_map_append _ (fun _ => rfl) (fun job _ => .stay _) fun job hjob => ?_
      obtain rfl := Option.some.inj hjob
      rw [List.map_id]
      exact ⟨rfl, rfl⟩
    rwa [List.map_id] at hevolves
  | some key =>
    rw [EnqueueRequest.replaced, hkey]
    refine evolves_map_append (some (request.job _)) (fun job => by split_ifs <;> rfl)
      (fun job _ => ?_) fun job hjob => ?_
    · split_ifs with h
      · rw [BackgroundJob.stage, h.2]
        exact .cancel _
      · exact .stay _
    · obtain rfl := Option.some.inj hjob
      exact ⟨rfl, rfl⟩

theorem evolves_failRunning (hend : ∀ id, mayEnd id) (now : Nat) (jobs : List (BackgroundJob ν)) :
    Evolves mayEnd jobs (failRunning now jobs) := by
  refine evolves_map (fun job => by split_ifs <;> rfl) fun job _ => ?_
  split_ifs with h
  · rw [BackgroundJob.stage, h]
    exact .fail _ (hend _)
  · exact .stay _

/-- An update by primary key. -/
theorem evolves_updateJob {id : Nat} {change : BackgroundJob ν → BackgroundJob ν}
    (hid : ∀ job, (change job).id = job.id)
    (hchange : ∀ job ∈ jobs, job.id = id → Transition (mayEnd id) job.stage (change job).stage) :
    Evolves mayEnd jobs (updateJob id change jobs) := by
  refine evolves_map (fun job => by split_ifs <;> simp [hid]) fun job hjob => ?_
  split_ifs with h
  · subst h
    exact hchange job hjob rfl
  · exact .stay _

theorem evolves_claimJob (mayEnd : Nat → Prop) (workerId : String) (now id : Nat)
    (jobs : List (BackgroundJob ν)) : Evolves mayEnd jobs (claimJob workerId now id jobs) := by
  refine evolves_updateJob (fun job => by split_ifs <;> rfl) fun job _ _ => ?_
  split_ifs with h
  · rw [BackgroundJob.stage, h]
    exact .claim _
  · exact .stay _

theorem evolves_completeJob {id : Nat} (hend : mayEnd id)
    (hrunning : ∀ job ∈ jobs, job.id = id → job.status = .running) (payload : Payload ν)
      (now : Nat) :
    Evolves mayEnd jobs (completeJob id payload now jobs) := by
  refine evolves_updateJob (fun _ => rfl) fun job hjob hid => ?_
  rw [BackgroundJob.stage, hrunning job hjob hid]
  exact .complete _ hend

theorem evolves_failJob {id : Nat} (hend : mayEnd id)
    (hrunning : ∀ job ∈ jobs, job.id = id → job.status = .running) (error : String) (now : Nat) :
    Evolves mayEnd jobs (failJob id error now jobs) := by
  refine evolves_updateJob (fun _ => rfl) fun job hjob hid => ?_
  rw [BackgroundJob.stage, hrunning job hjob hid]
  exact .fail _ hend

theorem evolves_setPayload (mayEnd : Nat → Prop) (id : Nat) (payload : Payload ν)
    (jobs : List (BackgroundJob ν)) : Evolves mayEnd jobs (setPayload id payload jobs) :=
  evolves_updateJob (fun _ => rfl) fun _ _ _ => .stay _

/-- The update of `claim_next_background_job` starts the job that it returns. -/
theorem hasStatus_claimJob {id : Nat} (h : IsClaimable id jobs) (workerId : String) (now : Nat) :
    HasStatus .running id (claimJob workerId now id jobs) := by
  obtain ⟨job, hjob, hid, hstatus⟩ := h
  refine ⟨_, List.mem_map_of_mem hjob, ?_⟩
  dsimp only
  rw [if_pos hid, if_pos hstatus]
  exact ⟨hid, rfl⟩

/-! ## Owners -/

/-- The job that the worker of a session has claimed and not yet ended. -/
def Point.owned? : Point ν → Option Nat
  | .readClaimed id => some id
  | .failJob job _ _ | .commitFailed job _ _ => some job.id
  | p => p.job?.map BackgroundJob.id

/-- Whose call a point is of. -/
inductive Role where
  | call
  | startUp
  | worker
  deriving DecidableEq

def Point.role : Point ν → Role
  | .resetStale _ | .commitReset _ => .startUp
  | .selectNext _ _ _ | .claimJob _ _ _ | .abandonClaim _ _ _ | .commitClaim _ _ _ | .readClaimed _
  | .runJob _ | .readUpdated _ _ | .setPayload _ _ | .commitUpdated _ _ | .readCompleted _ _ _
  | .completeJob _ _ _ | .commitCompleted _ _ _ | .failJob _ _ _ | .commitFailed _ _ _ => .worker
  | _ => .call

/-- The jobs that a session may end. -/
def Point.MayEnd (p : Point ν) (id : Nat) : Prop := id ∈ p.owned? ∨ p.role = .startUp

/-- What a transaction has written takes the jobs along their transitions. -/
theorem evolves_seen (p : Point ν)
    (hrunning : ∀ id ∈ p.owned?, ∀ job ∈ jobs, job.id = id → job.status = .running) :
    Evolves p.MayEnd jobs (seen written p jobs) := by
  have hreplaced (request : EnqueueRequest ν) :
      Evolves p.MayEnd jobs (request.replaced.getD id jobs) := by
    cases hkey : request.replacedKey? with
    | none =>
      rw [EnqueueRequest.replaced, hkey]
      exact .refl _ _
    | some key =>
      rw [EnqueueRequest.replaced, hkey]
      exact evolves_cancelPending _ _ _ _ _
  cases p with
  | checkActive request => exact hreplaced request
  | skipEnqueue request => exact hreplaced request
  | insertJob request => exact hreplaced request
  | commitInsert request id => exact evolves_enqueue _ request jobs
  | commitReset now => exact evolves_failRunning (fun _ => .inr rfl) now jobs
  | commitCancel key reason now => exact evolves_cancelPending _ _ _ _ _
  | abandonClaim workerId now id => exact evolves_claimJob _ _ _ _ _
  | commitClaim workerId now id => exact evolves_claimJob _ _ _ _ _
  | commitUpdated job payload => exact evolves_setPayload _ _ _ _
  | commitCompleted job payload now =>
    exact evolves_completeJob (.inl rfl) (hrunning job.id rfl) payload now
  | commitFailed job error now => exact evolves_failJob (.inl rfl) (hrunning job.id rfl) error now
  | _ => exact .refl _ _

/-! ## What a transition keeps -/

/-- A job has been attempted once, or it waits, or it was cancelled before. -/
def IsSound : BackgroundJobStatus × Nat → Prop
  | (.pending, n) | (.canceled, n) => n = 0
  | (_, n) => n = 1

theorem Transition.isSound {ends : Prop} {stage stage' : BackgroundJobStatus × Nat}
    (h : Transition ends stage stage') (hsound : IsSound stage) : IsSound stage' := by
  cases h with
  | stay => exact hsound
  | cancel n => exact hsound
  | claim n => simpa [IsSound] using hsound
  | complete n => exact hsound
  | fail n => exact hsound

theorem Transition.attempts_eq_one {ends : Prop} {stage stage' : BackgroundJobStatus × Nat}
    (h : Transition ends stage stage') (hsound : IsSound stage) (hone : stage.2 = 1) :
      stage'.2 = 1 := by
  cases h with
  | stay | complete | fail => exact hone
  | cancel n => exact hone
  | claim n => exact congrArg (· + 1) hsound

/-- A job that has ended keeps its status. -/
theorem Transition.eq_of_isFinal {ends : Prop} {stage stage' : BackgroundJobStatus × Nat}
    (h : Transition ends stage stage') (hfinal : stage.1.IsFinal) : stage'.1 = stage.1 := by
  cases h with
  | stay => rfl
  | _ => exact hfinal.elim

namespace Evolves

variable (h : Evolves mayEnd jobs jobs')

include h

/-- A running job that may not end keeps running. -/
theorem hasStatus_running {id : Nat} (hid : ¬mayEnd id) (hjob : HasStatus .running id jobs) :
    HasStatus .running id jobs' := by
  obtain ⟨job, hmem, rfl, hstatus⟩ := hjob
  obtain ⟨job', hmem', hsame, htransition⟩ := h.old job hmem
  refine ⟨job', hmem', hsame, ?_⟩
  rw [BackgroundJob.stage, hstatus, BackgroundJob.stage] at htransition
  generalize job'.status = status', job'.attempts = attempts' at htransition ⊢
  cases htransition <;> first | rfl | contradiction

/-- A job that has ended is still there, with its status. -/
theorem findJob_of_isFinal (hids : (jobs.map BackgroundJob.id).Nodup) {id : Nat}
    {job : BackgroundJob ν}
    (hjob : findJob id jobs = some job) (hfinal : job.status.IsFinal) :
    ∃ job', findJob id jobs' = some job' ∧ job'.status = job.status := by
  have hid : job.id = id := by simpa using List.find?_some hjob
  obtain ⟨old, hold, hsame, htransition⟩ := h.old job (List.mem_of_find?_eq_some hjob)
  have hsome : (findJob id jobs').isSome :=
    List.find?_isSome.mpr ⟨old, hold, by simp [hsame, hid]⟩
  obtain ⟨job', hjob'⟩ := Option.isSome_iff_exists.mp hsome
  have hid' : job'.id = id := by simpa using List.find?_some hjob'
  obtain rfl := List.inj_on_of_nodup_map (h.ids hids) (List.mem_of_find?_eq_some hjob') hold
    (hid'.trans (hid.symm.trans hsame.symm))
  exact ⟨job', hjob', htransition.eq_of_isFinal hfinal⟩

theorem isSound (hsound : ∀ job ∈ jobs, IsSound job.stage) : ∀ job ∈ jobs', IsSound job.stage := by
  intro job' hjob'
  rcases h.new job' hjob' with hnew | ⟨job, hjob, -, htransition⟩
  · rw [hnew]
    rfl
  · exact htransition.isSound (hsound job hjob)

end Evolves

end MediaMasterr.Jobs
