import MediaMasterr.Jobs.Process

/-! # Active jobs of a key

`enqueue_background_job` looks for an active job of its key and inserts the new one
in another statement. Two calls that both look before one of them commits insert two
jobs; when no call looks between the look of another one and its commit, a key
has one active job at most. -/

namespace MediaMasterr.Jobs

open MediaMasterr.Foundations MediaMasterr.Foundations.Transactions

variable {κ ν : Type*} [DecidableEq κ]

/-- The number of jobs of a key that are pending or running. -/
def activeCount (key : String) (jobs : List (BackgroundJob ν)) : Nat :=
  jobs.countP fun job => job.dedupeKey = some key ∧ job.IsActive

/-- The call that has found no active job of its key, or has not looked for one, and has
not committed its own. -/
def Point.inserting? : Point ν → Option (EnqueueRequest ν)
  | .insertJob request | .commitInsert request _ => some request
  | _ => none

/-- The call of `enqueue_background_job` at a point. -/
def Point.request? : Point ν → Option (EnqueueRequest ν)
  | .replacePending request | .checkActive request | .skipEnqueue request => some request
  | p => p.inserting?

namespace Process

/-- An event that keeps the calls of a key apart: a key is not empty, and a look that finds no
active job does not come while another call of the key is on its way to insert one. -/
def KeepsApart (p : Process κ ν) : Event κ ν → Prop
  | .signal _ (.enqueue request) => request.dedupeKey ≠ some ""
  | .execute t => ∀ request, p.config.points t = .checkActive request →
    ∀ key ∈ request.dedupeKey, activeJob? key (p.config.database.view t) = none →
      ∀ t' ≠ t, ∀ request' ∈ (p.config.points t').inserting?, request'.dedupeKey ≠ some key
  | _ => True

/-- A run whose events all keep the calls of a key apart. -/
abbrev RunsApart : Process κ ν → List (Event κ ν) → Prop := Runs.Meets step KeepsApart

end Process

/-! ## Counts -/

variable {jobs : List (BackgroundJob ν)} {key : String}

omit [DecidableEq κ] in
theorem activeJob?_eq_none_iff : activeJob? key jobs = none ↔ activeCount key jobs = 0 := by
  rw [activeJob?, List.head?_eq_none_iff, activeCount, List.countP_eq_length_filter,
    List.length_eq_zero_iff]
  constructor
  · intro h
    have hperm := List.perm_insertionSort (fun a b : BackgroundJob ν =>
      b.scheduledAt < a.scheduledAt ∨ (a.scheduledAt = b.scheduledAt ∧ b.id ≤ a.id))
      (jobs.filter fun job => job.dedupeKey = some key ∧ job.IsActive)
    rw [h] at hperm
    exact hperm.nil_eq.symm
  · intro h
    rw [h]
    rfl

/-- An update that makes no job active. -/
theorem activeCount_map_le {change : BackgroundJob ν → BackgroundJob ν}
    (hkey : ∀ job, (change job).dedupeKey = job.dedupeKey)
    (hactive : ∀ job, (change job).IsActive → job.IsActive) :
    activeCount key (jobs.map change) ≤ activeCount key jobs := by
  rw [activeCount, List.countP_map]
  refine List.countP_mono_left fun job _ h => ?_
  simp only [Function.comp_apply, decide_eq_true_eq] at h ⊢
  exact ⟨hkey job ▸ h.1, hactive job h.2⟩

theorem activeCount_updateJob_le {id : Nat} {change : BackgroundJob ν → BackgroundJob ν}
    (hkey : ∀ job, (change job).dedupeKey = job.dedupeKey)
    (hactive : ∀ job, (change job).IsActive → job.IsActive) :
    activeCount key (updateJob id change jobs) ≤ activeCount key jobs := by
  refine activeCount_map_le (fun job => ?_) fun job h => ?_
  · split_ifs
    · exact hkey job
    · rfl
  · split_ifs at h
    · exact hactive job h
    · exact h

theorem activeCount_cancelPending_le (key' error : String) (now : Nat) :
    activeCount key (cancelPending key' error now jobs) ≤ activeCount key jobs := by
  refine activeCount_map_le (fun job => by split_ifs <;> rfl) fun job h => ?_
  split_ifs at h with hpending
  · exact .inl hpending.2
  · exact h

theorem activeCount_replaced_le (request : EnqueueRequest ν) :
    activeCount key (request.replaced.getD id jobs) ≤ activeCount key jobs := by
  cases hkey : request.replacedKey? with
  | none =>
    rw [EnqueueRequest.replaced, hkey]
    rfl
  | some key' =>
    rw [EnqueueRequest.replaced, hkey]
    exact activeCount_cancelPending_le _ _ _

theorem activeCount_insert (request : EnqueueRequest ν) :
    activeCount key (request.insert jobs) =
      activeCount key jobs + if request.dedupeKey = some key then 1 else 0 := by
  rw [EnqueueRequest.insert, activeCount, List.countP_append, List.countP_singleton]
  simp [activeCount, EnqueueRequest.job, BackgroundJob.IsActive]

/-- Only an insert makes a job active. -/
theorem activeCount_seen_le {p : Point ν} (hp : ∀ request id, p ≠ .commitInsert request id) :
    activeCount key (seen written p jobs) ≤ activeCount key jobs := by
  cases p with
  | checkActive request => exact activeCount_replaced_le request
  | skipEnqueue request => exact activeCount_replaced_le request
  | insertJob request => exact activeCount_replaced_le request
  | commitInsert request id => exact absurd rfl (hp request id)
  | commitReset now =>
    refine activeCount_map_le (fun job => by split_ifs <;> rfl) fun job h => ?_
    split_ifs at h with hrunning
    · exact .inr hrunning
    · exact h
  | commitCancel key' reason now => exact activeCount_cancelPending_le _ _ _
  | abandonClaim workerId now id | commitClaim workerId now id =>
    refine activeCount_updateJob_le (fun job => by split_ifs <;> rfl) fun job h => ?_
    split_ifs at h with hpending
    · exact .inl hpending
    · exact h
  | commitUpdated job payload => exact activeCount_updateJob_le (fun _ => rfl) fun _ h => h
  | commitCompleted job payload now =>
    refine activeCount_updateJob_le (fun _ => rfl) fun job h => ?_
    rcases h with h | h <;> cases h
  | commitFailed job error now =>
    refine activeCount_updateJob_le (fun _ => rfl) fun job h => ?_
    rcases h with h | h <;> cases h
  | _ => exact le_rfl

/-! ## Calls of one key -/

/-- No two active jobs have the same key, and a call that is about to insert one is the only
one of its key, and has no active job besides it. -/
structure Unique (jobs : List (BackgroundJob ν)) (points : κ → Point ν) : Prop where
  requests : ∀ t, ∀ request ∈ (points t).request?,
    request.skipIfActive = true ∧ request.dedupeKey ≠ some ""
  count : ∀ key, activeCount key jobs ≤ 1
  clear : ∀ t, ∀ request ∈ (points t).inserting?, ∀ key ∈ request.dedupeKey,
    activeCount key (request.replaced.getD id jobs) = 0
  single : ∀ t t', ∀ request ∈ (points t).inserting?, ∀ request' ∈ (points t').inserting?,
    ∀ key ∈ request.dedupeKey, key ∈ request'.dedupeKey → t = t'

omit [DecidableEq κ] in
/-- Without calls it is enough that the jobs are unique. -/
theorem unique_idle (h : ∀ key, activeCount key jobs ≤ 1) : Unique jobs (fun _ : κ => .idle) where
  requests _ _ hmem := by cases hmem
  count := h
  clear _ _ hmem := by cases hmem
  single _ _ _ hmem := by cases hmem

namespace Unique

variable {points : κ → Point ν} {t : κ} {p' : Point ν}

omit [DecidableEq κ] in
theorem request_of_inserting {p : Point ν} {request : EnqueueRequest ν}
    (h : request ∈ p.inserting?) :
    request ∈ p.request? := by
  cases p <;> first | exact h | cases h

/-- One session moves on, and the jobs stay. -/
theorem move (h : Unique jobs points)
    (hrequest : ∀ request ∈ p'.request?, request.skipIfActive = true ∧ request.dedupeKey ≠ some "")
    (hinserting : ∀ request ∈ p'.inserting?, ∀ key ∈ request.dedupeKey,
      activeCount key (request.replaced.getD id jobs) = 0 ∧
        ∀ t' ≠ t, ∀ request' ∈ (points t').inserting?, key ∉ request'.dedupeKey) :
    Unique jobs (Function.update points t p') where
  requests t' request hmem := by
    by_cases ht : t' = t
    · subst ht
      exact hrequest request (by simpa using hmem)
    · rw [Function.update_of_ne ht] at hmem
      exact h.requests t' request hmem
  count := h.count
  clear t' request hmem key hkey := by
    by_cases ht : t' = t
    · subst ht
      exact (hinserting request (by simpa using hmem) key hkey).1
    · rw [Function.update_of_ne ht] at hmem
      exact h.clear t' request hmem key hkey
  single t₁ t₂ r₁ h₁ r₂ h₂ key hkey₁ hkey₂ := by
    by_cases ht₁ : t₁ = t
    · by_cases ht₂ : t₂ = t
      · exact ht₁.trans ht₂.symm
      · subst ht₁
        rw [Function.update_self] at h₁
        rw [Function.update_of_ne ht₂] at h₂
        exact absurd hkey₂ ((hinserting r₁ h₁ key hkey₁).2 t₂ ht₂ r₂ h₂)
    · rw [Function.update_of_ne ht₁] at h₁
      by_cases ht₂ : t₂ = t
      · subst ht₂
        rw [Function.update_self] at h₂
        exact absurd hkey₁ ((hinserting r₂ h₂ key hkey₂).2 t₁ ht₁ r₁ h₁)
      · rw [Function.update_of_ne ht₂] at h₂
        exact h.single t₁ t₂ r₁ h₁ r₂ h₂ key hkey₁ hkey₂

/-- A session moves to a point that is not one of `enqueue_background_job`. -/
theorem move_other (h : Unique jobs points) (hp : p'.request? = none) :
    Unique jobs (Function.update points t p') := by
  refine h.move (fun request hmem => ?_) fun request hmem => ?_
  · rw [hp] at hmem
    cases hmem
  · have hmem' := request_of_inserting hmem
    rw [hp] at hmem'
    cases hmem'

/-- A call moves on, and is not about to insert a job unless it was before. -/
theorem move_request (h : Unique jobs points) (hrequest : p'.request? = (points t).request?)
    (hinserting : ∀ request ∈ p'.inserting?, request ∈ (points t).inserting?) :
    Unique jobs (Function.update points t p') := by
  refine h.move (fun request hmem =>
    h.requests t request (hrequest ▸ hmem)) fun request hmem key hkey => ?_
  have hmem' := hinserting request hmem
  exact ⟨h.clear t request hmem' key hkey, fun t' ht request' hmem'' hkey' =>
    ht (h.single t' t request' hmem'' request hmem' key hkey' hkey)⟩

omit [DecidableEq κ] in
/-- A call that checks its key leaves none of its active jobs behind its look. -/
theorem key_of_checked {request : EnqueueRequest ν}
    (h : request.skipIfActive = true ∧ request.dedupeKey ≠ some "") :
    request.checkedKey? = request.dedupeKey := by
  rw [EnqueueRequest.checkedKey?, if_pos h.1, EnqueueRequest.key?]
  cases hkey : request.dedupeKey with
  | none => rfl
  | some key =>
    refine Option.filter_eq_some_iff.mpr ⟨rfl, ?_⟩
    have hne : key ≠ "" := fun he => h.2 (by rw [hkey, he])
    simp [hne]

theorem move_afterReplace (h : Unique jobs points) {request : EnqueueRequest ν}
    (hrequest : request.skipIfActive = true ∧ request.dedupeKey ≠ some "") :
    Unique jobs (Function.update points t request.afterReplace) := by
  unfold EnqueueRequest.afterReplace
  split_ifs with hchecked
  · refine h.move (fun request' hmem => ?_) fun _ hmem => by cases hmem
    obtain rfl := Option.some.inj hmem
    exact hrequest
  · refine h.move (fun request' hmem => ?_) fun request' hmem key hkey => ?_
    · obtain rfl := Option.some.inj hmem
      exact hrequest
    · -- a call without a key looks for nothing
      obtain rfl := Option.some.inj hmem
      rw [key_of_checked hrequest, hkey] at hchecked
      exact absurd rfl hchecked

theorem select (h : Unique jobs points) {next : List (BackgroundJob ν) → Point ν}
    (hnext : statement (points t) = some (.select next))
    (hapart : ∀ request, points t = .checkActive request → ∀ key ∈ request.dedupeKey,
      activeJob? key (seen written (points t) jobs) = none →
        ∀ t' ≠ t, ∀ request' ∈ (points t').inserting?, request'.dedupeKey ≠ some key) :
    Unique jobs (Function.update points t (next (seen written (points t) jobs))) := by
  cases hp : points t <;> rw [hp] at hnext <;>
    simp only [statement, Option.some.injEq, reduceCtorEq,
    Statement.select.injEq, Option.map_eq_some_iff, exists_const, and_false] at hnext
  case checkActive request =>
    obtain ⟨key, hkey, rfl⟩ := hnext
    have hrequest := h.requests t request (by rw [hp]; rfl)
    rw [key_of_checked hrequest] at hkey
    dsimp only
    split_ifs with hfound
    · exact h.move_request (by rw [hp]; rfl) fun _ hmem => by cases hmem
    · have hnone := Option.not_isSome_iff_eq_none.mp hfound
      refine h.move (fun request' hmem => ?_) fun request' hmem key' hkey' => ?_
      · obtain rfl := Option.some.inj hmem
        exact hrequest
      · obtain rfl := Option.some.inj hmem
        obtain rfl : key = key' := Option.some.inj (hkey.symm.trans hkey')
        refine ⟨activeJob?_eq_none_iff.mp hnone, hapart request hp key hkey (hp ▸ hnone)⟩
  case selectNext workerId allowed now =>
    subst hnext
    refine h.move_other ?_
    dsimp only
    cases nextJobId? allowed now (seen written (.selectNext workerId allowed now) jobs) <;> rfl
  case readClaimed id =>
    subst hnext
    refine h.move_other ?_
    dsimp only
    cases findJob id (seen written (.readClaimed id) jobs) <;> rfl
  all_goals
    subst hnext
    exact h.move_other rfl

theorem modify (h : Unique jobs points)
    {change : List (BackgroundJob ν) → List (BackgroundJob ν)}
      {next : List (BackgroundJob ν) → Point ν}
    (hnext : statement (points t) = some (.modify change next)) :
    Unique jobs (Function.update points t (next (seen written (points t) jobs))) := by
  cases hp : points t <;> rw [hp] at hnext <;>
    simp only [statement, Option.some.injEq, reduceCtorEq,
    Statement.modify.injEq, Option.map_eq_some_iff, exists_const, and_false] at hnext
  case replacePending request =>
    obtain ⟨key, -, -, rfl⟩ := hnext
    exact h.move_afterReplace (h.requests t request (by rw [hp]; rfl))
  case insertJob request =>
    obtain ⟨-, rfl⟩ := hnext
    exact h.move_request (by rw [hp]; rfl) fun request' hmem => by rw [hp]; exact hmem
  case claimJob workerId now id =>
    obtain ⟨-, rfl⟩ := hnext
    refine h.move_other ?_
    dsimp only
    split_ifs <;> rfl
  all_goals
    obtain ⟨-, rfl⟩ := hnext
    exact h.move_other rfl

omit [DecidableEq κ] in
/-- A commit makes no job active but the one that its call has inserted. -/
theorem activeCount_commit (h : Unique jobs points) (key : String) :
    activeCount key (seen written (points t) jobs) ≤ activeCount key jobs ∨
      ∃ request ∈ (points t).inserting?, request.dedupeKey = some key ∧
        activeCount key (seen written (points t) jobs) = 1 := by
  by_cases hp : ∃ request id, points t = .commitInsert request id
  · obtain ⟨request, newId, hp⟩ := hp
    have hinserting : request ∈ (points t).inserting? := by rw [hp]; rfl
    have hseen : seen written (points t) jobs = request.insert (request.replaced.getD id jobs) := by
      rw [hp]
      rfl
    rw [hseen, activeCount_insert]
    by_cases hkey : request.dedupeKey = some key
    · refine .inr ⟨request, hinserting, hkey, ?_⟩
      rw [if_pos hkey, h.clear t request hinserting key hkey]
    · left
      rw [if_neg hkey]
      exact activeCount_replaced_le request
  · exact .inl (activeCount_seen_le fun request id hpoint => hp ⟨request, id, hpoint⟩)

theorem commit (h : Unique jobs points) {next : Point ν}
    (hnext : statement (points t) = some (.commit next))
    (hexclusive : ∀ t' ≠ t, written (points t) ≠ none → written (points t') = none) :
    Unique (seen written (points t) jobs) (Function.update points t next) := by
  have hcommit : written (points t) ≠ none ∧ next.request? = none := by
    cases hp : points t <;> rw [hp] at hnext <;>
      simp only [statement, Option.some.injEq, reduceCtorEq,
      Statement.commit.injEq, Option.map_eq_some_iff, exists_const, and_false] at hnext
    all_goals
      subst hnext
      exact ⟨Option.some_ne_none _, rfl⟩
  obtain ⟨hwritten, hrequest⟩ := hcommit
  have hother : Unique jobs (Function.update points t next) := h.move_other hrequest
  refine { hother with count := fun key => ?_, clear := fun t' request hmem key hkey => ?_ }
  · rcases h.activeCount_commit (t := t) key with hle | ⟨-, -, -, hone⟩
    · exact hle.trans (h.count key)
    · exact hone.le
  · have ht : t' ≠ t := fun ht => by
      subst ht
      rw [Function.update_self] at hmem
      have hmem' := request_of_inserting hmem
      rw [hrequest] at hmem'
      cases hmem'
    rw [Function.update_of_ne ht] at hmem
    -- the transaction of the commit is the only one, so this call has written nothing
    have hnone := hexclusive t' ht hwritten
    have hreplaced : request.replaced = none := by
      cases hp : points t' <;> rw [hp] at hmem hnone <;> cases hmem <;>
        first | exact hnone | cases hnone
    have hclear := h.clear t' request hmem key hkey
    rw [hreplaced, Option.getD_none] at hclear ⊢
    rcases h.activeCount_commit (t := t) key with hle | ⟨request', hmem', hkey', -⟩
    · exact Nat.le_zero.mp (hle.trans hclear.le)
    · exact absurd (h.single t' t request hmem request' hmem' key hkey hkey') ht

theorem rollback (h : Unique jobs points) {next : Point ν}
    (hnext : statement (points t) = some (.rollback next)) :
    Unique jobs (Function.update points t next) := by
  cases hp : points t <;> rw [hp] at hnext <;>
    simp only [statement, Option.some.injEq, reduceCtorEq,
    Statement.rollback.injEq, Option.map_eq_some_iff, exists_const, and_false] at hnext
  all_goals
    subst hnext
    exact h.move_other rfl

theorem signal (h : Unique jobs points) {signal : Signal ν} {next : Point ν}
    (hnext : leave (points t) signal = some next)
    (hsignal : ∀ request, signal = .enqueue request →
      request.skipIfActive = true ∧ request.dedupeKey ≠ some "") :
    Unique jobs (Function.update points t next) := by
  generalize hp : points t = p at hnext
  revert hnext
  fun_cases Jobs.leave p signal <;> intro hnext
  all_goals cases hnext
  case case1 request =>
    have hrequest := hsignal request rfl
    unfold EnqueueRequest.first
    split_ifs
    · refine h.move (fun request' hmem => ?_) fun _ hmem => by cases hmem
      obtain rfl := Option.some.inj hmem
      exact hrequest
    · exact h.move_afterReplace hrequest
  case case4 workerId allowed now => split_ifs <;> exact h.move_other rfl
  case case7 error now _ =>
    refine h.move_other ?_
    cases p.job? <;> rfl
  all_goals exact h.move_other rfl

end Unique

/-! ## Runs -/

namespace Process

/-- Every call of `enqueue_background_job` in a run asks to be skipped when a job is active. -/
def SkipsIfActive (events : List (Event κ ν)) : Prop :=
  ∀ t request, Event.signal t (.enqueue request) ∈ events → request.skipIfActive = true

variable {p p' : Process κ ν}

theorem unique_step (hisolated : p.config.Isolated written) (h : Unique p.jobs p.config.points)
    {event : Event κ ν} (hstep : p.step event = some p') (hapart : p.KeepsApart event)
    (hskip : ∀ t request, event = .signal t (.enqueue request) → request.skipIfActive = true) :
    p'.config.Isolated written ∧ Unique p'.jobs p'.config.points := by
  cases event with
  | execute t =>
    obtain ⟨config, hexecute, rfl⟩ := Option.map_eq_some_iff.mp hstep
    obtain ⟨hisolated', hatomic⟩ := Config.isolated_execute accounts hisolated hexecute
    refine ⟨hisolated', ?_⟩
    change Unique p.config.atomic.contents p.config.atomic.points at h
    change Unique config.atomic.contents config.atomic.points
    generalize hs : config.atomic = s at hatomic ⊢
    cases hatomic with
    | select next hnext =>
      refine h.select hnext fun request hp key hkey hnone => hapart request hp key hkey ?_
      rw [hisolated.view]
      exact hnone
    | modify change next hnext _ => exact h.modify hnext
    | commit next hnext =>
      exact h.commit hnext fun t' ht hwritten => by_contra fun hwritten' =>
        ht (hisolated.eq_of_written hwritten' hwritten)
    | rollback next hnext => exact h.rollback hnext
  | signal t signal =>
    rw [step] at hstep
    split_ifs at hstep
    obtain ⟨config, hleave, rfl⟩ := Option.map_eq_some_iff.mp hstep
    obtain ⟨hisolated', next, hnext, hatomic⟩ := Config.isolated_leave accounts hisolated hleave
    have hunique := h.signal hnext fun request hsignal =>
      ⟨hskip t request (by rw [hsignal]), by subst hsignal; exact hapart⟩
    have hjobs : config.database.committed = p.jobs := congrArg Atomic.contents hatomic
    have hpoints : config.points = Function.update p.config.points t next :=
      congrArg Atomic.points hatomic
    rw [← hjobs, ← hpoints] at hunique
    exact ⟨hisolated', hunique⟩
  | restart =>
    obtain rfl := Option.some.inj hstep
    exact ⟨Config.isolated_restart rfl, unique_idle h.count⟩

/-- When no call looks between the look of another call of its key and its commit, and no key
is empty, a key has one active job at most, in every state of every run. -/
theorem activeCount_run {events : List (Event κ ν)} (hskip : SkipsIfActive events)
    (hapart : start.RunsApart events) (hrun : start.run events = some p) (key : String) :
    activeCount key p.jobs ≤ 1 := by
  have hmeets : Runs.Meets step (fun p event => p.KeepsApart event ∧
      ∀ t request, event = .signal t (.enqueue request) →
        request.skipIfActive = true) start events :=
    hapart.and (Runs.meets_of_forall fun _ event hmem t request hevent =>
      hskip t request (hevent ▸ hmem))
  have hstart : Unique ([] : List (BackgroundJob ν)) fun _ : κ => .idle :=
    unique_idle fun _ => Nat.zero_le 1
  have hunique := Runs.invariant_of_meets (I := fun p => p.config.Isolated written ∧
      Unique p.jobs p.config.points) (fun p p' event h hmeets hstep =>
      unique_step h.1 h.2 hstep hmeets.1 hmeets.2) hmeets hrun
    ⟨fun _ => rfl, hstart⟩
  exact hunique.2.count key

/-- The call of `request_task_run` for a task. -/
def taskRun (task : String) (now : Nat) : EnqueueRequest Unit where
  jobType := .taskRun
  payload := (∅ : Payload Unit).set "task" ()
  runAt := now
  dedupeKey := some ("task-run-" ++ task)
  skipIfActive := true

theorem activeCount_run_taskRun :
    ∃ p : Process Unit Unit, start.run [.signal () (.enqueue (taskRun "scan_cleanup_candidates" 1)),
      .execute (), .execute (), .execute ()] = some p ∧
        activeCount "task-run-scan_cleanup_candidates" p.jobs ≤ 1 := by
  have hrun : (start.run (κ := Unit) [.signal () (.enqueue (taskRun "scan_cleanup_candidates" 1)),
      .execute (), .execute (), .execute ()]).isSome := by decide
  obtain ⟨p, hp⟩ := Option.isSome_iff_exists.mp hrun
  refine ⟨p, hp, activeCount_run (fun t request hmem => ?_) ?_ hp _⟩
  · simp only [List.mem_cons, Event.signal.injEq, Signal.enqueue.injEq, reduceCtorEq,
      List.not_mem_nil,
      or_false] at hmem
    rw [hmem.2]
    rfl
  · -- there is no other session
    have halone (p : Process Unit Unit) (t : Unit) : p.KeepsApart (.execute t) :=
      fun _ _ _ _ _ t' ht => absurd rfl ht
    have hkey : (taskRun "scan_cleanup_candidates" 1).dedupeKey ≠ some "" := by decide
    exact ⟨hkey, fun _ _ => ⟨halone _ _, fun _ _ => ⟨halone _ _, fun _ _ => ⟨halone _ _,
      fun _ _ => trivial⟩⟩⟩⟩

/-- Two calls look for an active job before one of them has committed its own. -/
def twoCalls : List (Event Bool Unit) :=
  [.signal true (.enqueue (taskRun "scan_cleanup_candidates" 1)),
    .signal false (.enqueue (taskRun "scan_cleanup_candidates" 1)),
    .execute true, .execute false, .execute true, .execute true, .execute false, .execute false]

theorem not_activeCount_run : ¬∀ (events : List (Event Bool Unit)) (p : Process Bool Unit),
    SkipsIfActive events → start.run events = some p → ∀ key, activeCount key p.jobs ≤ 1 := by
  intro h
  have hrun : (start.run twoCalls).map (fun p =>
      activeCount "task-run-scan_cleanup_candidates" p.jobs) = some 2 := by decide
  obtain ⟨p, hp, hcount⟩ := Option.map_eq_some_iff.mp hrun
  have hskip : SkipsIfActive twoCalls := by
    intro t request hmem
    simp only [twoCalls, List.mem_cons, Event.signal.injEq, Signal.enqueue.injEq, reduceCtorEq,
      List.not_mem_nil, or_false] at hmem
    rcases hmem with ⟨-, rfl⟩ | ⟨-, rfl⟩ <;> rfl
  have hle := h twoCalls p hskip hp "task-run-scan_cleanup_candidates"
  omega

end Process

end MediaMasterr.Jobs
