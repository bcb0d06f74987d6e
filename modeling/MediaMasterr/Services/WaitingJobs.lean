import MediaMasterr.Foundations.Buckets
import MediaMasterr.Jobs.Transitions
import MediaMasterr.Services.Toggles

/-! # Waiting toggles

What each update of the jobs does to the toggles that no worker has claimed yet. -/

namespace MediaMasterr.Services

open MediaMasterr.Foundations MediaMasterr.Jobs

variable {Extra : Type}

/-- A toggle of the table that is still to be claimed. -/
def Waits (jobs : List (BackgroundJob (Field Extra))) (job : BackgroundJob (Field Extra)) : Prop :=
  job ∈ jobs ∧ job.status = .pending ∧ job.jobType = .serviceToggle

variable {jobs : List (BackgroundJob (Field Extra))} {job : BackgroundJob (Field Extra)}
  {now jobId : Nat} {key : String}

/-- An update that turns the waiting toggles without `p` into others, and leaves those with `p`. -/
theorem waits_map {change : BackgroundJob (Field Extra) → BackgroundJob (Field Extra)}
    (p : BackgroundJob (Field Extra) → Prop)
    (hkeep : ∀ job, job.status = .pending → p job → change job = job)
    (hback : ∀ job, (change job).status = .pending → change job = job ∧ p job) :
    Waits (jobs.map change) job ↔ Waits jobs job ∧ p job := by
  constructor
  · rintro ⟨hmem, hpending, htype⟩
    obtain ⟨old, hold, rfl⟩ := List.mem_map.mp hmem
    obtain ⟨hsame, hp⟩ := hback old hpending
    rw [hsame] at hpending htype ⊢
    exact ⟨⟨hold, hpending, htype⟩, hp⟩
  · rintro ⟨⟨hmem, hpending, htype⟩, hp⟩
    exact ⟨List.mem_map.mpr ⟨job, hmem, hkeep job hpending hp⟩, hpending, htype⟩

theorem waits_cancelPending (key error : String) (now : Nat) :
    Waits (cancelPending key error now jobs) job ↔
      Waits jobs job ∧ job.dedupeKey ≠ some key := by
  refine waits_map (·.dedupeKey ≠ some key) (fun job _ hkey => if_neg fun h => hkey h.1)
    fun job hpending => ?_
  split_ifs at hpending with h
  exact ⟨if_neg h, fun hkey => h ⟨hkey, hpending⟩⟩

theorem waits_failRunning : Waits (failRunning now jobs) job ↔ Waits jobs job := by
  have hmap : Waits (failRunning now jobs) job ↔ Waits jobs job ∧ True := by
    refine waits_map (fun _ => True) (fun job hpending _ => if_neg ?_) fun job hpending => ?_
    · simp [hpending]
    · split_ifs at hpending with h
      exact ⟨if_neg h, trivial⟩
  rwa [and_true] at hmap

/-- An update by primary key after which the row of the key does not wait. -/
theorem waits_updateJob {change : BackgroundJob (Field Extra) → BackgroundJob (Field Extra)}
    (hchange : ∀ job, (change job).status ≠ .pending) :
    Waits (updateJob jobId change jobs) job ↔ Waits jobs job ∧ job.id ≠ jobId := by
  refine waits_map (·.id ≠ jobId) (fun job _ hid => if_neg hid) fun job hpending => ?_
  split_ifs at hpending with h
  · exact absurd hpending (hchange job)
  · exact ⟨if_neg h, h⟩

theorem waits_claimJob {workerId : String} :
    Waits (claimJob workerId now jobId jobs) job ↔ Waits jobs job ∧ job.id ≠ jobId := by
  refine waits_updateJob fun job => ?_
  split_ifs with h
  · exact BackgroundJobStatus.noConfusion
  · exact h

theorem waits_finishJob {error : Option String} :
    Waits (finishJob jobId error now jobs) job ↔ Waits jobs job ∧ job.id ≠ jobId := by
  cases error with
  | none => exact waits_updateJob fun _ => BackgroundJobStatus.noConfusion
  | some error => exact waits_updateJob fun _ => BackgroundJobStatus.noConfusion

theorem waits_filter {p : BackgroundJob (Field Extra) → Bool} :
    Waits (jobs.filter p) job ↔ Waits jobs job ∧ p job := by
  rw [Waits, Waits, List.mem_filter]
  exact and_right_comm

theorem waits_insert {request : EnqueueRequest (Field Extra)} :
    Waits (request.insert jobs) job ↔ Waits jobs job ∨
      (request.jobType = .serviceToggle ∧
        job = request.job (Write.nextId BackgroundJob.id jobs)) := by
  rw [Waits, Waits, EnqueueRequest.insert, List.mem_append, List.mem_singleton]
  constructor
  · rintro ⟨hmem | rfl, hpending, htype⟩
    · exact .inl ⟨hmem, hpending, htype⟩
    · exact .inr ⟨htype, rfl⟩
  · rintro (⟨hmem, hpending, htype⟩ | ⟨htype, rfl⟩)
    · exact ⟨.inl hmem, hpending, htype⟩
    · exact ⟨.inr rfl, rfl, htype⟩

/-- The job of a save comes in for those of its configuration that wait, under a new id. -/
theorem waits_enqueueJob_toggleRequest (jobs : List (BackgroundJob (Field Extra)))
    (data : ServiceConfigUpdate Extra) (configId : Nat) (triggerResync : Bool) (now : Nat) :
    let request := toggleRequest data configId triggerResync now
    ∃ id, (∀ job ∈ jobs, job.id < id) ∧ ∀ job, Waits (enqueueJob request jobs) job ↔
      (Waits jobs job ∧ job.dedupeKey ≠ some (toggleKey configId)) ∨ job = request.job id := by
  intro request
  have hkey : request.key? = some (toggleKey configId) := by
    rw [EnqueueRequest.key?]
    refine Option.filter_eq_some_iff.mpr ⟨rfl, ?_⟩
    simp [toggleKey, toggleKeyPrefix]
  have hreplaced : request.replaced.getD id jobs =
      cancelPending (toggleKey configId) "Replaced by newer queued job" now jobs := by
    have hreplacedKey : request.replacedKey? = some (toggleKey configId) := hkey
    rw [EnqueueRequest.replaced, hreplacedKey]
    rfl
  refine ⟨Write.nextId BackgroundJob.id (request.replaced.getD id jobs), fun job hjob => ?_,
    fun job => ?_⟩
  · obtain ⟨job', hjob', hsame⟩ : ∃ job' ∈ request.replaced.getD id jobs, job'.id = job.id := by
      rw [hreplaced]
      refine ⟨_, List.mem_map_of_mem hjob, ?_⟩
      split_ifs <;> rfl
    exact hsame ▸ Write.lt_nextId hjob'
  · have hqueued : enqueueJob request jobs = request.insert (request.replaced.getD id jobs) := rfl
    rw [hqueued, waits_insert, hreplaced, waits_cancelPending]
    exact or_congr_right (and_iff_right rfl)

theorem ne_toggleKey_of_isOther {request : EnqueueRequest (Field Extra)} (h : IsOther request)
    (configId : Nat) : request.dedupeKey ≠ some (toggleKey configId) := by
  intro heq
  have hstarts : PythonText.startsWith (toggleKey configId) toggleKeyPrefix = true := by
    rw [PythonText.startsWith, List.isPrefixOf_iff_prefix, toggleKey, String.toList_append]
    exact List.prefix_append _ _
  have hall := h.2
  rw [heq, Option.all_some, hstarts] at hall
  cases hall

/-- Other jobs leave the toggles that wait. -/
theorem waits_enqueueJob_of_isOther {request : EnqueueRequest (Field Extra)}
    (h : IsOther request)
    (hkeys : ∀ job, Waits jobs job → ∃ configId, job.dedupeKey = some (toggleKey configId)) :
    Waits (enqueueJob request jobs) job ↔ Waits jobs job := by
  have hreplaced (job : BackgroundJob (Field Extra)) :
      Waits (request.replaced.getD id jobs) job ↔ Waits jobs job := by
    rw [EnqueueRequest.replaced]
    cases hkey : request.replacedKey? with
    | none => rfl
    | some key =>
      have hdedupe : request.dedupeKey = some key := by
        rw [EnqueueRequest.replacedKey?, EnqueueRequest.key?, Option.ite_none_right_eq_some,
          Option.filter_eq_some_iff] at hkey
        exact hkey.2.1
      refine (waits_cancelPending _ _ _).trans ⟨And.left, fun hwaits => ⟨hwaits, fun heq => ?_⟩⟩
      obtain ⟨configId, hconfig⟩ := hkeys job hwaits
      rw [hconfig] at heq
      exact ne_toggleKey_of_isOther h configId (hdedupe.trans heq.symm)
  rw [enqueueJob]
  split_ifs
  · rfl
  · rw [waits_insert, hreplaced]
    exact or_iff_left fun hnew => h.1 hnew.1

/-! ## The ids of the jobs -/

theorem nodup_ids_updateJob
    {change : BackgroundJob (Field Extra) → BackgroundJob (Field Extra)}
    (hchange : ∀ job, (change job).id = job.id) (hids : (jobs.map BackgroundJob.id).Nodup) :
    ((updateJob jobId change jobs).map BackgroundJob.id).Nodup := by
  have hmap : (updateJob jobId change jobs).map BackgroundJob.id = jobs.map BackgroundJob.id := by
    rw [updateJob, List.map_map]
    refine List.map_congr_left fun job _ => ?_
    rw [Function.comp_apply]
    split_ifs
    · exact hchange job
    · rfl
  rwa [hmap]

theorem nodup_ids_finishJob {error : Option String} (hids : (jobs.map BackgroundJob.id).Nodup) :
    ((finishJob jobId error now jobs).map BackgroundJob.id).Nodup := by
  cases error with
  | none => exact nodup_ids_updateJob (fun _ => rfl) hids
  | some error => exact nodup_ids_updateJob (fun _ => rfl) hids

theorem nodup_ids_enqueueJob (request : EnqueueRequest (Field Extra))
    (hids : (jobs.map BackgroundJob.id).Nodup) :
    ((enqueueJob request jobs).map BackgroundJob.id).Nodup := by
  rw [enqueueJob]
  split_ifs
  · exact hids
  · exact (evolves_enqueue (fun _ => False) request jobs).ids hids

/-! ## Claims -/

theorem exists_of_nextJobId {allowed : List BackgroundJobType}
    (h : nextJobId? (some allowed) now jobs = some jobId) :
    ∃ job ∈ jobs, job.id = jobId ∧ job.status = .pending ∧ job.jobType ∈ allowed := by
  obtain ⟨job, hhead, hid⟩ := Option.map_eq_some_iff.mp h
  have hmem := List.mem_of_head? hhead
  rw [List.mem_insertionSort, List.mem_filter] at hmem
  obtain ⟨hmem, hcondition⟩ := hmem
  simp only [decide_eq_true_eq, Option.mem_def, Option.some.injEq, forall_eq'] at hcondition
  exact ⟨job, hmem, hid, hcondition.1, hcondition.2.2⟩

theorem nodup_ids_claimJob {workerId : String} (hids : (jobs.map BackgroundJob.id).Nodup) :
    ((claimJob workerId now jobId jobs).map BackgroundJob.id).Nodup :=
  nodup_ids_updateJob (fun job => by split_ifs <;> rfl) hids

/-- The job that comes back is the one claimed. -/
theorem findJob_claimJob (workerId : String) (now : Nat) (hids : (jobs.map BackgroundJob.id).Nodup)
    (hjob : job ∈ jobs) : ∃ claimed, findJob job.id (claimJob workerId now job.id jobs) =
      some claimed ∧ startJob claimed = startJob job := by
  refine ⟨_, find?_eq_some_of_key (nodup_ids_claimJob hids) (List.mem_map_of_mem hjob) ?_ ?_, ?_⟩
  · simp only [if_true, decide_eq_true_eq]
    split_ifs <;> rfl
  · intro other hid
    simp only [if_true]
    split_ifs <;> exact of_decide_eq_true hid
  · simp only [if_true]
    split_ifs <;> rfl

/-- A worker without a job goes on waiting, or starts one that waits. -/
theorem claim_cases (s : System Extra) (hids : (s.jobs.map BackgroundJob.id).Nodup)
    (workerId : String) (now : Nat) : s.claim workerId now = s ∨
      ∃ job ∈ s.jobs, job.status = .pending ∧ s.claim workerId now =
        { s with jobs := claimJob workerId now job.id s.jobs, worker := startJob job } := by
  rw [System.claim]
  cases hnext : nextJobId? (some workerJobTypes) now s.jobs with
  | none => exact .inl rfl
  | some jobId =>
    obtain ⟨job, hjob, rfl, hpending, -⟩ := exists_of_nextJobId hnext
    obtain ⟨claimed, hclaimed, hstart⟩ := findJob_claimJob workerId now hids hjob
    refine .inr ⟨job, hjob, hpending, ?_⟩
    simp only [hclaimed, Option.map_some, Option.getD_some, hstart]

/-! ## The toggles of every run -/

/-- The configuration of a toggle, in its payload and in its key. -/
structure Names (job : BackgroundJob (Field Extra)) (payload : ServiceToggleJobPayload Extra)
    (configId : Nat) : Prop where
  validates : ServiceToggleJobPayload.modelValidate job.payload = some payload
  named : payload.serviceConfigId = some configId
  key : job.dedupeKey = some (toggleKey configId)

theorem startJob_of_names {payload : ServiceToggleJobPayload Extra} {configId : Nat}
    (hnames : Names job payload configId) (htype : job.jobType = .serviceToggle) :
    startJob job = .waiting job.id payload.update := by
  rw [startJob, if_pos htype, hnames.validates]

structure Queued (s : System Extra) : Prop where
  ids : (s.jobs.map BackgroundJob.id).Nodup
  waiting : ∀ job, Waits s.jobs job → ∃ payload configId, Names job payload configId
  worker : ∀ data, s.worker.data? = some data → ∃ configId, data.id = some configId

theorem queued_new : Queued ({} : System Extra) where
  ids := List.nodup_nil
  waiting _ h := absurd h.1 List.not_mem_nil
  worker _ h := by cases h

namespace Queued

variable {s s' : System Extra}

theorem keys (h : Queued s) (job : BackgroundJob (Field Extra)) (hwaits : Waits s.jobs job) :
    ∃ configId, job.dedupeKey = some (toggleKey configId) := by
  obtain ⟨payload, configId, hnames⟩ := h.waiting job hwaits
  exact ⟨configId, hnames.key⟩

/-- The queue goes on with the toggles that it has. -/
theorem of_waits (h : Queued s) (hids : (s'.jobs.map BackgroundJob.id).Nodup)
    (hwaits : ∀ job, Waits s'.jobs job → Waits s.jobs job)
    (hworker : ∀ data, s'.worker.data? = some data → s.worker.data? = some data) : Queued s' where
  ids := hids
  waiting job hjob := h.waiting job (hwaits job hjob)
  worker data hdata := h.worker data (hworker data hdata)

theorem claim (h : Queued s) (workerId : String) (now : Nat) : Queued (s.claim workerId now) := by
  rcases claim_cases s h.ids workerId now with heq | ⟨job, hjob, hpending, heq⟩
  · rw [heq]
    exact h
  · rw [heq]
    refine ⟨nodup_ids_claimJob h.ids,
      fun job' hwaits => h.waiting job' (waits_claimJob.mp hwaits).1,
      fun data hdata => ?_⟩
    by_cases htype : job.jobType = .serviceToggle
    · obtain ⟨payload, configId, hnames⟩ := h.waiting job ⟨hjob, hpending, htype⟩
      rw [startJob_of_names hnames htype] at hdata
      cases hdata
      exact ⟨configId, hnames.named⟩
    · rw [startJob, if_neg htype] at hdata
      cases hdata

theorem announced (h : Queued s) (configId : Nat) (data : ServiceConfigUpdate Extra)
    (triggerResync : Bool) (now : Nat) : Queued (s.announced configId data triggerResync now) := by
  refine ⟨nodup_ids_enqueueJob (toggleRequest data configId triggerResync now) h.ids,
    fun job hwaits => ?_, h.worker⟩
  obtain ⟨id, -, hiff⟩ := waits_enqueueJob_toggleRequest s.jobs data configId triggerResync now
  rcases (hiff job).mp hwaits with ⟨hold, -⟩ | rfl
  · exact h.waiting job hold
  · exact ⟨_, configId, ServiceToggleJobPayload.modelValidate_modelDump _, rfl, rfl⟩

theorem step {reader : ExtraReader Extra} {event : Event Extra} (h : Queued s)
    (hstep : s.step reader event = some s') : Queued s' := by
  cases s.does_of_step reader hstep with
  | refuse => exact h
  | startDown => exact h.of_waits h.ids (fun _ => id) fun _ hdata => by cases hdata
  | startUp healthy now =>
    refine h.of_waits ?_ (fun _ => waits_failRunning.mp) fun _ hdata => by cases hdata
    have hevolves : Evolves (fun _ => True) s.jobs (failRunning now s.jobs) :=
      evolves_failRunning (fun _ => trivial) now s.jobs
    exact hevolves.ids h.ids
  | save | findSaved | loseSaved | clearDeleted => exact ⟨h.ids, h.waiting, h.worker⟩
  | enqueueSaved now => exact h.announced _ _ _ now
  | delete now =>
    refine h.of_waits ?_ (fun job hwaits => ((waits_cancelPending _ _ _).mp hwaits).1) fun _ => id
    exact (evolves_cancelPending (fun _ => False) _ _ _ _).ids h.ids
  | enqueue hother =>
    exact h.of_waits (nodup_ids_enqueueJob _ h.ids)
      (fun job => (waits_enqueueJob_of_isOther hother h.keys).mp) fun _ => id
  | trim jobIds =>
    exact h.of_waits (h.ids.sublist (List.filter_sublist.map _))
      (fun job hwaits => (waits_filter.mp hwaits).1) fun _ => id
  | claim workerId now => exact h.claim workerId now
  | endTask | failConnect | connect => exact ⟨h.ids, h.waiting, fun _ hdata => by cases hdata⟩
  | check hworker =>
    refine ⟨h.ids, h.waiting, fun update hupdate => h.worker update ?_⟩
    rw [hworker]
    rcases checkToggle_cases s.configs _ _ with ⟨heq, -⟩ | ⟨heq, -⟩ <;> rw [heq] at hupdate
    · exact hupdate
    · cases hupdate
  | clear hworker =>
    refine ⟨h.ids, h.waiting, fun update hupdate => h.worker update ?_⟩
    rw [hworker, Worker.data?, (System.of_cleared hupdate).1]
  | finish now =>
    exact h.of_waits (nodup_ids_finishJob h.ids) (fun job hwaits => (waits_finishJob.mp hwaits).1)
      fun _ hdata => by cases hdata

end Queued

end MediaMasterr.Services
