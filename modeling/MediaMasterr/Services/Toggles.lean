import MediaMasterr.Foundations.Runs
import MediaMasterr.Services.ServiceSettings

/-! # Service toggles

The program around the table of service configurations: requests that save and delete a
configuration, the queue with the job of each save, the default worker that runs the jobs, and
the manager with its clients. The statements of requests and of the worker come in any order; of the
saves, one is on its way at a time. `_service_toggle_lock` keeps the worker's turn at the manager
apart from the clearing after a deletion. -/

namespace MediaMasterr.Services

open MediaMasterr.Database MediaMasterr.Foundations MediaMasterr.Jobs

variable {Extra : Type}

/-- Where the worker of the toggles and task runs stands. -/
inductive Worker (Extra : Type) where
  | idle
  /-- A task runs. -/
  | task (jobId : Nat)
  /-- `handle_service_toggle`, before it holds the lock. -/
  | waiting (jobId : Nat) (data : ServiceConfigUpdate Extra)
  /-- The update agrees with its row. -/
  | clearing (jobId : Nat) (data : ServiceConfigUpdate Extra)
  | initializing (jobId : Nat) (data : ServiceConfigUpdate Extra)
  | ended (jobId : Nat) (error : Option String)

/-- Where the save stands that is on its way. -/
inductive Saving (Extra : Type) where
  /-- The upsert is committed. -/
  | upserted (data : ServiceConfigUpdate Extra) (triggerResync : Bool)
  /-- `saved_config` is read. -/
  | found (configId : Nat) (data : ServiceConfigUpdate Extra) (triggerResync : Bool)

structure System (Extra : Type) where
  configs : List (ServiceConfig Extra) := []
  jobs : List (BackgroundJob (Field Extra)) := []
  manager : ServiceManager := {}
  /-- The program serves requests. -/
  up : Bool := false
  worker : Worker Extra := .idle
  saving : Option (Saving Extra) := none
  /-- The deletions that have not cleared the manager yet. -/
  deletions : List (Service × Nat) := []

inductive Event (Extra : Type) where
  /-- The program starts, whether or not it was stopped. -/
  | start (healthy : Nat → Bool) (now : Nat)
  | save (data : ServiceConfigUpdate Extra) (reachable : Bool)
  | findSaved
  | enqueueSaved (now : Nat)
  | delete (configId now : Nat)
  | clearDeleted (service : Service) (configId : Nat)
  /-- A job that something else queues. -/
  | enqueue (request : EnqueueRequest (Field Extra))
  /-- `_trim_background_jobs`. -/
  | trim (jobIds : List Nat)
  | claim (workerId : String) (now : Nat)
  | endTask (error : Option String)
  | check
  | clear
  | connect (healthy : Bool)
  | finish (now : Nat)

/-- `enqueue_background_job`. -/
def enqueueJob (request : EnqueueRequest (Field Extra))
    (jobs : List (BackgroundJob (Field Extra))) : List (BackgroundJob (Field Extra)) :=
  let replaced := request.replaced.getD id jobs
  if (request.checkedKey?.bind (activeJob? · replaced)).isSome then jobs
  else request.insert replaced

/-- A job that is neither a toggle nor queued under the key of one. -/
def IsOther (request : EnqueueRequest (Field Extra)) : Prop :=
  request.jobType ≠ .serviceToggle ∧
    request.dedupeKey.all fun key => !PythonText.startsWith key toggleKeyPrefix

instance (request : EnqueueRequest (Field Extra)) : Decidable (IsOther request) :=
  inferInstanceAs (Decidable (_ ∧ _))

/-- The job types of the worker. -/
def workerJobTypes : List BackgroundJobType := [.serviceToggle, .taskRun]

/-- `run_background_job`, up to the lock. -/
def startJob (job : BackgroundJob (Field Extra)) : Worker Extra :=
  if job.jobType = .serviceToggle then
    match ServiceToggleJobPayload.modelValidate job.payload with
    | some payload => .waiting job.id payload.update
    | none => .ended job.id (some "ValidationError")
  else .task job.id

/-- `handle_service_toggle` compares the update with its row. -/
def checkToggle (configs : List (ServiceConfig Extra)) (jobId : Nat)
    (data : ServiceConfigUpdate Extra) : Worker Extra :=
  match data.id with
  | none => .clearing jobId data
  | some id =>
    match configs.find? (·.id = id) with
    | none => .ended jobId none
    | some config => if data.IsCurrent config then .clearing jobId data else .ended jobId none

/-- An update goes on to the manager when it agrees with its row, and is skipped otherwise. -/
theorem checkToggle_cases (configs : List (ServiceConfig Extra)) (jobId : Nat)
    (data : ServiceConfigUpdate Extra) :
    (checkToggle configs jobId data = .clearing jobId data ∧
      ∀ id, data.id = some id → ∃ config ∈ configs, config.id = id ∧ data.IsCurrent config) ∨
      checkToggle configs jobId data = .ended jobId none ∧ ∃ id, data.id = some id ∧
        ∀ config, configs.find? (·.id = id) = some config → ¬data.IsCurrent config := by
  rw [checkToggle]
  cases hid : data.id with
  | none => exact .inl ⟨rfl, fun _ h => by cases h⟩
  | some id =>
    dsimp only
    cases hfind : configs.find? (·.id = id) with
    | none => exact .inr ⟨rfl, id, rfl, fun _ h => by simp [hfind] at h⟩
    | some config =>
      dsimp only
      split_ifs with hcurrent
      · refine .inl ⟨rfl, ?_⟩
        rintro _ ⟨⟩
        exact ⟨config, List.mem_of_find?_eq_some hfind, by simpa using List.find?_some hfind,
          hcurrent⟩
      · refine .inr ⟨rfl, id, rfl, fun config' hfind' => ?_⟩
        rw [hfind] at hfind'
        cases hfind'
        exact hcurrent

namespace Worker

/-- `_service_toggle_lock` is held. -/
def HoldsLock : Worker Extra → Prop
  | clearing .. | initializing .. => True
  | _ => False

instance (worker : Worker Extra) : Decidable worker.HoldsLock := by
  cases worker <;> unfold HoldsLock <;> infer_instance

/-- The update that the worker applies. -/
def data? : Worker Extra → Option (ServiceConfigUpdate Extra)
  | waiting _ data | clearing _ data | initializing _ data => some data
  | _ => none

def jobId? : Worker Extra → Option Nat
  | idle => none
  | task jobId | waiting jobId _ | clearing jobId _ | initializing jobId _ | ended jobId _ =>
    some jobId

end Worker

/-- `complete_background_job` or `fail_background_job`. -/
def finishJob (jobId : Nat) (error : Option String) (now : Nat)
    (jobs : List (BackgroundJob (Field Extra))) : List (BackgroundJob (Field Extra)) :=
  match error with
  | none => completeJob jobId (payloadOf jobId jobs) now jobs
  | some error => failJob jobId error now jobs

namespace System

variable (reader : ExtraReader Extra) (s : System Extra)

/-! ## What comes out of a request or of the worker's turn -/

def upserted (data : ServiceConfigUpdate Extra) (configs : List (ServiceConfig Extra)) :
    System Extra :=
  { s with configs := configs, saving := some (.upserted data (mainSwitched s.configs data)) }

def announced (configId : Nat) (data : ServiceConfigUpdate Extra) (triggerResync : Bool)
    (now : Nat) : System Extra :=
  { s with
    jobs := enqueueJob (toggleRequest data configId triggerResync now) s.jobs
    saving := none }

def deleted (config : ServiceConfig Extra) (now : Nat) : System Extra :=
  { s with
    configs := s.configs.filter (·.id ≠ config.id)
    jobs := cancelPending (toggleKey config.id) "Service configuration deleted" now s.jobs
    deletions := s.deletions ++ [(config.serviceType, config.id)] }

/-- `clear_deleted_service_runtime`. -/
def clearDeleted (service : Service) (configId : Nat) : System Extra :=
  { s with
    manager := clearServiceRuntime s.manager service (some configId)
    deletions := s.deletions.erase (service, configId) }

def cleared (jobId : Nat) (data : ServiceConfigUpdate Extra) : System Extra :=
  { s with
    manager := clearServiceRuntime s.manager data.serviceType data.id
    worker := if data.enabled then .initializing jobId data else .ended jobId none }

def start (healthy : Nat → Bool) (now : Nat) : System Extra :=
  match loadEnabledServices reader s.configs healthy with
  | none => { configs := s.configs, jobs := s.jobs }
  | some manager =>
    { configs := s.configs
      jobs := failRunning now s.jobs
      manager := manager
      up := true }

/-- `set_service_settings`, up to the commit of its upsert. -/
def save (data : ServiceConfigUpdate Extra) (reachable : Bool) : System Extra :=
  match checkSave reader s.configs data reachable with
  | .error _ => s
  | .ok data =>
    match upsertServiceConfig s.configs data with
    | none => s
    | some configs => s.upserted data configs

/-- `saved_config_result.scalar_one()`. -/
def findSaved (data : ServiceConfigUpdate Extra) (triggerResync : Bool) : System Extra :=
  match scalarOneOrNone (data.found s.configs) with
  | .ok (some config) => { s with saving := some (.found config.id data triggerResync) }
  | _ => { s with saving := none }

/-- `delete_service_settings`, up to its commit. -/
def delete (configId now : Nat) : System Extra :=
  match checkDelete s.configs configId with
  | .error _ => s
  | .ok config => s.deleted config now

def claim (workerId : String) (now : Nat) : System Extra :=
  match nextJobId? (some workerJobTypes) now s.jobs with
  | none => s
  | some jobId =>
    let jobs := claimJob workerId now jobId s.jobs
    { s with jobs := jobs, worker := ((findJob jobId jobs).map startJob).getD .idle }

/-- The client of an enabled service is made, and its health check answers. -/
def connect (jobId : Nat) (data : ServiceConfigUpdate Extra) (healthy : Bool) : System Extra :=
  match initializeService reader s.manager data healthy with
  | none => { s with worker := .ended jobId (some "ValueError") }
  | some manager => { s with manager := manager, worker := .ended jobId none }

def step : Event Extra → Option (System Extra)
  | .start healthy now => some (s.start reader healthy now)
  | .save data reachable =>
    if s.up ∧ s.saving.isNone then some (s.save reader data reachable) else none
  | .findSaved =>
    match s.saving with
    | some (.upserted data triggerResync) => some (s.findSaved data triggerResync)
    | _ => none
  | .enqueueSaved now =>
    match s.saving with
    | some (.found configId data triggerResync) =>
      some (s.announced configId data triggerResync now)
    | _ => none
  | .delete configId now => if s.up then some (s.delete configId now) else none
  | .clearDeleted service configId =>
    if (service, configId) ∈ s.deletions ∧ ¬s.worker.HoldsLock then
      some (s.clearDeleted service configId)
    else none
  | .enqueue request =>
    if s.up ∧ IsOther request then some { s with jobs := enqueueJob request s.jobs } else none
  | .trim jobIds => if s.up then some { s with jobs := s.jobs.filter (·.id ∉ jobIds) } else none
  | .claim workerId now =>
    match s.worker with
    | .idle => if s.up then some (s.claim workerId now) else none
    | _ => none
  | .endTask error =>
    match s.worker with
    | .task jobId => some { s with worker := .ended jobId error }
    | _ => none
  | .check =>
    match s.worker with
    | .waiting jobId data => some { s with worker := checkToggle s.configs jobId data }
    | _ => none
  | .clear =>
    match s.worker with
    | .clearing jobId data => some (s.cleared jobId data)
    | _ => none
  | .connect healthy =>
    match s.worker with
    | .initializing jobId data => some (s.connect reader jobId data healthy)
    | _ => none
  | .finish now =>
    match s.worker with
    | .ended jobId error =>
      some { s with jobs := finishJob jobId error now s.jobs, worker := .idle }
    | _ => none

abbrev run (events : List (Event Extra)) : Option (System Extra) := Runs.run (step reader) s events

/-! ## What a statement does -/

/-- The statements that come about, and the state after each. -/
inductive Does : Event Extra → System Extra → Prop where
  /-- A request is refused. -/
  | refuse (event) : Does event s
  | startDown (healthy now) :
    Does (.start healthy now) { configs := s.configs, jobs := s.jobs }
  | startUp (healthy now) {manager}
    (hload : loadEnabledServices reader s.configs healthy = some manager) :
    Does (.start healthy now)
      { configs := s.configs, jobs := failRunning now s.jobs, manager := manager, up := true }
  | save (data reachable) {written configs} (hsaving : s.saving = none)
    (hcheck : checkSave reader s.configs data reachable = .ok written)
    (hupsert : upsertServiceConfig s.configs written = some configs) :
    Does (.save data reachable) (s.upserted written configs)
  | findSaved {data triggerResync config} (hsaving : s.saving = some (.upserted data triggerResync))
    (hfound : data.found s.configs = [config]) :
    Does .findSaved { s with saving := some (.found config.id data triggerResync) }
  | loseSaved {data triggerResync} (hsaving : s.saving = some (.upserted data triggerResync))
    (hfound : ∀ config, data.found s.configs ≠ [config]) :
    Does .findSaved { s with saving := none }
  | enqueueSaved (now) {configId data triggerResync}
    (hsaving : s.saving = some (.found configId data triggerResync)) :
    Does (.enqueueSaved now) (s.announced configId data triggerResync now)
  | delete (now) {config} (hconfig : config ∈ s.configs) :
    Does (.delete config.id now) (s.deleted config now)
  | clearDeleted {service configId} (hdeletion : (service, configId) ∈ s.deletions)
    (hlock : ¬s.worker.HoldsLock) :
    Does (.clearDeleted service configId) (s.clearDeleted service configId)
  | enqueue {request} (hother : IsOther request) :
    Does (.enqueue request) { s with jobs := enqueueJob request s.jobs }
  | trim (jobIds) : Does (.trim jobIds) { s with jobs := s.jobs.filter (·.id ∉ jobIds) }
  | claim (workerId now) (hworker : s.worker = .idle) :
    Does (.claim workerId now) (s.claim workerId now)
  | endTask (error) {jobId} (hworker : s.worker = .task jobId) :
    Does (.endTask error) { s with worker := .ended jobId error }
  | check {jobId data} (hworker : s.worker = .waiting jobId data) :
    Does .check { s with worker := checkToggle s.configs jobId data }
  | clear {jobId data} (hworker : s.worker = .clearing jobId data) :
    Does .clear (s.cleared jobId data)
  | failConnect (healthy) {jobId data} (hworker : s.worker = .initializing jobId data)
    (hfails : initializeService reader s.manager data healthy = none) :
    Does (.connect healthy) { s with worker := .ended jobId (some "ValueError") }
  | connect (healthy) {jobId data manager} (hworker : s.worker = .initializing jobId data)
    (hinitializes : initializeService reader s.manager data healthy = some manager) :
    Does (.connect healthy) { s with manager := manager, worker := .ended jobId none }
  | finish (now) {jobId error} (hworker : s.worker = .ended jobId error) :
    Does (.finish now) { s with jobs := finishJob jobId error now s.jobs, worker := .idle }

/-- An update that is still applied after the clearing is that of an enabled service. -/
theorem of_cleared {s : System Extra} {jobId : Nat} {data update : ServiceConfigUpdate Extra}
    (h : (s.cleared jobId data).worker.data? = some update) : data = update ∧ data.enabled = true := by
  dsimp only [cleared] at h
  split_ifs at h with henabled
  · exact ⟨Option.some.inj h, henabled⟩
  · cases h

theorem does_save (data : ServiceConfigUpdate Extra) (reachable : Bool)
    (hsaving : s.saving = none) :
    Does reader s (.save data reachable) (s.save reader data reachable) := by
  rw [save]
  cases hcheck : checkSave reader s.configs data reachable with
  | error e => exact .refuse _
  | ok written =>
    dsimp only
    cases hupsert : upsertServiceConfig s.configs written with
    | none => exact .refuse _
    | some configs => exact .save data reachable hsaving hcheck hupsert

theorem does_findSaved {data : ServiceConfigUpdate Extra} {triggerResync : Bool}
    (hsaving : s.saving = some (.upserted data triggerResync)) :
    Does reader s .findSaved (s.findSaved data triggerResync) := by
  rw [findSaved]
  cases hfound : data.found s.configs with
  | nil => exact .loseSaved hsaving (by simp [hfound])
  | cons config rest =>
    cases rest with
    | nil => exact .findSaved hsaving hfound
    | cons other rest => exact .loseSaved hsaving (by simp [hfound])

theorem does_delete (configId now : Nat) :
    Does reader s (.delete configId now) (s.delete configId now) := by
  rw [delete, checkDelete]
  cases hfind : s.configs.find? (·.id = configId) with
  | none => exact .refuse _
  | some config =>
    dsimp only
    obtain rfl : config.id = configId := by simpa using List.find?_some hfind
    by_cases hmain : config.serviceType ∈ mediaServers ∧ config.isMain
    · rw [if_pos hmain]
      exact .refuse _
    · rw [if_neg hmain]
      exact .delete now (List.mem_of_find?_eq_some hfind)

theorem does_start (healthy : Nat → Bool) (now : Nat) :
    Does reader s (.start healthy now) (s.start reader healthy now) := by
  rw [start]
  cases hload : loadEnabledServices reader s.configs healthy with
  | none => exact .startDown healthy now
  | some manager => exact .startUp healthy now hload

theorem does_connect (healthy : Bool) {jobId : Nat} {data : ServiceConfigUpdate Extra}
    (hworker : s.worker = .initializing jobId data) :
    Does reader s (.connect healthy) (s.connect reader jobId data healthy) := by
  rw [connect]
  cases hmade : initializeService reader s.manager data healthy with
  | none => exact .failConnect healthy hworker hmade
  | some manager => exact .connect healthy hworker hmade

theorem does_of_step {event : Event Extra} {s' : System Extra} (h : s.step reader event = some s') :
    Does reader s event s' := by
  cases event with
  | start healthy now =>
    cases h
    exact s.does_start reader healthy now
  | save data reachable =>
    obtain ⟨⟨-, hsaving⟩, hs'⟩ := Option.ite_none_right_eq_some.mp h
    cases hs'
    exact s.does_save reader data reachable (Option.isNone_iff_eq_none.mp hsaving)
  | delete configId now =>
    obtain ⟨-, hs'⟩ := Option.ite_none_right_eq_some.mp h
    cases hs'
    exact s.does_delete reader configId now
  | clearDeleted service configId =>
    obtain ⟨⟨hdeletion, hlock⟩, hs'⟩ := Option.ite_none_right_eq_some.mp h
    cases hs'
    exact .clearDeleted hdeletion hlock
  | enqueue request =>
    obtain ⟨⟨-, hother⟩, hs'⟩ := Option.ite_none_right_eq_some.mp h
    cases hs'
    exact .enqueue hother
  | trim jobIds =>
    obtain ⟨-, hs'⟩ := Option.ite_none_right_eq_some.mp h
    cases hs'
    exact .trim jobIds
  | claim workerId now =>
    simp only [step] at h
    split at h
    case h_1 hworker =>
      obtain ⟨-, hs'⟩ := Option.ite_none_right_eq_some.mp h
      cases hs'
      exact .claim workerId now hworker
    · cases h
  | findSaved =>
    simp only [step] at h
    split at h
    case h_1 data triggerResync hsaving =>
      cases h
      exact s.does_findSaved reader hsaving
    · cases h
  | enqueueSaved now =>
    simp only [step] at h
    split at h
    case h_1 hsaving =>
      cases h
      exact .enqueueSaved now hsaving
    · cases h
  | endTask error =>
    simp only [step] at h
    split at h
    case h_1 hworker =>
      cases h
      exact .endTask error hworker
    · cases h
  | check =>
    simp only [step] at h
    split at h
    case h_1 hworker =>
      cases h
      exact .check hworker
    · cases h
  | clear =>
    simp only [step] at h
    split at h
    case h_1 hworker =>
      cases h
      exact .clear hworker
    · cases h
  | connect healthy =>
    simp only [step] at h
    split at h
    case h_1 hworker =>
      cases h
      exact s.does_connect reader healthy hworker
    · cases h
  | finish now =>
    simp only [step] at h
    split at h
    case h_1 hworker =>
      cases h
      exact .finish now hworker
    · cases h

end System

end MediaMasterr.Services
