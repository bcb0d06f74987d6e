import MediaMasterr.Services.SavedRows

/-! # Rows on their way

A row that was saved is on its way to the manager while its save or a toggle that waits has it.
What is kept of the saves, the toggles and the worker, as long as no start cuts a save short, no
save moves a row to another service, and only jobs that have ended are trimmed. -/

namespace MediaMasterr.Services

open MediaMasterr.Database MediaMasterr.Foundations MediaMasterr.Jobs

variable {Extra : Type}

def Saving.data : Saving Extra → ServiceConfigUpdate Extra
  | .upserted data _ | .found _ data _ => data

/-- A save that is on its way has the row. -/
def InFlight (saving : Option (Saving Extra)) (config : ServiceConfig Extra) : Prop :=
  match saving with
  | none => False
  | some (.upserted data _) => data.Finds config
  | some (.found configId _ _) => config.id = configId

/-- A toggle that waits describes the row. -/
def Announced (jobs : List (BackgroundJob (Field Extra))) (config : ServiceConfig Extra) : Prop :=
  ∃ job payload, Waits jobs job ∧ Names job payload config.id ∧ payload.update.Describes config

def Coming (s : System Extra) (config : ServiceConfig Extra) : Prop :=
  InFlight s.saving config ∨ Announced s.jobs config

/-- The events that the results below are about. -/
def Orderly (s : System Extra) : Event Extra → Prop
  | .start _ _ => s.saving = none
  | .save data _ => ∀ id, data.id = some id → ∀ config ∈ s.configs, config.id = id →
      config.serviceType = data.serviceType
  | .trim jobIds => ∀ job ∈ s.jobs, job.id ∈ jobIds → job.status.IsFinal
  | _ => True

variable {s s' : System Extra} {config : ServiceConfig Extra} {data : ServiceConfigUpdate Extra}
  {triggerResync : Bool} {configId : Nat}

theorem hasStatus_enqueueJob {jobs : List (BackgroundJob (Field Extra))} {jobId : Nat}
    (h : HasStatus .running jobId jobs) (request : EnqueueRequest (Field Extra)) :
    HasStatus .running jobId (enqueueJob request jobs) := by
  rw [enqueueJob]
  split_ifs
  · exact h
  · exact (evolves_enqueue (fun _ => False) request jobs).hasStatus_running id h

theorem hasStatus_cancelPending {jobs : List (BackgroundJob (Field Extra))} {jobId : Nat}
    (h : HasStatus .running jobId jobs) (key error : String) (now : Nat) :
    HasStatus .running jobId (cancelPending key error now jobs) :=
  (evolves_cancelPending (fun _ => False) key error now jobs).hasStatus_running id h

structure OnTheWay (s : System Extra) : Prop where
  keyed : Keyed s.configs
  saving : ∀ saving, s.saving = some saving → ∀ config ∈ s.configs,
    config.serviceType ∈ arrServices → InFlight s.saving config → saving.data.Describes config
  waiting : ∀ job payload, Waits s.jobs job → ∀ config ∈ s.configs,
    config.serviceType ∈ arrServices → Names job payload config.id →
      payload.update.Describes config ∨ InFlight s.saving config
  worker : ∀ data, s.worker.data? = some data → ∀ config ∈ s.configs,
    config.serviceType ∈ arrServices → data.id = some config.id →
      data.Describes config ∨ Coming s config
  running : ∀ jobId, s.worker.jobId? = some jobId →
    HasStatus .running jobId s.jobs ∧ ∀ job, Waits s.jobs job → job.id ≠ jobId
  enabled : ∀ jobId data, s.worker = .initializing jobId data → data.enabled = true

theorem onTheWay_new : OnTheWay ({} : System Extra) where
  keyed := ⟨List.nodup_nil, List.nodup_nil⟩
  saving _ h := by cases h
  waiting _ _ h := absurd h.1 List.not_mem_nil
  worker _ h := by cases h
  running _ h := by cases h
  enabled _ _ h := by cases h

theorem toggleKey_injective {id id' : Nat} (h : toggleKey id = toggleKey id') : id = id' :=
  PythonText.repr_injective (PythonText.append_cancel h)

theorem Names.eq {job : BackgroundJob (Field Extra)}
    {payload payload' : ServiceToggleJobPayload Extra} {id id' : Nat} (h : Names job payload id)
    (h' : Names job payload' id') :
    payload = payload' ∧ id = id' :=
  ⟨Option.some.inj (h.validates.symm.trans h'.validates),
    toggleKey_injective (Option.some.inj (h.key.symm.trans h'.key))⟩

theorem Names.key_ne_iff {job : BackgroundJob (Field Extra)}
    {payload : ServiceToggleJobPayload Extra} {id configId : Nat} (h : Names job payload id) :
    job.dedupeKey ≠ some (toggleKey configId) ↔ id ≠ configId := by
  rw [h.key]
  exact not_congr ⟨fun heq => toggleKey_injective (Option.some.inj heq), fun heq => heq ▸ rfl⟩

theorem names_toggleRequest (data : ServiceConfigUpdate Extra) (configId : Nat)
    (triggerResync : Bool) (now id : Nat) :
    Names ((toggleRequest data configId triggerResync now).job id)
      (togglePayload data configId triggerResync) configId where
  validates := ServiceToggleJobPayload.modelValidate_modelDump _
  named := rfl
  key := rfl

theorem describes_togglePayload (h : data.Describes config) :
    (togglePayload data configId triggerResync).update.Describes config := by
  obtain ⟨⟨htype, henabled, hurl, hmain, hkey⟩, hextra⟩ := h
  refine ⟨⟨htype, henabled, hurl, hmain, congrArg some ?_⟩, hextra⟩
  change data.apiKey.getD "" = _
  rw [hkey, Option.getD_some]

theorem Coming.mono (h : Coming s config)
    (hsaving : InFlight s.saving config → Coming s' config)
    (hwaits : ∀ job payload, Waits s.jobs job → Names job payload config.id → Waits s'.jobs job) :
    Coming s' config := by
  rcases h with hflight | ⟨job, payload, hjob, hnames, hdescribes⟩
  · exact hsaving hflight
  · exact .inr ⟨job, payload, hwaits job payload hjob hnames, hnames, hdescribes⟩

namespace OnTheWay

variable (h : OnTheWay s)

include h

/-- Neither the rows, the saves nor the toggles that wait change. -/
theorem of_same (hconfigs : s'.configs = s.configs) (hsaving : s'.saving = s.saving)
    (hwaits : ∀ job, Waits s'.jobs job ↔ Waits s.jobs job)
    (hdata : ∀ data, s'.worker.data? = some data → s.worker.data? = some data)
    (hjobId : ∀ jobId, s'.worker.jobId? = some jobId → s.worker.jobId? = some jobId ∧
      (HasStatus .running jobId s.jobs → HasStatus .running jobId s'.jobs))
    (henabled : ∀ jobId data, s'.worker = .initializing jobId data → data.enabled = true) :
    OnTheWay s' where
  keyed := hconfigs ▸ h.keyed
  saving := by
    rw [hconfigs, hsaving]
    exact h.saving
  waiting job payload hjob := by
    rw [hconfigs, hsaving]
    exact h.waiting job payload ((hwaits job).mp hjob)
  worker data hworker config hconfig harr hid := by
    rw [hconfigs] at hconfig
    refine (h.worker data (hdata data hworker) config hconfig harr hid).imp_right fun hcoming => ?_
    exact hcoming.mono (fun hflight => .inl (hsaving ▸ hflight)) fun job _ hjob _ =>
      (hwaits job).mpr hjob
  running jobId hworker := by
    obtain ⟨hold, hruns⟩ := hjobId jobId hworker
    obtain ⟨hrow, hother⟩ := h.running jobId hold
    exact ⟨hruns hrow, fun job hjob => hother job ((hwaits job).mp hjob)⟩
  enabled := henabled

/-- A new process has no save and no job on its way. -/
theorem restart (hsaving : s.saving = none) (hconfigs : s'.configs = s.configs)
    (hsaving' : s'.saving = none) (hworker : s'.worker = .idle)
    (hwaits : ∀ job, Waits s'.jobs job ↔ Waits s.jobs job) : OnTheWay s' := by
  refine h.of_same hconfigs (hsaving'.trans hsaving.symm) hwaits ?_ ?_ ?_
  · rw [hworker]
    exact fun _ hdata => by cases hdata
  · rw [hworker]
    exact fun _ hdata => by cases hdata
  · rw [hworker]
    exact fun _ _ hdata => by cases hdata

/-- The upsert of a save. -/
theorem upserted {configs : List (ServiceConfig Extra)} (hsaving : s.saving = none)
    (hupserted : Upserted data s.configs configs) : OnTheWay (s.upserted data configs) where
  keyed := hupserted.keyed
  saving := by
    rintro _ ⟨⟩ config hconfig harr hflight
    exact ((hupserted.rows config hconfig harr).resolve_right fun hnot => hnot.1 hflight).2
  waiting job payload hjob config hconfig harr hnames := by
    rcases hupserted.rows config hconfig harr with ⟨hfinds, -⟩ | ⟨-, hold⟩
    · exact .inr hfinds
    · refine (h.waiting job payload hjob config hold harr hnames).imp_right fun hflight => ?_
      rw [hsaving] at hflight
      exact hflight.elim
  worker update hworker config hconfig harr hid := by
    rcases hupserted.rows config hconfig harr with ⟨hfinds, -⟩ | ⟨-, hold⟩
    · exact .inr (.inl hfinds)
    · refine (h.worker update hworker config hold harr hid).imp_right fun hcoming => ?_
      refine hcoming.mono (fun hflight => ?_) fun _ _ hjob _ => hjob
      rw [hsaving] at hflight
      exact hflight.elim
  running := h.running
  enabled := h.enabled

/-- The save goes on, or loses its row. -/
theorem advanceSaving {saving : Option (Saving Extra)}
    (hflight : ∀ config ∈ s.configs, config.serviceType ∈ arrServices →
      (InFlight s.saving config ↔ InFlight saving config))
    (hdata : ∀ next, saving = some next → ∃ last, s.saving = some last ∧ last.data = next.data) :
    OnTheWay { s with saving := saving } where
  keyed := h.keyed
  saving next hnext config hconfig harr hin := by
    obtain ⟨last, hlast, hsame⟩ := hdata next hnext
    exact hsame ▸ h.saving last hlast config hconfig harr ((hflight config hconfig harr).mpr hin)
  waiting job payload hjob config hconfig harr hnames :=
    (h.waiting job payload hjob config hconfig harr hnames).imp_right
      (hflight config hconfig harr).mp
  worker update hworker config hconfig harr hid := by
    refine (h.worker update hworker config hconfig harr hid).imp_right fun hcoming => ?_
    exact hcoming.mono (fun hin => .inl ((hflight config hconfig harr).mp hin))
      fun _ _ hjob _ => hjob
  running := h.running
  enabled := h.enabled

theorem inFlight_findSaved {found : ServiceConfig Extra} (hsaving : s.saving = some (.upserted data triggerResync))
    (hfound : data.found s.configs = [found]) (config : ServiceConfig Extra)
    (hconfig : config ∈ s.configs) :
    InFlight s.saving config ↔ InFlight (some (.found found.id data triggerResync)) config := by
  have hmem : found ∈ s.configs ∧ data.Finds found := by
    have hmem : found ∈ data.found s.configs := hfound ▸ List.mem_singleton_self found
    rw [ServiceConfigUpdate.found, List.mem_filter, decide_eq_true_eq] at hmem
    exact hmem
  rw [hsaving]
  constructor
  · intro hfinds
    have hconfig' : config ∈ data.found s.configs :=
      List.mem_filter.mpr ⟨hconfig, decide_eq_true hfinds⟩
    rw [hfound, List.mem_singleton] at hconfig'
    exact congrArg ServiceConfig.id hconfig'
  · intro hid
    rw [h.keyed.eq_of_id hconfig hmem.1 hid]
    exact hmem.2

theorem not_inFlight_of_lost (hsaving : s.saving = some (.upserted data triggerResync))
    (hfound : ∀ config, data.found s.configs ≠ [config]) (config : ServiceConfig Extra)
    (hconfig : config ∈ s.configs) (harr : config.serviceType ∈ arrServices) :
    ¬InFlight s.saving config := by
  rw [hsaving]
  exact fun hfinds => hfound config (h.keyed.found_eq_singleton hconfig harr hfinds)

theorem findSaved (hsaving : s.saving = some (.upserted data triggerResync))
    (hfound : data.found s.configs = [config]) :
    OnTheWay { s with saving := some (.found config.id data triggerResync) } := by
  refine h.advanceSaving (fun other hother _ => h.inFlight_findSaved hsaving hfound other hother)
    fun next hnext => ?_
  cases hnext
  exact ⟨_, hsaving, rfl⟩

theorem loseSaved (hsaving : s.saving = some (.upserted data triggerResync))
    (hfound : ∀ config, data.found s.configs ≠ [config]) : OnTheWay { s with saving := none } :=
  h.advanceSaving (fun config hconfig harr =>
    iff_of_false (h.not_inFlight_of_lost hsaving hfound config hconfig harr) id)
    fun _ hnext => by cases hnext

theorem describes_of_found (hsaving : s.saving = some (.found configId data triggerResync))
    (config : ServiceConfig Extra) (hconfig : config ∈ s.configs)
    (harr : config.serviceType ∈ arrServices) (hid : config.id = configId) :
    (togglePayload data configId triggerResync).update.Describes config := by
  refine describes_togglePayload (h.saving _ hsaving config hconfig harr ?_)
  rw [hsaving]
  exact hid

/-- A row on its way stays so when the toggle of the save is queued. -/
theorem announced_of_coming (now : Nat)
    (hsaving : s.saving = some (.found configId data triggerResync))
    (config : ServiceConfig Extra) (hconfig : config ∈ s.configs)
    (harr : config.serviceType ∈ arrServices) (hcoming : Coming s config) :
    Announced (enqueueJob (toggleRequest data configId triggerResync now) s.jobs) config := by
  obtain ⟨id, -, hwaits⟩ := waits_enqueueJob_toggleRequest s.jobs data configId triggerResync now
  by_cases hsame : config.id = configId
  · refine ⟨_, _, (hwaits _).mpr (.inr rfl), ?_,
      h.describes_of_found hsaving config hconfig harr hsame⟩
    rw [hsame]
    exact names_toggleRequest data configId triggerResync now id
  · rcases hcoming with hflight | ⟨job, payload, hjob, hnamed, hdescribed⟩
    · rw [hsaving] at hflight
      exact absurd hflight hsame
    · exact ⟨job, payload, (hwaits job).mpr (.inl ⟨hjob, hnamed.key_ne_iff.mpr hsame⟩), hnamed,
        hdescribed⟩

/-- The toggle of the save is queued. -/
theorem announced (now : Nat)
    (hsaving : s.saving = some (.found configId data triggerResync)) :
    OnTheWay (s.announced configId data triggerResync now) := by
  obtain ⟨id, hlt, hwaits⟩ :=
    waits_enqueueJob_toggleRequest s.jobs data configId triggerResync now
  exact {
    keyed := h.keyed
    saving := fun _ hnone => by cases hnone
    waiting := fun job payload hjob config hconfig harr hnamed => by
      refine .inl ?_
      rcases (hwaits job).mp hjob with ⟨hjob, hkey⟩ | rfl
      · refine (h.waiting job payload hjob config hconfig harr hnamed).resolve_right
          fun hflight => ?_
        rw [hsaving] at hflight
        exact hnamed.key_ne_iff.mp hkey hflight
      · obtain ⟨rfl, hid⟩ := hnamed.eq (names_toggleRequest data configId triggerResync now id)
        exact h.describes_of_found hsaving config hconfig harr hid
    worker := fun update hworker config hconfig harr hid =>
      (h.worker update hworker config hconfig harr hid).imp_right fun hcoming =>
        .inr (h.announced_of_coming now hsaving config hconfig harr hcoming)
    running := fun jobId hworker => by
      obtain ⟨hrow, hother⟩ := h.running jobId hworker
      refine ⟨hasStatus_enqueueJob hrow (toggleRequest data configId triggerResync now),
        fun job hjob => ?_⟩
      rcases (hwaits job).mp hjob with ⟨hjob, -⟩ | rfl
      · exact hother job hjob
      · obtain ⟨row, hmem, hid, -⟩ := hrow
        exact Nat.ne_of_gt (hid ▸ hlt row hmem)
    enabled := h.enabled }

omit h in
theorem coming_deleted (now : Nat) {gone : ServiceConfig Extra} (hne : config.id ≠ gone.id)
    (hcoming : Coming s config) : Coming (s.deleted gone now) config :=
  hcoming.mono .inl fun _ _ hjob hnamed =>
    (waits_cancelPending _ _ _).mpr ⟨hjob, hnamed.key_ne_iff.mpr hne⟩

/-- A row is deleted, and its toggles are canceled. -/
theorem deleted (gone : ServiceConfig Extra) (now : Nat) : OnTheWay (s.deleted gone now) where
  keyed := h.keyed.filter _
  saving next hnext config hconfig := h.saving next hnext config (List.mem_of_mem_filter hconfig)
  waiting job payload hjob config hconfig :=
    h.waiting job payload ((waits_cancelPending _ _ _).mp hjob).1 config
      (List.mem_of_mem_filter hconfig)
  worker update hworker config hconfig harr hid := by
    obtain ⟨hmem, hne⟩ := List.mem_filter.mp hconfig
    refine (h.worker update hworker config hmem harr hid).imp_right fun hcoming => ?_
    exact coming_deleted now (of_decide_eq_true hne) hcoming
  running jobId hworker := by
    obtain ⟨hrow, hother⟩ := h.running jobId hworker
    exact ⟨hasStatus_cancelPending hrow _ _ _,
      fun job hjob => hother job ((waits_cancelPending _ _ _).mp hjob).1⟩
  enabled := h.enabled

theorem claim (hqueued : Queued s) (workerId : String) (now : Nat) :
    OnTheWay (s.claim workerId now) := by
  rcases claim_cases s hqueued.ids workerId now with heq | ⟨job, hjob, hpending, heq⟩
  · rw [heq]
    exact h
  rw [heq]
  have hrow : HasStatus .running job.id (claimJob workerId now job.id s.jobs) :=
    hasStatus_claimJob ⟨job, hjob, rfl, hpending⟩ workerId now
  have hwaits (job' : BackgroundJob (Field Extra))
      (hjob' : Waits (claimJob workerId now job.id s.jobs) job') :
      Waits s.jobs job' ∧ job'.id ≠ job.id := waits_claimJob.mp hjob'
  by_cases htype : job.jobType = .serviceToggle
  · obtain ⟨payload, configId, hnames⟩ := hqueued.waiting job ⟨hjob, hpending, htype⟩
    rw [startJob_of_names hnames htype]
    exact {
      keyed := h.keyed
      saving := h.saving
      waiting := fun job' payload hjob' => h.waiting job' payload (hwaits job' hjob').1
      worker := fun data hdata config hconfig harr hid => by
        cases hdata
        obtain rfl : configId = config.id := Option.some.inj (hnames.named.symm.trans hid)
        exact (h.waiting job payload ⟨hjob, hpending, htype⟩ config hconfig harr hnames).imp_right
          .inl
      running := fun jobId hjobId => by
        cases hjobId
        exact ⟨hrow, fun job' hjob' => (hwaits job' hjob').2⟩
      enabled := fun _ _ hworker => by cases hworker }
  · rw [startJob, if_neg htype]
    exact {
      keyed := h.keyed
      saving := h.saving
      waiting := fun job' payload hjob' => h.waiting job' payload (hwaits job' hjob').1
      worker := fun _ hdata => by cases hdata
      running := fun jobId hjobId => by
        cases hjobId
        exact ⟨hrow, fun job' hjob' => (hwaits job' hjob').2⟩
      enabled := fun _ _ hworker => by cases hworker }

theorem step {reader : ExtraReader Extra} {event : Event Extra} (hqueued : Queued s)
    (horderly : Orderly s event) (hstep : s.step reader event = some s') : OnTheWay s' := by
  cases s.does_of_step reader hstep with
  | refuse => exact h
  | startDown => exact h.restart horderly rfl rfl rfl fun _ => .rfl
  | startUp => exact h.restart horderly rfl rfl rfl fun _ => waits_failRunning
  | save data reachable hsaving hcheck hupsert =>
    obtain ⟨hid, hservice, -⟩ := eq_of_checkSave hcheck
    refine h.upserted hsaving (upserted_of_upsertServiceConfig h.keyed ?_ hupsert)
    rw [hid, hservice]
    exact horderly
  | findSaved hsaving hfound => exact h.findSaved hsaving hfound
  | loseSaved hsaving hfound => exact h.loseSaved hsaving hfound
  | enqueueSaved now hsaving => exact h.announced now hsaving
  | delete now => exact h.deleted _ now
  | clearDeleted =>
    exact h.of_same rfl rfl (fun _ => .rfl) (fun _ => id) (fun _ hid => ⟨hid, id⟩) h.enabled
  | enqueue hother =>
    exact h.of_same rfl rfl (fun _ => waits_enqueueJob_of_isOther hother hqueued.keys) (fun _ => id)
      (fun _ hid => ⟨hid, fun hrow => hasStatus_enqueueJob hrow _⟩) h.enabled
  | trim jobIds =>
    refine h.of_same rfl rfl (fun job => ?_) (fun _ => id) (fun _ hid => ⟨hid, ?_⟩) h.enabled
    · refine waits_filter.trans ⟨And.left, fun hwaits => ⟨hwaits, decide_eq_true fun hmem => ?_⟩⟩
      have hfinal := horderly job hwaits.1 hmem
      rw [hwaits.2.1] at hfinal
      exact hfinal
    · rintro ⟨job, hjob, hrow, hstatus⟩
      refine ⟨job, List.mem_filter.mpr ⟨hjob, decide_eq_true fun hmem => ?_⟩, hrow, hstatus⟩
      have hfinal := horderly job hjob hmem
      rw [hstatus] at hfinal
      exact hfinal
  | claim workerId now => exact h.claim hqueued workerId now
  | endTask error hworker =>
    refine h.of_same rfl rfl (fun _ => .rfl) (fun _ hdata => by cases hdata) (fun jobId hid => ?_)
      fun _ _ hinit => by cases hinit
    rw [hworker]
    exact ⟨hid, id⟩
  | check hworker =>
    rcases checkToggle_cases s.configs _ _ with ⟨heq, -⟩ | ⟨heq, -⟩ <;> rw [heq]
    · refine h.of_same rfl rfl (fun _ => .rfl) ?_ ?_ fun _ _ hinit => by cases hinit
      · rw [hworker]
        exact fun _ => id
      · rw [hworker]
        exact fun _ hid => ⟨hid, id⟩
    · refine h.of_same rfl rfl (fun _ => .rfl) (fun _ hdata => by cases hdata) ?_
        fun _ _ hinit => by cases hinit
      rw [hworker]
      exact fun _ hid => ⟨hid, id⟩
  | clear hworker =>
    refine h.of_same rfl rfl (fun _ => .rfl) (fun data hdata => ?_) (fun jobId hid => ?_)
      fun jobId data hinit => ?_
    · rw [hworker, Worker.data?, (System.of_cleared hdata).1]
    · dsimp only [System.cleared] at hid
      rw [hworker]
      split_ifs at hid <;> exact ⟨hid, id⟩
    · obtain ⟨rfl, henabled⟩ := System.of_cleared (congrArg Worker.data? hinit)
      exact henabled
  | failConnect healthy hworker =>
    refine h.of_same rfl rfl (fun _ => .rfl) (fun _ hdata => by cases hdata) (fun jobId hid => ?_)
      fun _ _ hinit => by cases hinit
    rw [hworker]
    exact ⟨hid, id⟩
  | connect healthy hworker =>
    refine h.of_same rfl rfl (fun _ => .rfl) (fun _ hdata => by cases hdata) (fun jobId hid => ?_)
      fun _ _ hinit => by cases hinit
    rw [hworker]
    exact ⟨hid, id⟩
  | finish now hworker =>
    refine h.of_same rfl rfl (fun job => ?_) (fun _ hdata => by cases hdata)
      (fun _ hid => by cases hid) fun _ _ hinit => by cases hinit
    refine waits_finishJob.trans ⟨And.left, fun hwaits => ⟨hwaits, ?_⟩⟩
    exact (h.running _ (congrArg Worker.jobId? hworker)).2 job hwaits

end OnTheWay

end MediaMasterr.Services
