import MediaMasterr.Services.OnTheWay

/-! # The runtime follows the settings

Once nothing of a configuration is on its way any more, the Radarr or Sonarr client of its id
belongs to a row that is there, enabled and asks for its connection. -/

namespace MediaMasterr.Services

open MediaMasterr.Database MediaMasterr.Foundations MediaMasterr.Jobs

variable {Extra : Type} {reader : ExtraReader Extra} {s s' : System Extra} {event : Event Extra}
  {data : ServiceConfigUpdate Extra} {jobId configId now : Nat} {service : Service}
  {connection : Connection} {worker : Worker Extra} {manager : ServiceManager}

/-- The worker has the row's update and has not cleared the manager for it. -/
def BeforeClear (worker : Worker Extra) (config : ServiceConfig Extra) : Prop :=
  ∃ jobId data, (worker = .waiting jobId data ∨ worker = .clearing jobId data) ∧
    data.id = some config.id ∧ data.Describes config

/-- A row on its way stays so, or comes to the worker. -/
theorem Coming.step {config : ServiceConfig Extra} (h : OnTheWay s) (hqueued : Queued s)
    (horderly : Orderly s event) (hstep : s.step reader event = some s')
    (hold : config ∈ s.configs) (hnew : config ∈ s'.configs)
    (harr : config.serviceType ∈ arrServices) (hcoming : Coming s config) :
    Coming s' config ∨ BeforeClear s'.worker config := by
  have hnone (hsaving : s.saving = none) : Announced s.jobs config := by
    refine hcoming.resolve_left fun hflight => ?_
    rw [hsaving] at hflight
    exact hflight
  have hwaits {jobs : List (BackgroundJob (Field Extra))}
      (hkept : ∀ job payload, Waits s.jobs job → Names job payload config.id → Waits jobs job)
      (hannounced : Announced s.jobs config) : Announced jobs config := by
    obtain ⟨job, payload, hjob, hnamed, hdescribes⟩ := hannounced
    exact ⟨job, payload, hkept job payload hjob hnamed, hnamed, hdescribes⟩
  cases s.does_of_step reader hstep with
  | refuse => exact .inl hcoming
  | startDown => exact .inl (.inr (hnone horderly))
  | startUp =>
    exact .inl (.inr (hwaits (fun _ _ hjob _ => waits_failRunning.mpr hjob) (hnone horderly)))
  | save data reachable hsaving => exact .inl (.inr (hnone hsaving))
  | findSaved hsaving hfound =>
    exact .inl (hcoming.imp_left (h.inFlight_findSaved hsaving hfound config hold).mp)
  | loseSaved hsaving hfound =>
    have hnot := h.not_inFlight_of_lost hsaving hfound config hold harr
    exact .inl (.inr (hcoming.resolve_left hnot))
  | enqueueSaved now hsaving =>
    exact .inl (.inr (h.announced_of_coming now hsaving config hold harr hcoming))
  | delete now =>
    have hne := of_decide_eq_true (List.mem_filter.mp hnew).2
    exact .inl (OnTheWay.coming_deleted now hne hcoming)
  | enqueue hother =>
    exact .inl (hcoming.imp_right (hwaits fun _ _ hjob _ =>
      (waits_enqueueJob_of_isOther hother hqueued.keys).mpr hjob))
  | trim jobIds =>
    refine .inl (hcoming.imp_right (hwaits fun job _ hjob _ => waits_filter.mpr ⟨hjob, ?_⟩))
    refine decide_eq_true fun hmem => ?_
    have hfinal := horderly job hjob.1 hmem
    rw [hjob.2.1] at hfinal
    exact hfinal
  | claim workerId now =>
    rcases claim_cases s hqueued.ids workerId now with heq | ⟨job, hmem, hpending, heq⟩
    · rw [heq]
      exact .inl hcoming
    · rw [heq]
      rcases hcoming with hflight | ⟨job', payload, hjob, hnamed, hdescribes⟩
      · exact .inl (.inl hflight)
      · by_cases hsame : job'.id = job.id
        · obtain rfl := List.inj_on_of_nodup_map hqueued.ids hjob.1 hmem hsame
          rw [startJob_of_names hnamed hjob.2.2]
          exact .inr ⟨_, _, .inl rfl, hnamed.named, hdescribes⟩
        · exact .inl (.inr ⟨job', payload, waits_claimJob.mpr ⟨hjob, hsame⟩, hnamed, hdescribes⟩)
  | finish now hworker =>
    refine .inl (hcoming.imp_right (hwaits fun job _ hjob _ => waits_finishJob.mpr ⟨hjob, ?_⟩))
    exact (h.running _ (congrArg Worker.jobId? hworker)).2 job hjob
  | _ => exact .inl hcoming

/-! ## Steps beside the manager -/

/-- The events that neither touch the manager nor the table. -/
def Event.IsQuiet : Event Extra → Prop
  | .findSaved | .enqueueSaved _ | .enqueue _ | .trim _ | .claim .. | .endTask _ | .check
  | .finish _ => True
  | _ => False

/-- The row of an id belongs to the service. -/
def HasRow (configs : List (ServiceConfig Extra)) (service : Service) (configId : Nat) : Prop :=
  ∃ config ∈ configs, config.id = configId ∧ config.serviceType = service

/-- What such an event keeps of the rows that are on their way. -/
structure Kept (s s' : System Extra) : Prop where
  same : s'.manager = s.manager ∧ s'.configs = s.configs ∧ s'.deletions = s.deletions ∧ s'.up = s.up
  coming : ∀ config ∈ s.configs, config.serviceType ∈ arrServices → Coming s config →
    Coming s' config ∨ BeforeClear s'.worker config
  before : ∀ config ∈ s.configs, BeforeClear s.worker config → BeforeClear s'.worker config
  data : ∀ data, s.worker.data? = some data → ∀ config ∈ s.configs, data.id = some config.id →
    data.Describes config → s'.worker.data? = some data
  locked : ∀ data, s'.worker.data? = some data → s'.worker.HoldsLock →
    s.worker.data? = some data ∧ s.worker.HoldsLock ∨ ∀ configId, data.id = some configId →
      HasRow s.configs data.serviceType configId

theorem BeforeClear.data? {config : ServiceConfig Extra} (h : BeforeClear worker config) :
    ∃ data, worker.data? = some data ∧ data.id = some config.id ∧ data.Describes config := by
  obtain ⟨jobId, data, rfl | rfl, hrow⟩ := h
  · exact ⟨data, rfl, hrow⟩
  · exact ⟨data, rfl, hrow⟩

theorem not_holdsLock_startJob (job : BackgroundJob (Field Extra)) : ¬(startJob job).HoldsLock := by
  rw [startJob]
  split_ifs
  · split <;> exact id
  · exact id

theorem kept_of_step (h : OnTheWay s) (hqueued : Queued s) (horderly : Orderly s event)
    (hstep : s.step reader event = some s') (hquiet : event.IsQuiet) : Kept s s' := by
  have hcoming (hconfigs : s'.configs = s.configs) (config : ServiceConfig Extra)
      (hconfig : config ∈ s.configs) (harr : config.serviceType ∈ arrServices)
      (hon : Coming s config) : Coming s' config ∨ BeforeClear s'.worker config :=
    hon.step h hqueued horderly hstep hconfig (hconfigs ▸ hconfig) harr
  -- a worker without an update has nothing to keep
  have hnone (hsame : s'.manager = s.manager ∧ s'.configs = s.configs ∧
      s'.deletions = s.deletions ∧ s'.up = s.up) (hdata : s.worker.data? = none)
      (hlock : ¬s'.worker.HoldsLock) : Kept s s' := by
    refine ⟨hsame, hcoming hsame.2.1, fun config _ hbefore => ?_, fun data hsome => ?_,
      fun _ _ hholds => absurd hholds hlock⟩
    · obtain ⟨data, hsome, -⟩ := hbefore.data?
      exact absurd (hdata.symm.trans hsome) (Option.some_ne_none data).symm
    · exact absurd (hdata.symm.trans hsome) (Option.some_ne_none data).symm
  cases s.does_of_step reader hstep with
  | refuse | findSaved | loseSaved | enqueueSaved | enqueue | trim =>
    exact ⟨⟨rfl, rfl, rfl, rfl⟩, hcoming rfl, fun _ _ => id, fun _ hdata _ _ _ _ => hdata,
      fun _ hdata hlock => .inl ⟨hdata, hlock⟩⟩
  | claim workerId now hworker =>
    rcases claim_cases s hqueued.ids workerId now with heq | ⟨job, -, -, heq⟩
    · rw [heq] at hcoming ⊢
      exact ⟨⟨rfl, rfl, rfl, rfl⟩, hcoming rfl, fun _ _ => id, fun _ hdata _ _ _ _ => hdata,
        fun _ hdata hlock => .inl ⟨hdata, hlock⟩⟩
    · rw [heq] at hnone ⊢
      exact hnone ⟨rfl, rfl, rfl, rfl⟩ (congrArg Worker.data? hworker) (not_holdsLock_startJob job)
  | endTask error hworker | finish now hworker =>
    exact hnone ⟨rfl, rfl, rfl, rfl⟩ (congrArg Worker.data? hworker) id
  | check hworker =>
    rcases checkToggle_cases s.configs _ _ with ⟨heq, hrow⟩ | ⟨heq, id, hid, hstale⟩
    · rw [heq] at hcoming ⊢
      refine ⟨⟨rfl, rfl, rfl, rfl⟩, hcoming rfl, fun config _ hbefore => ?_,
        fun data hdata _ _ _ _ => ?_, ?_⟩
      · rw [hworker] at hbefore
        obtain ⟨_, _, hwaiting | hclearing, hrow⟩ := hbefore
        · cases hwaiting
          exact ⟨_, _, .inr rfl, hrow⟩
        · cases hclearing
      · rw [hworker] at hdata
        exact hdata
      · rintro _ ⟨⟩ -
        refine .inr fun configId hid => ?_
        obtain ⟨config, hconfig, hsame, hcurrent⟩ := hrow configId hid
        exact ⟨config, hconfig, hsame, hcurrent.1⟩
    · rw [heq] at hcoming ⊢
      -- a row that the update describes would not have been found stale
      have hnot (config : ServiceConfig Extra) (hconfig : config ∈ s.configs)
          (data : ServiceConfigUpdate Extra) (hdata : s.worker.data? = some data)
          (hid' : data.id = some config.id) : ¬data.Describes config := by
        intro hdescribes
        rw [hworker] at hdata
        cases hdata
        obtain rfl : id = config.id := Option.some.inj (hid.symm.trans hid')
        refine absurd hdescribes.1 (hstale config ?_)
        exact find?_eq_some_of_key h.keyed.ids hconfig (decide_eq_true rfl)
          fun _ hsame => of_decide_eq_true hsame
      refine ⟨⟨rfl, rfl, rfl, rfl⟩, hcoming rfl, fun config hconfig hbefore => ?_,
        fun data hdata config hconfig hid' hdescribes =>
          absurd hdescribes (hnot config hconfig data hdata hid'), fun _ hdata => ?_⟩
      · obtain ⟨data, hdata, hid', hdescribes⟩ := hbefore.data?
        exact absurd hdescribes (hnot config hconfig data hdata hid')
      · cases hdata
  | _ => exact hquiet.elim

/-! ## Clients of rows -/

/-- The client of a row, as it stands or while the row is on its way. -/
def Led (reader : ExtraReader Extra) (s : System Extra) (config : ServiceConfig Extra)
    (connection : Connection) : Prop :=
  config.enabled ∧ config.connection reader = some connection ∨ Coming s config ∨
    BeforeClear s.worker config

/-- Every client has a row or is about to be cleared, and so has the update that the worker
applies. -/
structure Current (reader : ExtraReader Extra) (s : System Extra) : Prop where
  clients : ∀ service ∈ arrServices, ∀ configId connection,
    s.manager.connection service configId = some connection → (service, configId) ∈ s.deletions ∨
      ∃ config ∈ s.configs, config.id = configId ∧ config.serviceType = service ∧
        Led reader s config connection
  applied : ∀ data, s.worker.data? = some data → s.worker.HoldsLock →
    data.serviceType ∈ arrServices → ∀ configId, data.id = some configId →
      (data.serviceType, configId) ∈ s.deletions ∨ HasRow s.configs data.serviceType configId

theorem current_new : Current reader ({} : System Extra) where
  clients _ _ _ _ h := by cases h
  applied _ h := by cases h

namespace Current

variable (h : Current reader s)

include h

theorem of_kept (hkept : Kept s s') : Current reader s' where
  clients service hservice configId connection hconnection := by
    obtain ⟨hmanager, hconfigs, hdeletions, -⟩ := hkept.same
    rw [hmanager] at hconnection
    rw [hdeletions, hconfigs]
    refine (h.clients service hservice configId connection hconnection).imp_right ?_
    rintro ⟨config, hconfig, hid, rfl, hled⟩
    refine ⟨config, hconfig, hid, rfl, hled.imp_right ?_⟩
    rintro (hon | hon)
    · exact hkept.coming config hconfig hservice hon
    · exact .inr (hkept.before config hconfig hon)
  applied data hdata hlock harr configId hid := by
    obtain ⟨-, hconfigs, hdeletions, -⟩ := hkept.same
    rw [hdeletions, hconfigs]
    rcases hkept.locked data hdata hlock with ⟨hold, hheld⟩ | hrow
    · exact h.applied data hold hheld harr configId hid
    · exact .inr (hrow configId hid)

theorem upserted {configs : List (ServiceConfig Extra)} (hontheway : OnTheWay s)
    (hsaving : s.saving = none) (hupserted : Upserted data s.configs configs) :
    Current reader (s.upserted data configs) where
  clients service hservice configId connection hconnection := by
    refine (h.clients service hservice configId connection hconnection).imp_right ?_
    rintro ⟨config, hconfig, rfl, rfl, hled⟩
    obtain ⟨config', hconfig', hid, htype⟩ := hupserted.stays config hconfig hservice
    refine ⟨config', hconfig', hid, htype, ?_⟩
    rcases hupserted.rows config' hconfig' (htype ▸ hservice) with ⟨hfinds, -⟩ | ⟨-, hold⟩
    · exact .inr (.inl (.inl hfinds))
    · rw [hontheway.keyed.eq_of_id hold hconfig hid]
      refine hled.imp_right (Or.imp_left fun hcoming => ?_)
      refine hcoming.mono (fun hflight => ?_) fun _ _ hjob _ => hjob
      rw [hsaving] at hflight
      exact hflight.elim
  applied update hworker hlock harr configId hid := by
    refine (h.applied update hworker hlock harr configId hid).imp_right ?_
    rintro ⟨config, hconfig, rfl, htype⟩
    obtain ⟨config', hconfig', hid', htype'⟩ := hupserted.stays config hconfig (htype ▸ harr)
    exact ⟨config', hconfig', hid', htype'.trans htype⟩

theorem deleted (hontheway : OnTheWay s) {gone : ServiceConfig Extra}
    (hgone : gone ∈ s.configs) : Current reader (s.deleted gone now) where
  clients service hservice configId connection hconnection := by
    rcases h.clients service hservice configId connection hconnection with
      hdeletion | ⟨config, hconfig, rfl, rfl, hled⟩
    · exact .inl (List.mem_append_left _ hdeletion)
    · by_cases hsame : config.id = gone.id
      · obtain rfl := hontheway.keyed.eq_of_id hconfig hgone hsame
        exact .inl (List.mem_append_right _ (List.mem_singleton_self _))
      · refine .inr ⟨config, List.mem_filter.mpr ⟨hconfig, decide_eq_true hsame⟩, rfl, rfl, ?_⟩
        refine hled.imp_right (Or.imp_left fun hcoming => ?_)
        exact OnTheWay.coming_deleted now hsame hcoming
  applied update hworker hlock harr configId hid := by
    rcases h.applied update hworker hlock harr configId hid with
      hdeletion | ⟨config, hconfig, rfl, htype⟩
    · exact .inl (List.mem_append_left _ hdeletion)
    · by_cases hsame : config.id = gone.id
      · obtain rfl := hontheway.keyed.eq_of_id hconfig hgone hsame
        exact .inl (List.mem_append_right _ (List.mem_singleton.mpr (Prod.ext htype.symm rfl)))
      · exact .inr ⟨config, List.mem_filter.mpr ⟨hconfig, decide_eq_true hsame⟩, rfl, htype⟩

theorem clearDeleted (hlock : ¬s.worker.HoldsLock) :
    Current reader (s.clearDeleted service configId) where
  clients service' hservice configId' connection hconnection := by
    rw [System.clearDeleted, connection_clearServiceRuntime hservice] at hconnection
    split_ifs at hconnection with hsame
    refine (h.clients service' hservice configId' connection hconnection).imp_left
      fun hdeletion => ?_
    refine (List.mem_erase_of_ne fun heq => hsame ?_).mpr hdeletion
    exact Prod.mk.inj heq
  applied _ _ hholds := absurd hholds hlock

theorem cleared (hworker : s.worker = .clearing jobId data) (hid : data.id = some configId) :
    Current reader (s.cleared jobId data) where
  clients service hservice configId' connection hconnection := by
    rw [System.cleared, hid, connection_clearServiceRuntime hservice] at hconnection
    split_ifs at hconnection with hsame
    refine (h.clients service hservice configId' connection hconnection).imp_right ?_
    rintro ⟨config, hconfig, rfl, rfl, hled⟩
    refine ⟨config, hconfig, rfl, rfl, hled.imp_right (Or.imp_right fun hbefore => ?_)⟩
    obtain ⟨update, hupdate, hid', hdescribes⟩ := hbefore.data?
    rw [hworker] at hupdate
    obtain rfl := Option.some.inj hupdate
    exact absurd ⟨hdescribes.serviceType, Option.some.inj (hid'.symm.trans hid)⟩ hsame
  applied update hupdate _ harr configId' hid' := by
    obtain ⟨rfl, -⟩ := System.of_cleared hupdate
    refine h.applied data (congrArg Worker.data? hworker) ?_ harr configId' hid'
    rw [hworker]
    trivial

theorem failConnect (hworker : s.worker = .initializing jobId data)
    (hended : worker.data? = none) : Current reader { s with worker := worker } where
  clients service hservice configId connection hconnection := by
    refine (h.clients service hservice configId connection hconnection).imp_right ?_
    rintro ⟨config, hconfig, hid, htype, hled⟩
    refine ⟨config, hconfig, hid, htype, hled.imp_right (Or.imp_right ?_)⟩
    rw [hworker]
    rintro ⟨_, _, hbefore | hbefore, -⟩ <;> cases hbefore
  applied _ hdata := absurd (hended.symm.trans hdata) (by simp)

theorem connect {healthy : Bool} (hontheway : OnTheWay s)
    (hworker : s.worker = .initializing jobId data) (hid : data.id = some configId)
    (hmade : initializeService reader s.manager data healthy = some manager)
    (hended : worker.data? = none) :
    Current reader { s with manager := manager, worker := worker } where
  clients service hservice configId' connection hconnection := by
    rw [connection_initializeService hservice hid hmade] at hconnection
    have hdata : s.worker.data? = some data := congrArg Worker.data? hworker
    split_ifs at hconnection with hsame
    · obtain ⟨rfl, rfl, -⟩ := hsame
      have hlock : s.worker.HoldsLock := by
        rw [hworker]
        trivial
      refine (h.applied data hdata hlock hservice configId' hid).imp_right ?_
      rintro ⟨config, hconfig, rfl, htype⟩
      refine ⟨config, hconfig, rfl, htype, ?_⟩
      refine (hontheway.worker data hdata config hconfig (htype ▸ hservice) hid).imp ?_ .inl
      intro hdescribes
      refine ⟨hdescribes.enabled.trans (hontheway.enabled jobId data hworker), ?_⟩
      exact hdescribes.connection.symm.trans hconnection
    · exact (h.failConnect hworker hended).clients service hservice configId' connection hconnection
  applied := (h.failConnect hworker hended).applied

omit h in
theorem start {healthy : Nat → Bool} {jobs : List (BackgroundJob (Field Extra))}
    (hload : loadEnabledServices reader s.configs healthy = some manager) :
    Current reader { configs := s.configs, jobs := jobs, manager := manager, up := true } where
  clients service hservice configId connection hconnection := by
    rw [loadEnabledServices] at hload
    split_ifs at hload
    rcases exists_of_loadServices hservice hload hconnection with hnone | ⟨config, hconfig, hrow⟩
    · cases hnone
    · obtain ⟨hmem, henabled⟩ := List.mem_filter.mp hconfig
      exact .inr ⟨config, hmem, hrow.1, hrow.2.1, .inl ⟨henabled, hrow.2.2⟩⟩
  applied _ hdata := by cases hdata

theorem step (hontheway : OnTheWay s) (hqueued : Queued s) (horderly : Orderly s event)
    (hstep : s.step reader event = some s') : Current reader s' := by
  have hkept (hquiet : event.IsQuiet) : Current reader s' :=
    h.of_kept (kept_of_step hontheway hqueued horderly hstep hquiet)
  cases s.does_of_step reader hstep with
  | refuse => exact h
  | startDown =>
    exact { clients := fun _ _ _ _ hnone => (Option.some_ne_none _ hnone.symm).elim
            applied := fun _ hdata => (Option.some_ne_none _ hdata.symm).elim }
  | startUp healthy now hload => exact start hload
  | save data reachable hsaving hcheck hupsert =>
    obtain ⟨hid, hservice, -⟩ := eq_of_checkSave hcheck
    refine h.upserted hontheway hsaving (upserted_of_upsertServiceConfig hontheway.keyed ?_ hupsert)
    rw [hid, hservice]
    exact horderly
  | delete now hgone => exact h.deleted hontheway hgone
  | clearDeleted hdeletion hlock => exact h.clearDeleted hlock
  | clear hworker =>
    obtain ⟨configId, hid⟩ := hqueued.worker _ (congrArg Worker.data? hworker)
    exact h.cleared hworker hid
  | failConnect healthy hworker => exact h.failConnect hworker rfl
  | connect healthy hworker hmade =>
    obtain ⟨configId, hid⟩ := hqueued.worker _ (congrArg Worker.data? hworker)
    exact h.connect hontheway hworker hid hmade rfl
  | _ => exact hkept trivial

end Current

/-! ## Rows of clients -/

/-- A start and the worker find every service healthy, and a row comes in under a new id only
while no deletion has to clear the manager yet. -/
def Healthy (s : System Extra) : Event Extra → Prop
  | .start healthy _ => ∀ id, healthy id = true
  | .connect healthy => healthy = true
  | .save data _ => data.id = none → s.deletions = []
  | _ => True

/-- Every row that is enabled has its client, or is on its way. -/
structure Complete (reader : ExtraReader Extra) (s : System Extra) : Prop where
  rows : s.up → ∀ config ∈ s.configs, config.serviceType ∈ arrServices → config.enabled →
    ∀ connection, config.connection reader = some connection →
      s.manager.connection config.serviceType config.id = some connection ∨ Coming s config ∨
        ∃ data, s.worker.data? = some data ∧ data.id = some config.id ∧ data.Describes config
  deletions : ∀ service configId, (service, configId) ∈ s.deletions →
    ∀ config ∈ s.configs, config.id ≠ configId

theorem complete_new : Complete reader ({} : System Extra) where
  rows h := by cases h
  deletions _ _ h := absurd h List.not_mem_nil

namespace Complete

variable (h : Complete reader s)

include h

theorem of_kept (hkept : Kept s s') : Complete reader s' where
  rows hs' config hconfig harr henabled connection hconnection := by
    obtain ⟨hmanager, hconfigs, -, hup⟩ := hkept.same
    rw [hconfigs] at hconfig
    rw [hmanager]
    rcases h.rows (hup ▸ hs') config hconfig harr henabled connection hconnection with
      hclient | hon | ⟨data, hdata, hid, hdescribes⟩
    · exact .inl hclient
    · exact .inr ((hkept.coming config hconfig harr hon).imp_right BeforeClear.data?)
    · refine .inr (.inr ⟨data, ?_, hid, hdescribes⟩)
      exact hkept.data data hdata config hconfig hid hdescribes
  deletions := by
    obtain ⟨-, hconfigs, hdeletions, -⟩ := hkept.same
    rw [hconfigs, hdeletions]
    exact h.deletions

theorem upserted {configs : List (ServiceConfig Extra)} (hsaving : s.saving = none)
    (hnew : data.id = none → s.deletions = []) (hupserted : Upserted data s.configs configs) :
    Complete reader (s.upserted data configs) where
  rows hup config hconfig harr henabled connection hconnection := by
    rcases hupserted.rows config hconfig harr with ⟨hfinds, -⟩ | ⟨-, hold⟩
    · exact .inr (.inl (.inl hfinds))
    · refine (h.rows hup config hold harr henabled connection hconnection).imp_right
        (Or.imp_left fun hcoming => ?_)
      refine hcoming.mono (fun hflight => ?_) fun _ _ hjob _ => hjob
      rw [hsaving] at hflight
      exact hflight.elim
  deletions service configId hdeletion config hconfig := by
    rcases hupserted.ids config hconfig with hold | hid
    · obtain ⟨old, hmem, hsame⟩ := List.mem_map.mp hold
      exact hsame ▸ h.deletions service configId hdeletion old hmem
    · rw [System.upserted, hnew hid] at hdeletion
      exact absurd hdeletion List.not_mem_nil

theorem deleted {gone : ServiceConfig Extra} : Complete reader (s.deleted gone now) where
  rows hup config hconfig harr henabled connection hconnection := by
    obtain ⟨hmem, hne⟩ := List.mem_filter.mp hconfig
    refine (h.rows hup config hmem harr henabled connection hconnection).imp_right
      (Or.imp_left fun hcoming => ?_)
    exact OnTheWay.coming_deleted now (of_decide_eq_true hne) hcoming
  deletions service configId hdeletion config hconfig := by
    obtain ⟨hmem, hne⟩ := List.mem_filter.mp hconfig
    rcases List.mem_append.mp hdeletion with hold | hadded
    · exact h.deletions service configId hold config hmem
    · obtain ⟨-, rfl⟩ := Prod.mk.inj (List.mem_singleton.mp hadded)
      exact of_decide_eq_true hne

theorem clearDeleted (hdeletion : (service, configId) ∈ s.deletions) :
    Complete reader (s.clearDeleted service configId) where
  rows hup config hconfig harr henabled connection hconnection := by
    refine (h.rows hup config hconfig harr henabled connection hconnection).imp_left
      fun hclient => ?_
    have hne := h.deletions service configId hdeletion config hconfig
    rw [System.clearDeleted, connection_clearServiceRuntime harr, if_neg fun hsame => hne hsame.2]
    exact hclient
  deletions service' configId' hmem := h.deletions service' configId' (List.mem_of_mem_erase hmem)

theorem cleared (hontheway : OnTheWay s) (hworker : s.worker = .clearing jobId data)
    (hid : data.id = some configId) : Complete reader (s.cleared jobId data) where
  rows hup config hconfig harr henabled connection hconnection := by
    have hdata : s.worker.data? = some data := congrArg Worker.data? hworker
    have hnext (hdescribes : data.Describes config) :
        (s.cleared jobId data).worker.data? = some data := by
      rw [System.cleared, if_pos (hdescribes.enabled ▸ henabled)]
      rfl
    rcases h.rows hup config hconfig harr henabled connection hconnection with
      hclient | hcoming | ⟨update, hupdate, hid', hdescribes⟩
    · rw [System.cleared, hid, connection_clearServiceRuntime harr]
      by_cases hsame : config.serviceType = data.serviceType ∧ config.id = configId
      · have hid' : data.id = some config.id := hid.trans (congrArg some hsame.2.symm)
        rcases hontheway.worker data hdata config hconfig harr hid' with hdescribes | hcoming
        · exact .inr (.inr ⟨data, hnext hdescribes, hid', hdescribes⟩)
        · exact .inr (.inl hcoming)
      · rw [if_neg hsame]
        exact .inl hclient
    · exact .inr (.inl hcoming)
    · obtain rfl : update = data := Option.some.inj (hupdate.symm.trans hdata)
      exact .inr (.inr ⟨update, hnext hdescribes, hid', hdescribes⟩)
  deletions := h.deletions

theorem connect (hontheway : OnTheWay s) (hworker : s.worker = .initializing jobId data)
    (hid : data.id = some configId)
    (hmade : initializeService reader s.manager data true = some manager) :
    Complete reader { s with manager := manager, worker := worker } where
  rows hup config hconfig harr henabled connection hconnection := by
    have hdata : s.worker.data? = some data := congrArg Worker.data? hworker
    rw [connection_initializeService harr hid hmade]
    have hmine (hdescribes : data.Describes config) :
        arrConnection reader data.baseUrl (data.apiKey.getD "") data.extraSettings =
          some connection := hdescribes.connection.trans hconnection
    rcases h.rows hup config hconfig harr henabled connection hconnection with
      hclient | hcoming | ⟨update, hupdate, hid', hdescribes⟩
    · split_ifs with hsame
      · have hid' : data.id = some config.id := hid.trans (congrArg some hsame.2.1.symm)
        exact (hontheway.worker data hdata config hconfig harr hid').imp hmine .inl
      · exact .inl hclient
    · exact .inr (.inl hcoming)
    · obtain rfl : update = data := Option.some.inj (hupdate.symm.trans hdata)
      rw [if_pos ⟨hdescribes.serviceType, Option.some.inj (hid'.symm.trans hid), rfl⟩]
      exact .inl (hmine hdescribes)
  deletions := h.deletions

/-- No client can be made of the update, and so none of its row. -/
theorem failConnect {healthy : Bool} (hworker : s.worker = .initializing jobId data)
    (hfails : initializeService reader s.manager data healthy = none) :
    Complete reader { s with worker := worker } where
  rows hup config hconfig harr henabled connection hconnection := by
    refine (h.rows hup config hconfig harr henabled connection hconnection).imp_right
      (Or.imp_right ?_)
    rintro ⟨update, hupdate, -, hdescribes⟩
    rw [hworker] at hupdate
    obtain rfl := Option.some.inj hupdate
    have hnone := arrConnection_eq_none (hdescribes.serviceType ▸ harr) hfails
    rw [hdescribes.connection, hconnection] at hnone
    cases hnone
  deletions := h.deletions

omit h in
theorem start {healthy : Nat → Bool} {jobs : List (BackgroundJob (Field Extra))}
    (hontheway : OnTheWay s) (hhealthy : ∀ id, healthy id = true)
    (hload : loadEnabledServices reader s.configs healthy = some manager) :
    Complete reader { configs := s.configs, jobs := jobs, manager := manager, up := true } where
  rows _ config hconfig harr henabled connection hconnection := by
    rw [loadEnabledServices] at hload
    split_ifs at hload
    refine .inl ((connection_loadServices hhealthy (hontheway.keyed.filter _).ids hload
      (List.mem_filter.mpr ⟨hconfig, henabled⟩) harr).trans hconnection)
  deletions _ _ hdeletion := absurd hdeletion List.not_mem_nil

theorem step (hontheway : OnTheWay s) (hqueued : Queued s) (horderly : Orderly s event)
    (hhealthy : Healthy s event) (hstep : s.step reader event = some s') : Complete reader s' := by
  have hkept (hquiet : event.IsQuiet) : Complete reader s' :=
    h.of_kept (kept_of_step hontheway hqueued horderly hstep hquiet)
  cases s.does_of_step reader hstep with
  | refuse => exact h
  | startDown =>
    exact { rows := fun hup => (Bool.false_ne_true hup).elim
            deletions := fun _ _ hdeletion => absurd hdeletion List.not_mem_nil }
  | startUp healthy now hload => exact start hontheway hhealthy hload
  | save data reachable hsaving hcheck hupsert =>
    obtain ⟨hid, hservice, -⟩ := eq_of_checkSave hcheck
    refine h.upserted hsaving (hid ▸ hhealthy)
      (upserted_of_upsertServiceConfig hontheway.keyed ?_ hupsert)
    rw [hid, hservice]
    exact horderly
  | delete now hgone => exact h.deleted
  | clearDeleted hdeletion => exact h.clearDeleted hdeletion
  | clear hworker =>
    obtain ⟨configId, hid⟩ := hqueued.worker _ (congrArg Worker.data? hworker)
    exact h.cleared hontheway hworker hid
  | failConnect healthy hworker hfails => exact h.failConnect hworker hfails
  | connect healthy hworker hmade =>
    obtain ⟨configId, hid⟩ := hqueued.worker _ (congrArg Worker.data? hworker)
    obtain rfl : healthy = true := hhealthy
    exact h.connect hontheway hworker hid hmade
  | _ => exact hkept trivial

end Complete

/-! ## At rest -/

/-- What every run of these events keeps. -/
theorem current_run {events : List (Event Extra)}
    (hmeets : Runs.Meets (System.step reader) Orderly {} events)
    (hrun : System.run reader {} events = some s) : OnTheWay s ∧ Current reader s := by
  have hinvariant := Runs.invariant_of_meets
    (I := fun s : System Extra => Queued s ∧ OnTheWay s ∧ Current reader s) ?_ hmeets hrun
    ⟨queued_new, onTheWay_new, current_new⟩
  · exact hinvariant.2
  · rintro s₁ s₂ event ⟨hqueued, hontheway, hcurrent⟩ horderly hstep
    exact ⟨hqueued.step hstep, hontheway.step hqueued horderly hstep,
      hcurrent.step hontheway hqueued horderly hstep⟩

theorem complete_run {events : List (Event Extra)}
    (hmeets : Runs.Meets (System.step reader) (fun s event => Orderly s event ∧ Healthy s event) {}
      events)
    (hrun : System.run reader {} events = some s) : Complete reader s := by
  have hinvariant := Runs.invariant_of_meets
    (I := fun s : System Extra => Queued s ∧ OnTheWay s ∧ Complete reader s) ?_ hmeets hrun
    ⟨queued_new, onTheWay_new, complete_new⟩
  · exact hinvariant.2.2
  · rintro s₁ s₂ event ⟨hqueued, hontheway, hcomplete⟩ ⟨horderly, hhealthy⟩ hstep
    exact ⟨hqueued.step hstep, hontheway.step hqueued horderly hstep,
      hcomplete.step hontheway hqueued horderly hhealthy hstep⟩

/-- No save, toggle, worker or deletion has the configuration on its way. -/
structure System.Settled (s : System Extra) (configId : Nat) : Prop where
  saving : s.saving = none
  jobs : ∀ job ∈ s.jobs, job.status = .pending → job.dedupeKey ≠ some (toggleKey configId)
  worker : ∀ data, s.worker.data? = some data → data.id ≠ some configId
  deletions : ∀ service, (service, configId) ∉ s.deletions

namespace System.Settled

variable {config : ServiceConfig Extra}

theorem not_coming (h : s.Settled config.id) : ¬Coming s config := by
  rintro (hflight | ⟨job, payload, ⟨hmem, hpending, -⟩, hnames, -⟩)
  · rw [h.saving] at hflight
    exact hflight
  · exact h.jobs job hmem hpending hnames.key

theorem not_beforeClear (h : s.Settled config.id) : ¬BeforeClear s.worker config := by
  rintro ⟨jobId, data, hworker, hid, -⟩
  refine h.worker data ?_ hid
  rcases hworker with hworker | hworker <;> rw [hworker] <;> rfl

end System.Settled

/-- The client of a configuration at rest belongs to an enabled row that asks for it. -/
theorem Current.exists_row (h : Current reader s) (hsettled : s.Settled configId)
    (hservice : service ∈ arrServices)
    (hconnection : s.manager.connection service configId = some connection) :
    ∃ config ∈ s.configs, config.id = configId ∧ config.serviceType = service ∧
      config.enabled ∧ config.connection reader = some connection := by
  rcases h.clients service hservice configId connection hconnection with
    hdeletion | ⟨config, hconfig, rfl, htype, hled | hcoming | hbefore⟩
  · exact absurd hdeletion (hsettled.deletions service)
  · exact ⟨config, hconfig, rfl, htype, hled⟩
  · exact absurd hcoming hsettled.not_coming
  · exact absurd hbefore hsettled.not_beforeClear

/-- At rest the client of a configuration belongs to an enabled row that asks for its connection,
whatever was saved, deleted, restarted or failed before: a row that was disabled or deleted has
none. -/
theorem exists_row_of_connection {events : List (Event Extra)}
    (hmeets : Runs.Meets (System.step reader) Orderly {} events)
    (hrun : System.run reader {} events = some s) (hsettled : s.Settled configId)
    (hservice : service ∈ arrServices)
    (hconnection : s.manager.connection service configId = some connection) :
    ∃ config ∈ s.configs, config.id = configId ∧ config.serviceType = service ∧
      config.enabled ∧ config.connection reader = some connection :=
  (current_run hmeets hrun).2.exists_row hsettled hservice hconnection

/-- Settings with nothing but a timeout. -/
def timeoutReader : ExtraReader Int where
  isEmpty _ := false
  timeout extra default := some (extra.getD default)
  qbittorrent _ _ _ := none

/-- Radarr is saved, and the worker connects it. -/
def savesRadarr : List (Event Int) :=
  [.start (fun _ => true) 0,
    .save
      { serviceType := .radarr
        baseUrl := "http://radarr:7878/"
        apiKey := some "key"
        enabled := true } true,
    .findSaved, .enqueueSaved 1, .claim "worker" 2, .check, .clear, .connect true, .finish 3]

/-- The system after these events. -/
def radarrSaved : System Int := (System.run timeoutReader {} savesRadarr).getD {}

theorem meets_savesRadarr : Runs.Meets (System.step timeoutReader)
    (fun s event => Orderly s event ∧ Healthy s event) {} savesRadarr := by
  refine ⟨⟨rfl, fun _ => rfl⟩, fun s hstart => ⟨⟨nofun, fun _ => ?_⟩, fun _ _ => ?_⟩⟩
  · obtain rfl := Option.some.inj hstart
    rfl
  · exact ⟨⟨trivial, trivial⟩, fun _ _ => ⟨⟨trivial, trivial⟩, fun _ _ => ⟨⟨trivial, trivial⟩,
      fun _ _ => ⟨⟨trivial, trivial⟩, fun _ _ => ⟨⟨trivial, trivial⟩, fun _ _ =>
        ⟨⟨trivial, rfl⟩, fun _ _ => ⟨⟨trivial, trivial⟩, fun _ _ => trivial⟩⟩⟩⟩⟩⟩⟩

theorem settled_radarrSaved : radarrSaved.Settled 1 where
  saving := rfl
  jobs := by decide
  worker _ hdata := by cases hdata
  deletions _ := List.not_mem_nil

theorem exists_row_of_connection_radarr : ∃ config ∈ radarrSaved.configs, config.id = 1 ∧
    config.serviceType = .radarr ∧ config.enabled ∧ config.connection timeoutReader =
      some { baseUrl := "http://radarr:7878", apiKey := "key", timeout := some 300 } :=
  exists_row_of_connection (meets_savesRadarr.mono fun _ _ h => h.1) rfl settled_radarrSaved
    (by decide) rfl

/-- At rest, when the health checks have passed, the manager has exactly the connection that the
enabled row of the configuration asks for. -/
theorem connection_eq_of_settled {events : List (Event Extra)}
    (hmeets : Runs.Meets (System.step reader) (fun s event => Orderly s event ∧ Healthy s event) {}
      events)
    (hrun : System.run reader {} events = some s) (hup : s.up) (hsettled : s.Settled configId)
    (hservice : service ∈ arrServices) :
    s.manager.connection service configId =
      (s.configs.find? fun config =>
        config.id = configId ∧ config.serviceType = service ∧ config.enabled).bind
          (ServiceConfig.connection reader) := by
  obtain ⟨hontheway, hcurrent⟩ := current_run (hmeets.mono fun _ _ h => h.1) hrun
  ext connection
  rw [Option.bind_eq_some_iff]
  constructor
  · intro hconnection
    obtain ⟨config, hconfig, rfl, rfl, henabled, hconfigured⟩ :=
      hcurrent.exists_row hsettled hservice hconnection
    refine ⟨config, ?_, hconfigured⟩
    exact find?_eq_some_of_key hontheway.keyed.ids hconfig
      (decide_eq_true ⟨rfl, rfl, henabled⟩) fun _ hsame => (of_decide_eq_true hsame).1
  · rintro ⟨config, hfind, hconfigured⟩
    have hfound := List.find?_some hfind
    rw [decide_eq_true_eq] at hfound
    obtain ⟨rfl, rfl, henabled⟩ := hfound
    have hconfig := List.mem_of_find?_eq_some hfind
    rcases (complete_run hmeets hrun).rows hup config hconfig hservice henabled connection
      hconfigured with hclient | hcoming | ⟨data, hdata, hid, -⟩
    · exact hclient
    · exact absurd hcoming hsettled.not_coming
    · exact absurd hid (hsettled.worker data hdata)

theorem connection_eq_of_settled_radarr : radarrSaved.manager.connection .radarr 1 =
    (radarrSaved.configs.find? fun config =>
      config.id = 1 ∧ config.serviceType = .radarr ∧ config.enabled).bind
        (ServiceConfig.connection timeoutReader) :=
  connection_eq_of_settled meets_savesRadarr rfl rfl settled_radarrSaved (by decide)

end MediaMasterr.Services
