import MediaMasterr.Services.WaitingJobs

/-! # Connections

The connection that the manager has for each Radarr or Sonarr configuration, and what clearing,
connecting and the start of the program do to it. -/

namespace MediaMasterr.Services

open MediaMasterr.Database MediaMasterr.Foundations MediaMasterr.Jobs

variable {Extra : Type}

/-- What `initialize_radarr` and `initialize_sonarr` make their client with. -/
def arrConnection (reader : ExtraReader Extra) (baseUrl apiKey : String)
    (extraSettings : Option Extra) : Option Connection :=
  (reader.timeout extraSettings 300).map fun timeout =>
    { baseUrl := PythonText.rstrip '/' baseUrl, apiKey := apiKey, timeout := some timeout }

/-- The connection that a configuration asks for. -/
def ServiceConfig.connection (reader : ExtraReader Extra) (config : ServiceConfig Extra) :
    Option Connection :=
  arrConnection reader config.baseUrl config.apiKey config.extraSettings

/-- The connection of the client that `get_radarr` or `get_sonarr` returns for a configuration. -/
def ServiceManager.connection (m : ServiceManager) (service : Service) (configId : Nat) :
    Option Connection :=
  (m.getArr service (some configId)).map Client.connection

section

variable {reader : ExtraReader Extra} {m m' : ServiceManager} {service service' : Service}
  {configId configId' : Nat} {data : ServiceConfigUpdate Extra} {healthy : Bool}

theorem connection_of_arr_eq (h : m'.arr service = m.arr service) :
    m'.connection service configId = m.connection service configId := by
  simp only [ServiceManager.connection, ServiceManager.getArr, h]

theorem connection_clearArr :
    (m.clearArr service' (some configId')).connection service configId =
      if service = service' ∧ configId = configId' then none
      else m.connection service configId := by
  simp only [ServiceManager.connection, ServiceManager.getArr, ServiceManager.clearArr]
  by_cases hservice : service = service'
  · subst hservice
    rw [Function.update_self, Dict.get?_erase]
    by_cases hid : configId = configId' <;> simp [hid]
  · rw [Function.update_of_ne hservice, if_neg fun h => hservice h.1]

theorem connection_clearServiceRuntime (hservice : service ∈ arrServices) :
    (clearServiceRuntime m service' (some configId')).connection service configId =
      if service = service' ∧ configId = configId' then none
      else m.connection service configId := by
  cases service' with
  | radarr | sonarr => exact connection_clearArr
  | _ =>
    rw [if_neg]
    · rfl
    · rintro ⟨rfl, -⟩
      revert hservice
      decide

theorem connection_initializeArr {baseUrl apiKey : String} {timeout : Int} :
    (m.initializeArr service' baseUrl apiKey timeout (some configId') healthy).connection service
        configId =
      if service = service' ∧ configId = configId' ∧ healthy then
        some { baseUrl := PythonText.rstrip '/' baseUrl, apiKey := apiKey, timeout := some timeout }
      else m.connection service configId := by
  cases healthy with
  | false =>
    rw [if_neg (by simp)]
    rfl
  | true =>
    simp only [ServiceManager.connection, ServiceManager.getArr, ServiceManager.initializeArr,
      if_true, and_true]
    by_cases hservice : service = service'
    · subst hservice
      simp only [Function.update_self, Option.elim_some, Dict.get?_set, true_and]
      split_ifs <;> rfl
    · rw [Function.update_of_ne hservice, if_neg fun h => hservice h.1]

theorem arr_initializeService (hdata : data.serviceType ∉ arrServices)
    (hmade : initializeService reader m data healthy = some m') : m'.arr = m.arr := by
  rw [initializeService] at hmade
  cases hservice : data.serviceType <;> rw [hservice] at hmade hdata
  case radarr | sonarr => exact absurd (by decide) hdata
  case qbittorrent =>
    cases hmade
    rw [ServiceManager.initializeQbittorrent]
    cases reader.qbittorrent data.baseUrl (data.apiKey.getD "") data.extraSettings <;> rfl
  case tautulli =>
    obtain ⟨timeout, -, rfl⟩ := Option.map_eq_some_iff.mp hmade
    rfl
  all_goals
    cases hmade
    rfl

theorem initializeService_of_arr (hdata : data.serviceType ∈ arrServices) :
    initializeService reader m data healthy =
      (reader.timeout data.extraSettings 300).map fun timeout =>
        m.initializeArr data.serviceType data.baseUrl (data.apiKey.getD "") timeout data.id
          healthy := by
  obtain hservice | hservice : data.serviceType = .radarr ∨ data.serviceType = .sonarr := by
    simpa [arrServices] using hdata
  · rw [initializeService, hservice]
    rfl
  · rw [initializeService, hservice]
    rfl

/-- A client that is made answers for its configuration, when its health check passes. -/
theorem connection_initializeService (hservice : service ∈ arrServices)
    (hid : data.id = some configId') (hmade : initializeService reader m data healthy = some m') :
    m'.connection service configId =
      if service = data.serviceType ∧ configId = configId' ∧ healthy then
        arrConnection reader data.baseUrl (data.apiKey.getD "") data.extraSettings
      else m.connection service configId := by
  by_cases hdata : data.serviceType ∈ arrServices
  · rw [initializeService_of_arr hdata, hid] at hmade
    obtain ⟨timeout, htimeout, rfl⟩ := Option.map_eq_some_iff.mp hmade
    rw [arrConnection, htimeout]
    exact connection_initializeArr
  · rw [if_neg]
    · exact connection_of_arr_eq (congrFun (arr_initializeService hdata hmade) service)
    · rintro ⟨rfl, -⟩
      exact hdata hservice

theorem arrConnection_eq_none (hdata : data.serviceType ∈ arrServices)
    (hmade : initializeService reader m data healthy = none) :
    arrConnection reader data.baseUrl (data.apiKey.getD "") data.extraSettings = none := by
  rw [initializeService_of_arr hdata, Option.map_eq_none_iff] at hmade
  rw [arrConnection, hmade, Option.map_none]

/-! ### At the start -/

variable {config : ServiceConfig Extra} {configs : List (ServiceConfig Extra)}

theorem connection_loadService (hservice : service ∈ arrServices)
    (hmade : loadService reader m config healthy = some m') :
    m'.connection service configId =
      if service = config.serviceType ∧ configId = config.id ∧ healthy then
        config.connection reader
      else m.connection service configId := by
  rw [loadService] at hmade
  split at hmade
  case h_1 hconfig =>
    cases hmade
    rw [if_neg]
    · exact connection_of_arr_eq rfl
    · rintro ⟨rfl, -⟩
      rw [hconfig] at hservice
      revert hservice
      decide
  · exact connection_initializeService hservice rfl hmade

/-- The turns of the configurations at the start. -/
abbrev loadServices (reader : ExtraReader Extra) (healthy : Nat → Bool) (m : ServiceManager)
    (configs : List (ServiceConfig Extra)) : Option ServiceManager :=
  configs.foldlM (fun m config => loadService reader m config (healthy config.id)) m

theorem exists_of_loadServices {healthy : Nat → Bool} {connection : Connection}
    (hservice : service ∈ arrServices)
    (hmade : loadServices reader healthy m configs = some m')
    (hconnection : m'.connection service configId = some connection) :
    m.connection service configId = some connection ∨
      ∃ config ∈ configs, config.id = configId ∧ config.serviceType = service ∧
        config.connection reader = some connection := by
  induction configs generalizing m with
  | nil =>
    cases hmade
    exact .inl hconnection
  | cons config configs ih =>
    obtain ⟨middle, hturn, hrest⟩ := Option.bind_eq_some_iff.mp hmade
    rcases ih hrest with hmiddle | ⟨found, hfound, hproperties⟩
    · rw [connection_loadService hservice hturn] at hmiddle
      split_ifs at hmiddle with hcondition
      · exact .inr ⟨config, List.mem_cons_self, hcondition.2.1.symm, hcondition.1.symm, hmiddle⟩
      · exact .inl hmiddle
    · exact .inr ⟨found, List.mem_cons_of_mem _ hfound, hproperties⟩

theorem connection_loadServices_of_notMem {healthy : Nat → Bool} (hservice : service ∈ arrServices)
    (hmade : loadServices reader healthy m configs = some m')
    (hid : configId ∉ configs.map ServiceConfig.id) :
    m'.connection service configId = m.connection service configId := by
  induction configs generalizing m with
  | nil =>
    cases hmade
    rfl
  | cons config configs ih =>
    obtain ⟨middle, hturn, hrest⟩ := Option.bind_eq_some_iff.mp hmade
    rw [List.map_cons, List.mem_cons, not_or] at hid
    rw [ih hrest hid.2, connection_loadService hservice hturn, if_neg fun h => hid.1 h.2.1]

/-- When every health check passes, each configuration gets its client. -/
theorem connection_loadServices {healthy : Nat → Bool} (hhealthy : ∀ id, healthy id = true)
    (hids : (configs.map ServiceConfig.id).Nodup)
    (hmade : loadServices reader healthy m configs = some m') (hconfig : config ∈ configs)
    (hservice : config.serviceType ∈ arrServices) :
    m'.connection config.serviceType config.id = config.connection reader := by
  induction configs generalizing m with
  | nil => exact absurd hconfig List.not_mem_nil
  | cons first configs ih =>
    obtain ⟨middle, hturn, hrest⟩ := Option.bind_eq_some_iff.mp hmade
    obtain ⟨hnew, hids⟩ := List.nodup_cons.mp hids
    rcases List.mem_cons.mp hconfig with rfl | hconfig
    · rw [connection_loadServices_of_notMem hservice hrest hnew,
        connection_loadService hservice hturn, if_pos ⟨rfl, rfl, hhealthy _⟩]
    · exact ih hids hrest hconfig

end

end MediaMasterr.Services
