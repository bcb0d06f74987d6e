import MediaMasterr.Accounts.Users
import MediaMasterr.Jobs.Queue
import MediaMasterr.Services.Manager

/-! # Service settings

The table of service configurations with the handlers of `api/routes/settings/services.py` that save
and delete one, the job that a save queues, and how `core/service_runtime.py` and
`core/service_bootstrap.py` bring the manager in line with the table. An api key stands for what
its stored text decrypts to. -/

namespace MediaMasterr.Services

open MediaMasterr.Accounts MediaMasterr.Database MediaMasterr.Foundations MediaMasterr.Jobs

/-- What is read of `extra_settings`. -/
structure ExtraReader (Extra : Type) where
  /-- `not extra_settings`. -/
  isEmpty : Extra → Bool
  /-- `int((extra_settings or {}).get("timeout", default))`, unless it raises. -/
  timeout : Option Extra → Int → Option Int
  /-- `parse_qbittorrent_connection_config`, unless it raises. -/
  qbittorrent : String → String → Option Extra → Option Connection

variable {Extra : Type}

structure ServiceConfig (Extra : Type) where
  id : Nat
  serviceType : Service
  baseUrl : String
  apiKey : String
  name : String := ""
  enabled : Bool := false
  extraSettings : Option Extra := none
  isMain : Bool := false

structure ServiceConfigUpdate (Extra : Type) where
  id : Option Nat := none
  name : Option String := none
  serviceType : Service
  baseUrl : String
  apiKey : Option String := none
  enabled : Bool
  extraSettings : Option Extra := none
  isMain : Bool := false

/-- `_default_service_name`: the names of the enumeration with a capital, and three of their own. -/
def defaultServiceName : Service → String
  | .qbittorrent => "qBittorrent"
  | .mdblist => "MDBList"
  | .omdb => "OMDb"
  | .sonarr => "Sonarr"
  | .radarr => "Radarr"
  | .jellyfin => "Jellyfin"
  | .emby => "Emby"
  | .plex => "Plex"
  | .seerr => "Seerr"
  | .tautulli => "Tautulli"

namespace ServiceConfigUpdate

variable (data : ServiceConfigUpdate Extra)

/-- `sanitize_fields`. -/
def sanitizeFields : Except HTTPException (ServiceConfigUpdate Extra) :=
  if data.isMain ∧ data.serviceType ∉ mediaServers then
    .error ⟨422,
      "Only Plex, Jellyfin, and Emby can be designated as the main media server"⟩
  else .ok
    { data with
      name := data.name.map PythonText.strip
      baseUrl := PythonText.strip data.baseUrl
      apiKey := (data.apiKey.map PythonText.strip).filter (· ≠ "") }

/-- `data.name or _default_service_name(data.service_type)`. -/
def serviceName : String := (data.name.filter (· ≠ "")).getD (defaultServiceName data.serviceType)

/-- The query of `_find_existing_service_config`. -/
def Finds (config : ServiceConfig Extra) : Prop :=
  match data.id with
  | some id => config.id = id
  | none => config.serviceType = data.serviceType ∧
      (data.serviceType ∈ arrServices → config.name = data.serviceName)

instance (config : ServiceConfig Extra) : Decidable (data.Finds config) := by
  unfold Finds
  cases data.id <;> infer_instance

def found (configs : List (ServiceConfig Extra)) : List (ServiceConfig Extra) :=
  configs.filter (data.Finds ·)

end ServiceConfigUpdate

/-- `scalar_one_or_none`, unless it raises. -/
def scalarOneOrNone {α : Type} : List α → Except HTTPException (Option α)
  | [] => .ok none
  | [row] => .ok (some row)
  | _ :: _ :: _ => .error ⟨500, "Internal Server Error"⟩

/-! ## Saving -/

section

variable (reader : ExtraReader Extra) (configs : List (ServiceConfig Extra))

def mainServers : List (ServiceConfig Extra) :=
  configs.filter fun config => config.serviceType ∈ mediaServers ∧ config.isMain

/-- `set_service_settings` up to its upsert: what is written, unless the request is refused. The
service answers a test as `reachable` says. -/
def checkSave (data : ServiceConfigUpdate Extra) (reachable : Bool) :
    Except HTTPException (ServiceConfigUpdate Extra) := do
  let data ← data.sanitizeFields
  let existing ← scalarOneOrNone (data.found configs)
  let some apiKey := data.apiKey.or (existing.map ServiceConfig.apiKey)
    | .error ⟨400, "API key is required when configuring a service for the first time"⟩
  let extraSettings :=
    if data.serviceType = .qbittorrent ∧ data.extraSettings.all reader.isEmpty then
      existing.bind ServiceConfig.extraSettings
    else data.extraSettings
  if !data.enabled ∧ data.serviceType ∈ mediaServers ∧
      (existing.any ServiceConfig.isMain ∨ data.isMain) then
    throw ⟨409, "Cannot disable the active main media server. " ++
      "Assign a different main server first."⟩
  if data.enabled ∧ !reachable then
    throw ⟨400, "Could not connect to the server. Please check the URL and network."⟩
  if data.isMain ∧ data.serviceType ∈ mediaServers ∧ 1 < (mainServers configs).length then
    throw ⟨500, "Internal Server Error"⟩
  return { data with
    name := some data.serviceName
    apiKey := some apiKey
    extraSettings := extraSettings }

/-- `main_switched`. -/
def mainSwitched (data : ServiceConfigUpdate Extra) : Bool :=
  data.isMain && (mainServers configs).head?.any (·.serviceType != data.serviceType)

/-- The values of `_upsert_service_config` in a row. -/
def ServiceConfigUpdate.write (data : ServiceConfigUpdate Extra) (apiKey : String)
    (config : ServiceConfig Extra) : ServiceConfig Extra :=
  { config with
    serviceType := data.serviceType
    name := data.serviceName
    baseUrl := data.baseUrl
    apiKey := apiKey
    enabled := data.enabled
    isMain := data.isMain
    extraSettings := data.extraSettings }

/-- The statement that makes a media server the only main one. -/
def clearOtherMains (service : Service) : List (ServiceConfig Extra) :=
  configs.map fun config =>
    if config.serviceType ≠ service ∧ config.serviceType ∈ mediaServers then
      { config with isMain := false }
    else config

/-- The rows after the first statement of `_upsert_service_config`, if it comes to it. -/
def clearedMains (data : ServiceConfigUpdate Extra) : List (ServiceConfig Extra) :=
  if data.isMain then clearOtherMains configs data.serviceType else configs

/-- The row of the key `(service_type, name)`. -/
def ServiceConfig.HasKey (service : Service) (name : String) (config : ServiceConfig Extra) :
    Prop :=
  config.serviceType = service ∧ config.name = name

instance (service : Service) (name : String) (config : ServiceConfig Extra) :
    Decidable (config.HasKey service name) := inferInstanceAs (Decidable (_ ∧ _))

/-- `_upsert_service_config`, unless it raises. -/
def upsertServiceConfig (data : ServiceConfigUpdate Extra) :
    Option (List (ServiceConfig Extra)) :=
  data.apiKey.bind fun apiKey =>
    let configs := clearedMains configs data
    match data.id with
    | some id =>
      -- another row has the type and the name
      if configs.any fun config => config.id ≠ id ∧
          config.HasKey data.serviceType data.serviceName ∧ configs.any (·.id = id) then none
      else some (configs.map fun config =>
        if config.id = id then data.write apiKey config else config)
    | none =>
      if configs.any (·.HasKey data.serviceType data.serviceName) then
        some (configs.map fun config =>
          if config.HasKey data.serviceType data.serviceName then data.write apiKey config
          else config)
      else
        some (configs ++ [data.write apiKey
          { id := Write.nextId ServiceConfig.id configs
            serviceType := data.serviceType
            baseUrl := data.baseUrl
            apiKey := apiKey }])

end

/-! ## The job of a save -/

/-- A value of a payload. -/
inductive Field (Extra : Type) where
  | none
  | id (id : Nat)
  | text (text : String)
  | service (service : Service)
  | flag (flag : Bool)
  | extra (extra : Extra)

structure ServiceToggleJobPayload (Extra : Type) where
  serviceConfigId : Option Nat := none
  name : Option String := none
  serviceType : Service
  baseUrl : String
  apiKey : String
  enabled : Bool
  isMain : Bool := false
  extraSettings : Option Extra := none
  triggerResync : Bool := false

namespace ServiceToggleJobPayload

/-- `model_dump(mode="json")`. -/
def modelDump (payload : ServiceToggleJobPayload Extra) : Payload (Field Extra) where
  entries :=
    [("service_config_id", payload.serviceConfigId.elim .none .id),
      ("name", payload.name.elim .none .text), ("service_type", .service payload.serviceType),
      ("base_url", .text payload.baseUrl), ("api_key", .text payload.apiKey),
      ("enabled", .flag payload.enabled), ("is_main", .flag payload.isMain),
      ("extra_settings", payload.extraSettings.elim .none .extra),
      ("trigger_resync", .flag payload.triggerResync)]
  nodup := by simp

/-- `model_validate`, unless it raises. -/
def modelValidate (payload : Payload (Field Extra)) : Option (ServiceToggleJobPayload Extra) := do
  let serviceConfigId ← match payload.get? "service_config_id" with
    | some (.id id) => some (some id)
    | some .none | none => some none
    | _ => none
  let name ← match payload.get? "name" with
    | some (.text name) => some (some name)
    | some .none | none => some none
    | _ => none
  let some (.service serviceType) := payload.get? "service_type" | none
  let some (.text baseUrl) := payload.get? "base_url" | none
  let some (.text apiKey) := payload.get? "api_key" | none
  let some (.flag enabled) := payload.get? "enabled" | none
  let isMain ← match payload.get? "is_main" with
    | some (.flag isMain) => some isMain
    | none => some false
    | _ => none
  let extraSettings ← match payload.get? "extra_settings" with
    | some (.extra extra) => some (some extra)
    | some .none | none => some none
    | _ => none
  let triggerResync ← match payload.get? "trigger_resync" with
    | some (.flag triggerResync) => some triggerResync
    | none => some false
    | _ => none
  return ⟨serviceConfigId, name, serviceType, baseUrl, apiKey, enabled, isMain, extraSettings,
    triggerResync⟩

/-- A payload is read back as it was written. -/
theorem modelValidate_modelDump (payload : ServiceToggleJobPayload Extra) :
    modelValidate payload.modelDump = some payload := by
  obtain ⟨serviceConfigId, name, _, _, _, _, _, extraSettings, _⟩ := payload
  cases serviceConfigId <;> cases name <;> cases extraSettings <;> rfl

/-- The update that `run_background_job` passes on. -/
def update (payload : ServiceToggleJobPayload Extra) : ServiceConfigUpdate Extra where
  id := payload.serviceConfigId
  name := payload.name
  serviceType := payload.serviceType
  baseUrl := payload.baseUrl
  apiKey := some payload.apiKey
  enabled := payload.enabled
  isMain := payload.isMain
  extraSettings := payload.extraSettings

end ServiceToggleJobPayload

def toggleKeyPrefix : String := "service-toggle-"

def toggleKey (configId : Nat) : String := toggleKeyPrefix ++ configId.repr

/-- What `set_service_settings` tells the job about the row it has saved. -/
def togglePayload (data : ServiceConfigUpdate Extra) (configId : Nat) (triggerResync : Bool) :
    ServiceToggleJobPayload Extra where
  serviceConfigId := some configId
  name := some data.serviceName
  serviceType := data.serviceType
  baseUrl := data.baseUrl
  apiKey := data.apiKey.getD ""
  enabled := data.enabled
  isMain := data.isMain
  extraSettings := data.extraSettings
  triggerResync := triggerResync

def toggleRequest (data : ServiceConfigUpdate Extra) (configId : Nat) (triggerResync : Bool)
    (now : Nat) : EnqueueRequest (Field Extra) where
  jobType := .serviceToggle
  payload := (togglePayload data configId triggerResync).modelDump
  runAt := now
  dedupeKey := some (toggleKey configId)
  replacePending := true

/-! ## Deleting -/

/-- What `delete_service_settings` deletes, unless it refuses. -/
def checkDelete (configs : List (ServiceConfig Extra)) (configId : Nat) :
    Except HTTPException (ServiceConfig Extra) :=
  match configs.find? (·.id = configId) with
  | none => .error ⟨404, "Service configuration not found"⟩
  | some config =>
    if config.serviceType ∈ mediaServers ∧ config.isMain then
      .error ⟨409, "Cannot delete the active main media server. " ++
        "Assign a different main server first."⟩
    else .ok config

/-! ## The runtime -/

/-- The comparison of `handle_service_toggle` with the row of its configuration. -/
def ServiceConfigUpdate.IsCurrent (data : ServiceConfigUpdate Extra)
    (config : ServiceConfig Extra) : Prop :=
  config.serviceType = data.serviceType ∧ config.enabled = data.enabled ∧
    config.baseUrl = data.baseUrl ∧ config.isMain = data.isMain ∧ data.apiKey = some config.apiKey

instance (data : ServiceConfigUpdate Extra) (config : ServiceConfig Extra) :
    Decidable (data.IsCurrent config) := inferInstanceAs (Decidable (_ ∧ _))

/-- `_clear_service_runtime`. -/
def clearServiceRuntime (m : ServiceManager) (service : Service) (configId : Option Nat) :
    ServiceManager :=
  match service with
  | .jellyfin => m.clearJellyfin
  | .emby => m.clearEmby
  | .plex => m.clearPlex
  | .radarr => m.clearRadarr configId
  | .sonarr => m.clearSonarr configId
  | .qbittorrent => m.clearQbittorrent
  | .seerr => m.clearSeerr
  | .tautulli => m.clearTautulli
  | .mdblist | .omdb => m

section

variable (reader : ExtraReader Extra) (m : ServiceManager)

/-- What `_apply_service_runtime_state` does to the manager after it has cleared it for an enabled
service, unless it raises. -/
def initializeService (data : ServiceConfigUpdate Extra) (healthy : Bool) :
    Option ServiceManager :=
  let apiKey := data.apiKey.getD ""
  match data.serviceType with
  | .jellyfin => some (m.initializeJellyfin data.baseUrl apiKey data.isMain healthy)
  | .emby => some (m.initializeEmby data.baseUrl apiKey data.isMain healthy)
  | .plex => some (m.initializePlex data.baseUrl apiKey data.isMain healthy)
  | .radarr => (reader.timeout data.extraSettings 300).map fun timeout =>
    m.initializeRadarr data.baseUrl apiKey timeout data.id healthy
  | .sonarr => (reader.timeout data.extraSettings 300).map fun timeout =>
    m.initializeSonarr data.baseUrl apiKey timeout data.id healthy
  | .qbittorrent => some (m.initializeQbittorrent
    (reader.qbittorrent data.baseUrl apiKey data.extraSettings))
  | .seerr => some (m.initializeSeerr data.baseUrl apiKey)
  | .tautulli => (reader.timeout data.extraSettings 30).map fun timeout =>
    m.initializeTautulli data.baseUrl apiKey timeout
  | .mdblist | .omdb => some m

/-- The turn of a configuration in `load_enabled_services`, unless it raises. -/
def loadService (config : ServiceConfig Extra) (healthy : Bool) : Option ServiceManager :=
  match config.serviceType with
  -- without the timeout of its settings
  | .tautulli => some (m.initializeTautulli config.baseUrl config.apiKey 30)
  | _ => initializeService reader m
    { id := some config.id
      name := some config.name
      serviceType := config.serviceType
      baseUrl := config.baseUrl
      apiKey := some config.apiKey
      enabled := config.enabled
      extraSettings := config.extraSettings
      isMain := config.isMain } healthy

/-- `load_enabled_services` of a new process, unless it raises. -/
def loadEnabledServices (configs : List (ServiceConfig Extra)) (healthy : Nat → Bool) :
    Option ServiceManager :=
  let enabled := configs.filter (·.enabled)
  if 1 < (enabled.filter (·.isMain)).length then none
  else enabled.foldlM (fun m config => loadService reader m config (healthy config.id)) {}

end

end MediaMasterr.Services
