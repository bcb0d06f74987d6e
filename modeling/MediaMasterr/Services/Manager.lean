import Mathlib.Logic.Function.Basic
import MediaMasterr.Database.Tables
import MediaMasterr.Foundations.Dict
import MediaMasterr.Foundations.PythonText

/-! # The service manager

`core/service_manager.py`: the clients of the configured services, how they are made and how they
are given up. A client is an object with a session of its own, and has a handle to tell it from
the others. Whether a health check passes is told from outside. -/

namespace MediaMasterr.Services

open MediaMasterr.Database MediaMasterr.Foundations

/-- `MEDIA_SERVERS`. -/
def mediaServers : List Service := [.jellyfin, .emby, .plex]

/-- `ARR_SERVICES`. -/
def arrServices : List Service := [.radarr, .sonarr]

/-- What a client is made with. -/
structure Connection where
  baseUrl : String
  apiKey : String
  timeout : Option Int := none
  username : Option String := none
  useHttps : Bool := false
  deriving DecidableEq, Repr

/-- An object of the class of its service. -/
structure Client where
  handle : Nat
  service : Service
  connection : Connection
  deriving DecidableEq, Repr

/-- `_radarr` and `_radarr_clients`, or the same of Sonarr. -/
structure ArrClients where
  current : Option Client := none
  clients : Dict Nat Client := ∅

/-- The manager, with the number of clients made so far and the handles of those whose session
is closed. -/
structure ServiceManager where
  mainMediaServer : Option Client := none
  /-- `_jellyfin`, `_emby`, `_plex`, `_qbittorrent`, `_seerr` and `_tautulli`. -/
  single : Service → Option Client := fun _ => none
  arr : Service → ArrClients := fun _ => {}
  made : Nat := 0
  closed : List Nat := []

namespace ServiceManager

/-- `a is b`. -/
def IsSame (a b : Option Client) : Prop := a.map Client.handle = b.map Client.handle

instance (a b : Option Client) : Decidable (IsSame a b) := inferInstanceAs (Decidable (_ = _))

variable (m : ServiceManager)

/-! ## Getting clients -/

/-- The properties `radarr` and `sonarr`. -/
def currentOrFirst (service : Service) : Option Client :=
  (m.arr service).current.or (m.arr service).clients.values.head?

/-- `get_radarr` and `get_sonarr`. -/
def getArr (service : Service) (configId : Option Nat) : Option Client :=
  match configId with
  | none => m.currentOrFirst service
  | some id => (m.arr service).clients.get? id

def getRadarr := m.getArr .radarr
def getSonarr := m.getArr .sonarr

/-! ## Making clients -/

/-- The next object. -/
def newClient (service : Service) (connection : Connection) : Client :=
  ⟨m.made, service, connection⟩

def initializeMediaServer (service : Service) (baseUrl apiKey : String) (isMain healthy : Bool) :
    ServiceManager :=
  let client := m.newClient service
    { baseUrl := PythonText.rstrip '/' baseUrl, apiKey := apiKey }
  -- a client that fails its health check stays in its place
  { m with
    single := Function.update m.single service (some client)
    mainMediaServer := if healthy && isMain then some client else m.mainMediaServer
    made := m.made + 1 }

def initializeJellyfin := m.initializeMediaServer .jellyfin
def initializeEmby := m.initializeMediaServer .emby
def initializePlex := m.initializeMediaServer .plex

def initializeArr (service : Service) (baseUrl apiKey : String) (timeout : Int)
    (configId : Option Nat) (healthy : Bool) : ServiceManager :=
  let client := m.newClient service
    { baseUrl := PythonText.rstrip '/' baseUrl, apiKey := apiKey, timeout := some timeout }
  if healthy then
    { m with
      arr := Function.update m.arr service
        { current := some client
          clients := configId.elim (m.arr service).clients
            ((m.arr service).clients.set · client) }
      made := m.made + 1 }
  else { m with made := m.made + 1 }

def initializeRadarr := m.initializeArr .radarr
def initializeSonarr := m.initializeArr .sonarr

/-- The other services keep the client that they have made, whatever its health. -/
def initializeSingle (service : Service) (connection : Connection) : ServiceManager :=
  { m with
    single := Function.update m.single service (some (m.newClient service connection))
    made := m.made + 1 }

def initializeSeerr (baseUrl apiKey : String) : ServiceManager :=
  m.initializeSingle .seerr { baseUrl := PythonText.rstrip '/' baseUrl, apiKey := apiKey }

def initializeTautulli (baseUrl apiKey : String) (timeout : Int) : ServiceManager :=
  m.initializeSingle .tautulli
    { baseUrl := PythonText.rstrip '/' baseUrl, apiKey := apiKey, timeout := some timeout }

/-- `initialize_qbittorrent`, from what `parse_qbittorrent_connection_config` returns. -/
def initializeQbittorrent (config : Option Connection) : ServiceManager :=
  config.elim m (m.initializeSingle .qbittorrent)

/-! ## Giving clients up -/

/-- `await client.session.close()`, where there is a client. -/
def closing (client : Option Client) : List Nat := m.closed ++ (client.map Client.handle).toList

def clearSingle (service : Service) : ServiceManager :=
  { m with
    single := Function.update m.single service none
    closed := m.closing (m.single service) }

def clearQbittorrent := m.clearSingle .qbittorrent
def clearSeerr := m.clearSingle .seerr
def clearTautulli := m.clearSingle .tautulli

def clearMediaServer (service : Service) : ServiceManager :=
  { m.clearSingle service with
    mainMediaServer :=
      if IsSame m.mainMediaServer (m.single service) then none else m.mainMediaServer }

def clearJellyfin := m.clearMediaServer .jellyfin
def clearEmby := m.clearMediaServer .emby
def clearPlex := m.clearMediaServer .plex

def clearArr (service : Service) (configId : Option Nat) : ServiceManager :=
  let own := m.arr service
  match configId with
  | some id =>
    let client := own.clients.get? id
    let clients := own.clients.erase id
    { m with
      arr := Function.update m.arr service
        { current := if IsSame own.current client then clients.values.head? else own.current
          clients := clients }
      closed := m.closing client }
  | none =>
    { m with
      arr := Function.update m.arr service {}
      closed := m.closing own.current ++
        (own.clients.values.filter fun client => ¬IsSame (some client) own.current).map
          Client.handle }

def clearRadarr := m.clearArr .radarr
def clearSonarr := m.clearArr .sonarr

end ServiceManager

end MediaMasterr.Services
