import MediaMasterr.Filesystem.Paths
import MediaMasterr.Foundations.BestScore
import MediaMasterr.RuleEngine.Values

/-! # Downloads intelligence

`DownloadsIntelligenceService`: every indexed file of a download root is matched
with the torrents of the client and with the correlation graph of its media, and
gets a lifecycle state and a class for the cleanup. -/

namespace MediaMasterr.Mie

open MediaMasterr.Foundations MediaMasterr.Database MediaMasterr.Filesystem MediaMasterr.RuleEngine

/-- The interpreter functions that the service calls: `str`, and `int` on a text, which has
no value when it raises `ValueError`. -/
structure PythonCalls extends PythonText.CaseTables where
  str : PyValue → String
  int : String → Option Int

inductive DownloadLifecycleState where
  | metadataDownload
  | queued
  | downloading
  | checking
  | moving
  | seeding
  | failed
  | stale
  | imported
  | unknown
  | orphaned
  deriving DecidableEq, Repr

/-- The value of a state, by which the items are sorted. -/
def DownloadLifecycleState.value : DownloadLifecycleState → String
  | .metadataDownload => "metadata_download"
  | .queued => "queued"
  | .downloading => "downloading"
  | .checking => "checking"
  | .moving => "moving"
  | .seeding => "seeding"
  | .failed => "failed"
  | .stale => "stale"
  | .imported => "imported"
  | .unknown => "unknown"
  | .orphaned => "orphaned"

/-- `_ACTIVE_STATES`. -/
def activeStates : List DownloadLifecycleState :=
  [.metadataDownload, .queued, .downloading, .checking, .moving, .seeding]

inductive DownloadCleanupClassification where
  | none
  | failedImport
  | needsInvestigation
  | safeToDelete
  | safeToArchive
  | duplicateDownload
  | abandonedDownload
  deriving DecidableEq, Repr

/-- The classes that count the bytes of an entry as recoverable. -/
def recoverableClasses : List DownloadCleanupClassification :=
  [.safeToDelete, .duplicateDownload, .abandonedDownload]

structure FilesystemRoot where
  id : Nat
  name : String
  path : String
  enabled : Bool := true
  deriving DecidableEq, Repr

structure FilesystemIndexEntry where
  rootId : Nat
  path : String
  entryType : String
  sizeBytes : Nat := 0
  modifiedAt : Option Nat := none
  fingerprint : Option String := none
  metadataJson : List (String × PyValue) := []
  indexedAt : Nat

/-- A row of the client's torrent list. -/
structure Torrent where
  hash : Option String := none
  name : Option String := none
  savePath : Option String := none
  state : Option String := none
  progress : Option Float := none

/-- What the client gets for its request: no answer that is JSON, JSON that is no list, or a list,
in which a row that is no object has no torrent. -/
inductive ClientAnswer where
  | failed
  | other
  | torrents (rows : List (Option Torrent))

/-- What the correlation graph of a movie or series says, as far as the service reads it. -/
structure MediaGraph where
  requestState : String := "unknown"
  requests : List String := []
  ownership : List String := []
  timeline : List (String × String) := []
  missingFiles : Int := 0
  totalSizeBytes : Int := 0
  overallHealthScore : Int := 0
  deriving DecidableEq, Repr

/-- What a run reads. The graph of media has no value when `media_graph` raises `ValueError`. -/
structure Downloads where
  roots : List FilesystemRoot := []
  entries : List FilesystemIndexEntry := []
  qbittorrent : Option ClientAnswer := none
  mediaGraph : MediaType → Int → Except PyError (Option MediaGraph)
  abandonedHoursVar : Option String := none
  now : Nat := 0

/-! ## Torrents -/

/-- `QBittorrentClient.get_torrents`; a failed request raises. -/
def ClientAnswer.getTorrents : ClientAnswer → Option (List Torrent)
  | .failed => none
  | .other => some []
  | .torrents rows => some rows.reduceOption

/-- `_active_torrents`. -/
def activeTorrents (qbittorrent : Option ClientAnswer) : List Torrent :=
  match qbittorrent with
  | none => []
  | some client => client.getTorrents.getD []

section Service

variable (py : PythonCalls)

/-- `_load_abandoned_hours`. -/
def loadAbandonedHours (raw : Option String) : Int := max 24 ((py.int (raw.getD "336")).getD 336)

/-- `_norm`. -/
def norm (value : String) : String :=
  PythonText.rstrip '/' (py.lower (PythonText.replaceChar '\\' '/' (PythonText.strip value)))

def metadataGet (entry : FilesystemIndexEntry) (key : String) : PyValue :=
  (entry.metadataJson.lookup key).getD .none

/-- `_parse_optional_int`. -/
def parseOptionalInt (value : PyValue) : Option Int :=
  if value.isNone then none
  else
    let text := PythonText.strip (py.str value)
    if text = "" then none else py.int text

/-- `_torrent_state`. -/
def torrentState (rawState : String) (progress : Float) : DownloadLifecycleState :=
  let state := py.lower rawState
  if PythonText.contains state "meta" then .metadataDownload
  else if PythonText.contains state "check" then .checking
  else if PythonText.contains state "move" then .moving
  else if PythonText.contains state "queue" then .queued
  else if PythonText.contains state "down" ∧ !PythonText.contains state "stalled" then .downloading
  else if PythonText.contains state "seed" ∨ PythonText.contains state "upload" ∨
      PythonText.contains state "stalledup" then .seeding
  else if progress < 1 then .downloading
  else .seeding

/-- The set of the longer words of a name: `re.split` at all but small letters and digits. -/
def nameTokens (name : String) : List String :=
  let isWordChar (c : Char) : Bool := ('a' ≤ c && c ≤ 'z') || ('0' ≤ c && c ≤ '9')
  ((((py.lower name).toList.splitOnP (!isWordChar ·)).filter
    (2 < ·.length)).map String.ofList).dedup

def fingerprintOf (entry : FilesystemIndexEntry) : String :=
  py.lower (PythonText.strip (entry.fingerprint.getD ""))

def metaHashOf (entry : FilesystemIndexEntry) : String :=
  let value := metadataGet entry "torrent_hash"
  py.lower (PythonText.strip (if value.truthy then py.str value else ""))

def torrentHashOf (torrent : Torrent) : String :=
  py.lower (PythonText.strip (torrent.hash.getD ""))

/-- The hash of the torrent is that of the entry. -/
def matchesHash (entry : FilesystemIndexEntry) (torrent : Torrent) : Bool :=
  torrentHashOf py torrent ≠ "" &&
    (torrentHashOf py torrent = metaHashOf py entry || torrentHashOf py torrent =
      fingerprintOf py entry)

/-- One of the two paths begins with the other one. -/
def matchesPath (entry : FilesystemIndexEntry) (torrent : Torrent) : Bool :=
  let path := norm py entry.path
  let savePath := norm py (torrent.savePath.getD "")
  savePath ≠ "" && (PythonText.startsWith path savePath || PythonText.startsWith savePath path)

/-- The last component of the entry's path. -/
def entryName (entry : FilesystemIndexEntry) : String :=
  ((LocalPath.ofString (norm py entry.path)).parts.getLast?).getD ""

/-- The score of a torrent in `_torrent_for_entry`. -/
def torrentScore (entry : FilesystemIndexEntry) (torrent : Torrent) : Int :=
  let tokens := nameTokens py (entryName py entry)
  let overlap := (tokens.filter (· ∈ nameTokens py (torrent.name.getD ""))).length
  (if matchesHash py entry torrent then 6 else 0) +
    (if matchesPath py entry torrent then 4 else 0) +
    min 3 (overlap : Int)

/-- `_torrent_for_entry`. -/
def torrentForEntry (entry : FilesystemIndexEntry) (torrents : List Torrent) : Option Torrent :=
  bestAtLeast (torrentScore py entry) (-1) 4 torrents

/-! ## Media -/

/-- The movie or series that the metadata of an entry names. -/
def mediaOf (entry : FilesystemIndexEntry) : Except PyError (Option (MediaType × Int)) :=
  match parseOptionalInt py (metadataGet entry "movie_id"),
      parseOptionalInt py (metadataGet entry "series_id") with
  | some movieId, _ => .ok (some (.movie, movieId))
  | none, some seriesId => .ok (some (.series, seriesId))
  | none, none =>
    let mediaType := metadataGet entry "media_type"
    -- an unhashable value raises in the test for membership
    if !mediaType.hashable then .error .typeError
    else if mediaType.isStr "movie" ∨ mediaType.isStr "series" then
      .ok ((parseOptionalInt py (metadataGet entry "media_id")).map fun mediaId =>
        (if mediaType.isStr "movie" then .movie else .series, mediaId))
    else .ok none

/-- `_graph_for`, without the cache. -/
def graphFor (w : Downloads) : Option (MediaType × Int) → Except PyError (Option MediaGraph)
  | none => .ok none
  | some (mediaType, mediaId) => w.mediaGraph mediaType mediaId

/-- What is known of the media of an entry. -/
structure MediaEvidence where
  media : Option (MediaType × Int)
  graph : Option MediaGraph

def mediaEvidence (w : Downloads) (entry : FilesystemIndexEntry) :
    Except PyError MediaEvidence := do
  let media ← mediaOf py entry
  let graph ← graphFor w media
  return ⟨media, graph⟩

end Service

/-! ## Classification -/

section Classification

variable (graph : Option MediaGraph)

def requestKnown : Bool := graph.any fun g => g.requestState ≠ "unknown" ∨ g.requests ≠ []

def arrKnown : Bool := graph.any fun g => g.ownership ≠ []

def timelineOf : List String :=
  ((graph.map (·.timeline)).getD []).take 4 |>.map fun event => event.1 ++ ":" ++ event.2

def hasImportHistory : Bool :=
  ["available", "import", "added_to_arr"].any
    (PythonText.contains (" ".intercalate (timelineOf graph)) ·)

def importCompleted : Bool := graph.any fun g => g.missingFiles = 0 ∧ 0 < g.totalSizeBytes

/-- `torrent_state in _ACTIVE_STATES`; an entry has a torrent state exactly when it has a torrent.
-/
def isActive (torrentState : Option DownloadLifecycleState) : Bool :=
  torrentState.any (· ∈ activeStates)

def importFailed (torrentState : Option DownloadLifecycleState) : Bool :=
  graph.any (fun g => 0 < g.missingFiles ∨ g.overallHealthScore < 45) && !isActive torrentState

/-- The lifecycle state and the import status of an entry. -/
def lifecycleOf (media : Option (MediaType × Int)) (torrentState : Option DownloadLifecycleState) :
    DownloadLifecycleState × String :=
  if isActive torrentState then (torrentState.getD .unknown, "in_progress")
  else if importFailed graph torrentState then (.failed, "failed")
  else if importCompleted graph ∧ torrentState.isNone then
    (if !arrKnown graph ∧ !requestKnown graph then .stale else .imported,
      "completed_waiting_cleanup")
  else if torrentState.isNone ∧ !arrKnown graph ∧ !requestKnown graph ∧ !hasImportHistory graph then
    if graph.isNone ∧ media.isNone then (.unknown, "undetermined") else (.orphaned, "no_ownership")
  else if importCompleted graph then (.imported, "completed")
  else (.unknown, "undetermined")

/-- The class of an entry, with its reason, before the test for abandoned downloads. -/
def cleanupOf (lifecycleState : DownloadLifecycleState)
    (torrentState : Option DownloadLifecycleState) :
    DownloadCleanupClassification × Option String :=
  if lifecycleState = .failed then
    (.failedImport, some "Download/import signals indicate a failed import path.")
  else if lifecycleState = .unknown then
    (.needsInvestigation, some "Ownership and import lineage could not be determined.")
  else if lifecycleState = .orphaned ∨ lifecycleState = .stale then
    (.safeToDelete,
      some "No active ownership remains and object is not required for active transfer.")
  else if lifecycleState = .imported ∧ torrentState = some .seeding then
    (.safeToArchive, some "Imported content still seeding; archive is safer than deletion.")
  else if lifecycleState = .imported ∧ importCompleted graph then
    (.duplicateDownload, some "Media already exists in canonical library while download copy remains.")
  else (.none, none)

end Classification

structure DownloadLifecycleObject where
  path : String
  entryType : String
  mediaType : Option MediaType
  mediaId : Option Int
  lifecycleState : DownloadLifecycleState
  importStatus : String
  torrentState : Option DownloadLifecycleState
  ageHours : Nat
  sizeBytes : Nat
  cleanupClassification : DownloadCleanupClassification
  cleanupReason : Option String
  recoverableSpaceBytes : Nat
  deriving DecidableEq, Repr

section Run

variable (py : PythonCalls) (w : Downloads)

/-- `_classify_entry`, behind the lookup of the entry's media. -/
def classify (entry : FilesystemIndexEntry) (evidence : MediaEvidence) (torrent : Option Torrent) :
    DownloadLifecycleObject :=
  let state := torrent.map fun t => torrentState py (t.state.getD "") (t.progress.getD 0.0)
  let (lifecycleState, importStatus) := lifecycleOf evidence.graph evidence.media state
  let ageHours := (w.now - entry.modifiedAt.getD entry.indexedAt) / 3600
  let abandonedHours := loadAbandonedHours py w.abandonedHoursVar
  let found := cleanupOf evidence.graph lifecycleState state
  let (cleanup, cleanupReason) :=
    if found.1 = .none ∧ abandonedHours ≤ ageHours ∧ torrent.isNone then
      (.abandonedDownload, some ("No activity for " ++ toString ageHours ++ "h (threshold " ++
        toString abandonedHours ++ "h)."))
    else found
  { path := entry.path
    entryType := entry.entryType
    mediaType := evidence.media.map Prod.fst
    mediaId := evidence.media.map Prod.snd
    lifecycleState := lifecycleState
    importStatus := importStatus
    torrentState := state
    ageHours := ageHours
    sizeBytes := entry.sizeBytes
    cleanupClassification := cleanup
    cleanupReason := cleanupReason
    recoverableSpaceBytes := if cleanup ∈ recoverableClasses then entry.sizeBytes else 0 }

/-- `_classify_entry`. -/
def classifyEntry (torrents : List Torrent) (entry : FilesystemIndexEntry) :
    Except PyError DownloadLifecycleObject := do
  let evidence ← mediaEvidence py w entry
  return classify py w entry evidence (torrentForEntry py entry torrents)

/-- `_downloads_roots`. -/
def downloadsRoots : List FilesystemRoot :=
  w.roots.filter fun root =>
    root.enabled && (PythonText.contains (py.lower root.name) "download" ||
      PythonText.contains (py.lower root.path) "/downloads" ||
      PythonText.contains (py.lower root.path) "\\downloads")

/-- The entries of the download roots whose path begins with that of their root. -/
def filteredRows : List FilesystemIndexEntry :=
  w.entries.filter fun entry =>
    match (downloadsRoots py w).find? (·.id = entry.rootId) with
    | none => false
    | some root => norm py root.path ≠ "" && PythonText.startsWith (norm py entry.path)
      (norm py root.path)

/-- `_classify_entry` for one entry after the other. -/
def classifyRows : Except PyError (List DownloadLifecycleObject) :=
  (filteredRows py w).mapM (classifyEntry py w (activeTorrents w.qbittorrent))

structure DownloadsHealthSummary where
  totalDownloadSpace : Nat := 0
  activeDownloads : Nat := 0
  waitingForImport : Nat := 0
  completedWaitingForCleanup : Nat := 0
  importedButStillPresent : Nat := 0
  duplicateDownloads : Nat := 0
  failedDownloads : Nat := 0
  unknownDownloads : Nat := 0
  orphanedDownloads : Nat := 0
  safeToDelete : Nat := 0
  recoverableSpace : Nat := 0
  deriving DecidableEq, Repr

/-- `_summarize`. -/
def summarize (items : List DownloadLifecycleObject) : DownloadsHealthSummary where
  totalDownloadSpace := (items.map (·.sizeBytes)).sum
  activeDownloads := items.countP (·.lifecycleState ∈ activeStates)
  waitingForImport := items.countP (·.importStatus = "in_progress")
  completedWaitingForCleanup := items.countP (·.importStatus = "completed_waiting_cleanup")
  importedButStillPresent :=
    items.countP fun item => item.lifecycleState = .imported ∨ item.lifecycleState = .stale
  duplicateDownloads := items.countP (·.cleanupClassification = .duplicateDownload)
  failedDownloads := items.countP (·.lifecycleState = .failed)
  unknownDownloads := items.countP (·.lifecycleState = .unknown)
  orphanedDownloads := items.countP (·.lifecycleState = .orphaned)
  safeToDelete := items.countP (·.cleanupClassification = .safeToDelete)
  recoverableSpace :=
    ((items.filter fun item => item.cleanupClassification = .safeToDelete ∨
      item.cleanupClassification = .duplicateDownload).map (·.sizeBytes)).sum

/-- The order of the items: state, larger ones first, path. -/
def itemPrecedes (a b : DownloadLifecycleObject) : Bool :=
  a.lifecycleState.value < b.lifecycleState.value ||
    (a.lifecycleState.value == b.lifecycleState.value &&
      (b.sizeBytes < a.sizeBytes || (b.sizeBytes == a.sizeBytes && a.path ≤ b.path)))

structure DownloadsIntelligenceResult where
  summary : DownloadsHealthSummary := {}
  items : List DownloadLifecycleObject := []
  deriving DecidableEq, Repr

/-- `run`. -/
def run : Except PyError DownloadsIntelligenceResult := do
  if (downloadsRoots py w).isEmpty then return {}
  let items ← classifyRows py w
  return ⟨summarize items, (items.mergeSort itemPrecedes).take 500⟩

end Run

end MediaMasterr.Mie
