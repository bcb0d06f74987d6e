import MediaMasterr.Foundations.Dict
import MediaMasterr.Mie.DownloadsIntelligence

/-! # The recommendations of the operations page

`OperationsService.recommendations`: cleanup plans, reclaim candidates,
correlated torrents, the issues and the readiness of the correlation graphs and
the downloads feed one list of recommendations. Beside it
`_refresh_media_assets_snapshot`, which writes what it recommends for every movie
and series. -/

namespace MediaMasterr.Mie.OperationsService

open MediaMasterr.Foundations MediaMasterr.Database MediaMasterr.Filesystem

/-- The value of a member of the enumeration. -/
def mediaTypeValue : MediaType → String
  | .movie => "movie"
  | .series => "series"

inductive SafetyLevel where
  | safe
  | lowRisk
  | mediumRisk
  | highRisk
  deriving DecidableEq, Repr

/-- `risk_rank`. -/
def SafetyLevel.rank : SafetyLevel → Nat
  | .highRisk => 0
  | .mediumRisk => 1
  | .lowRisk => 2
  | .safe => 3

/-- `_coerce_safety_level`. -/
def coerceSafetyLevel (value : String) : SafetyLevel :=
  if value = "low_risk" then .lowRisk
  else if value = "medium_risk" then .mediumRisk
  else if value = "high_risk" then .highRisk
  else .safe

/-- An `OperationsRecommendation`. `artworkMedia` are the `media_type` and the `media_id` whose
artwork it shows. -/
structure Recommendation where
  id : String
  cardKey : String
  title : String
  action : String
  safetyLevel : SafetyLevel
  targetType : String
  targetId : Option String
  estimatedRecoveryBytes : Int := 0
  artworkMedia : Option MediaType × Option Nat := (none, none)
  deriving DecidableEq, Repr

/-! ## Rows -/

structure CleanupPlanItem where
  id : Nat
  cardKey : String
  title : String
  action : String := "review"
  safetyLevel : String := "safe"
  targetType : String := "unknown"
  targetId : Option String := none
  estimatedRecoveryBytes : Int := 0
  createdAt : Nat := 0
  deriving DecidableEq, Repr

/-- What the snapshot writes in a `MediaAsset` row. -/
structure AssetState where
  lifecycleState : String := "imported"
  healthState : String := "healthy"
  hasTorrent : Bool := false
  hasFilesystemObjects : Bool := false
  isProtected : Bool := false
  recommendation : Option String := none
  deriving DecidableEq, Repr

structure MediaAsset where
  id : Nat
  mediaType : MediaType
  movieId : Option Nat := none
  seriesId : Option Nat := none
  state : AssetState := {}
  artworkStatus : String := "MISSING"
  updatedAt : Nat := 0
  deriving DecidableEq, Repr

/-- A row of the client's torrent list; one that is no object is `none` there. -/
structure RawTorrent where
  hash : Option String := none
  name : Option String := none
  category : Option String := none
  state : Option String := none
  savePath : Option String := none
  progress : Option Float := none
  ratio : Option Float := none
  size : Option Int := none

structure TorrentSummary where
  id : String
  hash : Option String
  name : String
  category : Option String
  state : Option String
  savePath : Option String
  deriving DecidableEq, Repr

structure GraphTorrent where
  computedState : String
  rawState : Option String := none
  deriving DecidableEq, Repr

/-- What the service and the issue rules read of the correlation graph of a movie or series. -/
structure CorrelationGraph where
  mediaType : MediaType
  mediaId : Nat
  title : String
  torrents : List GraphTorrent := []
  missingFiles : Int := 0
  mediaFiles : Nat := 0
  totalSizeBytes : Int := 0
  requestState : String := "unknown"
  ownership : Nat := 0
  posters : List String := []
  deriving DecidableEq, Repr

/-- The interpreter's and the database's functions that the service calls: `sha1` is the hex
digest of a text, `digits` the value of a text for which `isdigit` holds, and `castInteger` the
cast of a text to an integer column. -/
structure OperationsCalls extends PythonCalls where
  sha1 : String → String
  digits : String → Option Nat
  castInteger : String → Int

/-- What the service reads. The media that a torrent is correlated with is the answer of
`resolve_torrent_artwork`; `mediaGraph` has no value where it raises `ValueError`;
`graphSubjects` are those of the request context and `downloads` the classified downloads. Ids are
primary keys. -/
structure OperationsWorld where
  tables : Tables := {}
  approvedForDeletion : ReclaimCandidate → Bool := fun _ => false
  planItems : List CleanupPlanItem := []
  mediaAssets : List MediaAsset := []
  torrents : List (Option RawTorrent) := []
  resolveTorrentArtwork : TorrentSummary → Option (MediaType × Nat) := fun _ => none
  graphSubjects : List (MediaType × Nat) := []
  mediaGraph : MediaType → Nat → Option CorrelationGraph := fun _ _ => none
  downloads : List DownloadLifecycleObject := []
  now : Nat := 0
  planItems_nodup : (planItems.map (·.id)).Nodup := by decide
  candidates_nodup : (tables.candidates.map (·.id)).Nodup := by decide

variable (py : OperationsCalls) (w : OperationsWorld)

/-! ## Protections -/

/-- `_active_protection_sets`: the movies and the series of the protections that count. -/
def activeProtectionSets : List Nat × List Nat :=
  let rows := w.tables.protectedMedia.filter (·.isActive w.now)
  (rows.filterMap (·.movieId), rows.filterMap (·.seriesId))

/-- The movie or series is in the active protection sets. -/
def isProtected : MediaType → Nat → Bool
  | .movie, id => decide (id ∈ (activeProtectionSets w).1)
  | .series, id => decide (id ∈ (activeProtectionSets w).2)

/-! ## Torrents -/

/-- `str(value or "").strip() or None`. -/
def strippedText (value : Option String) : Option String :=
  let text := PythonText.strip (value.getD "")
  if text = "" then none else some text

/-- `torrent_summary_from_raw`. -/
def torrentSummaryFromRaw (item : RawTorrent) (index : Nat) : TorrentSummary :=
  let rawHash := PythonText.strip (item.hash.getD "")
  let savePath := strippedText item.savePath
  let category := strippedText item.category
  let name := (strippedText item.name).getD ("Torrent " ++ toString (index + 1))
  { id := if rawHash ≠ "" then py.lower rawHash
      else py.sha1 (name ++ "|" ++ savePath.getD "" ++ "|" ++ category.getD "" ++ "|" ++
        toString index)
    hash := if rawHash = "" then none else some rawHash
    name := name
    category := category
    state := strippedText item.state
    savePath := savePath }

/-- The torrents that are objects, with their summaries. -/
def summaries : List (TorrentSummary × RawTorrent) :=
  w.torrents.zipIdx.filterMap fun p => p.1.map fun item => (torrentSummaryFromRaw py item p.2, item)

def summaryPrecedes (a b : TorrentSummary) : Bool :=
  py.lower a.name < py.lower b.name ||
    (py.lower a.name == py.lower b.name && a.id ≤ b.id)

/-- `build_torrent_summaries`. -/
def buildTorrentSummaries : List TorrentSummary :=
  ((summaries py w).map Prod.fst).mergeSort (summaryPrecedes py)

/-- `correlated` of `_load_torrent_state`. -/
def correlatedTorrents : Dict String (Option (MediaType × Nat)) :=
  Dict.build (fun summary => some summary.id) w.resolveTorrentArtwork (buildTorrentSummaries py w)

/-- `summary_by_id`. -/
def rawById : Dict String RawTorrent :=
  Dict.build (fun p => some p.1.id) Prod.snd (summaries py w)

/-! ## The snapshot of the media assets -/

def lifecycleState (hasTorrent isProtected hasFiles : Bool) : String :=
  if hasTorrent && isProtected then "protected_seeding"
  else if hasTorrent && !hasFiles then "import_pending"
  else if hasFiles && !hasTorrent then "detached_media"
  else "imported"

def assetRecommendation (lifecycleState : String) : String :=
  if lifecycleState = "protected_seeding" then "detach_torrent"
  else if lifecycleState = "import_pending" then "investigate_import"
  else "monitor"

def assetState (hasTorrent isProtected hasFiles : Bool) : AssetState where
  lifecycleState := lifecycleState hasTorrent isProtected hasFiles
  healthState := if hasFiles then "healthy" else "degraded"
  hasTorrent := hasTorrent
  hasFilesystemObjects := hasFiles
  isProtected := isProtected
  recommendation := some (assetRecommendation (lifecycleState hasTorrent isProtected hasFiles))

/-- A row that the snapshot adds or changes: its media and what is written. -/
structure AssetWrite where
  mediaType : MediaType
  mediaId : Nat
  state : AssetState
  deriving DecidableEq, Repr

/-- A correlated torrent is one of the movie or series. -/
def hasTorrent (correlated : List (Option (MediaType × Nat))) (mediaType : MediaType) (id : Nat) :
    Bool :=
  decide (some (mediaType, id) ∈ correlated)

def movieHasFiles (movie : Movie) : Bool := w.tables.movieVersions.any (·.movieId = movie.id)

def seriesHasFiles (series : Series) : Bool := series.size.any (0 < ·)

/-- The rows that `_refresh_media_assets_snapshot` writes, in its order. -/
def assetWrites (correlated : List (Option (MediaType × Nat))) : List AssetWrite :=
  ((w.tables.movies.filter (·.removedAt.isNone)).map fun movie =>
    ⟨.movie, movie.id, assetState (hasTorrent correlated .movie movie.id)
      (isProtected w .movie movie.id) (movieHasFiles w movie)⟩) ++
  (w.tables.series.filter (·.removedAt.isNone)).map fun series =>
    ⟨.series, series.id, assetState (hasTorrent correlated .series series.id)
      (isProtected w .series series.id) (seriesHasFiles series)⟩

/-- The asset is that of the written movie or series. -/
def AssetWrite.concerns (write : AssetWrite) (asset : MediaAsset) : Bool :=
  asset.mediaType = write.mediaType &&
    (match write.mediaType with
      | .movie => asset.movieId = some write.mediaId
      | .series => asset.seriesId = some write.mediaId)

/-- The row of the media gets the state, or a new one is added. -/
def AssetWrite.apply (write : AssetWrite) (assets : List MediaAsset) : List MediaAsset :=
  if assets.any write.concerns then
    assets.map fun asset =>
      if write.concerns asset then { asset with state := write.state } else asset
  else
    assets ++ [{ id := (assets.map (·.id)).foldr max 0 + 1
                 mediaType := write.mediaType
                 movieId := if write.mediaType = .movie then some write.mediaId else none
                 seriesId := if write.mediaType = .series then some write.mediaId else none
                 state := write.state }]

/-- `_refresh_media_assets_snapshot`. -/
def refreshMediaAssetsSnapshot : List MediaAsset :=
  (assetWrites w (correlatedTorrents py w).values).foldl (fun assets write => write.apply assets)
    w.mediaAssets

/-! ## The lists of recommendations -/

/-- The order of the lists: risk, recoverable bytes, title. -/
def rowPrecedes (a b : Recommendation) : Bool :=
  a.safetyLevel.rank < b.safetyLevel.rank ||
    (a.safetyLevel.rank == b.safetyLevel.rank &&
      (b.estimatedRecoveryBytes < a.estimatedRecoveryBytes ||
        (b.estimatedRecoveryBytes == a.estimatedRecoveryBytes && py.lower a.title ≤
          py.lower b.title)))

/-- `a or b` for texts. -/
def orText (a : Option String) (b : String) : String :=
  match a with
  | some text => if text = "" then b else text
  | none => b

def movieTitle (id : Int) : Option String :=
  (w.tables.movies.find? fun movie => (movie.id : Int) = id).map (·.title)

def seriesTitle (id : Int) : Option String :=
  (w.tables.series.find? fun series => (series.id : Int) = id).map (·.title)

/-- The media whose artwork the recommendation of a plan item shows. -/
def planMedia (item : CleanupPlanItem) : Option MediaType × Option Nat :=
  (if item.targetType = "movie" then some .movie
    else if item.targetType ∈ ["series", "season", "episode"] then some .series
    else none,
    item.targetId.bind py.digits)

def planRecommendation (item : CleanupPlanItem) : Recommendation where
  id := "plan-item:" ++ toString item.id
  cardKey := item.cardKey
  title := orText (item.targetId.bind fun id => movieTitle w (py.castInteger id))
    (orText (item.targetId.bind fun id => seriesTitle w (py.castInteger id)) item.title)
  action := item.action
  safetyLevel := coerceSafetyLevel item.safetyLevel
  targetType := item.targetType
  targetId := item.targetId
  estimatedRecoveryBytes := item.estimatedRecoveryBytes
  artworkMedia := planMedia py item

/-- The plan items that are listed: the 250 latest. -/
def listedPlanItems : List CleanupPlanItem :=
  (w.planItems.mergeSort fun a b => b.createdAt ≤ a.createdAt).take 250

/-- `_cleanup_plan_recommendations`. -/
def cleanupPlanRecommendations : List Recommendation :=
  (listedPlanItems w).map (planRecommendation py w)

/-- The descending order of a nullable column, `NULL` last. -/
def bytesPrecede : Option Nat → Option Nat → Bool
  | some a, some b => b < a
  | some _, none => true
  | none, _ => false

def candidatePrecedes (a b : ReclaimCandidate) : Bool :=
  bytesPrecede a.estimatedSpaceBytes b.estimatedSpaceBytes ||
    (a.estimatedSpaceBytes == b.estimatedSpaceBytes && b.createdAt ≤ a.createdAt)

/-- The candidates that are listed: the 150 with the most bytes. -/
def listedCandidates : List ReclaimCandidate :=
  (w.tables.candidates.mergeSort candidatePrecedes).take 150

/-- The media whose artwork the recommendation of a candidate shows. -/
def candidateMedia (candidate : ReclaimCandidate) : MediaType × Option Nat :=
  (if candidate.movieId.isSome then .movie else .series, candidate.movieId.or candidate.seriesId)

def candidateRecommendation (candidate : ReclaimCandidate) : Recommendation where
  id := "candidate:" ++ toString candidate.id
  cardKey := "space_recovery"
  title := orText (candidate.movieId.bind fun id => movieTitle w id)
    (orText (candidate.seriesId.bind fun id => seriesTitle w id)
      ("Candidate #" ++ toString candidate.id))
  action := "delete_files"
  safetyLevel := if w.approvedForDeletion candidate then .safe else .lowRisk
  targetType := "reclaim_candidate"
  targetId := some (toString candidate.id)
  estimatedRecoveryBytes := ((candidate.estimatedSpaceBytes.getD 0 : Nat) : Int)
  artworkMedia := (some (candidateMedia candidate).1, (candidateMedia candidate).2)

def versionCount (movie : Movie) : Nat := w.tables.movieVersions.countP (·.movieId = movie.id)

def duplicateRecommendation (movie : Movie) : Recommendation where
  id := "duplicate_release:movie:" ++ toString movie.id
  cardKey := "duplicate_releases"
  title := movie.title
  action := "merge_duplicates"
  safetyLevel := .mediumRisk
  targetType := "movie"
  targetId := some (toString movie.id)
  artworkMedia := (some .movie, some movie.id)

/-- The movies with several versions: the 30 with the most of them. -/
def duplicateMovies : List Movie :=
  ((w.tables.movies.filter fun movie =>
    movie.removedAt.isNone && 1 < versionCount w movie).mergeSort
    fun a b => versionCount w b ≤ versionCount w a).take 30

/-- The torrent is complete and has reached its ratio. -/
def readyToDetachTorrent (raw : RawTorrent) : Bool :=
  decide (0.999 ≤ raw.progress.getD 0) && decide (1 ≤ raw.ratio.getD 0)

def torrentRecommendation (torrentId : String) (raw : RawTorrent) :
    Option (MediaType × Nat) → Option Recommendation
  | none => some
      { id := "orphan_torrent:" ++ torrentId
        cardKey := "orphaned_torrents"
        title := orText raw.name torrentId
        action := "cleanup_torrent"
        safetyLevel := .highRisk
        targetType := "torrent"
        targetId := some torrentId
        estimatedRecoveryBytes := raw.size.getD 0 }
  | some (mediaType, mediaId) =>
    if readyToDetachTorrent raw then some
      { id := "detach_torrent:" ++ torrentId
        cardKey := "ready_to_detach"
        title := orText raw.name torrentId
        action := "detach_torrent"
        safetyLevel := .lowRisk
        targetType := "torrent"
        targetId := some torrentId
        artworkMedia := (some mediaType, some mediaId) }
    else none

def torrentRecommendations : List Recommendation :=
  (correlatedTorrents py w).entries.filterMap fun p =>
    torrentRecommendation p.1 (((rawById py w).get? p.1).getD {}) p.2

/-- The media of an asset. -/
def assetMedia (asset : MediaAsset) : Option (MediaType × Nat) :=
  (asset.movieId.or asset.seriesId).map fun id =>
    (if asset.movieId.isSome then .movie else .series, id)

def artworkRecommendation (asset : MediaAsset) : Option Recommendation :=
  (assetMedia asset).map fun media =>
    { id := "artwork_issue:" ++ toString asset.id
      cardKey := if asset.artworkStatus = "MISSING" then "artwork_missing"
        else if asset.artworkStatus = "PLACEHOLDER" then "artwork_placeholder"
        else if asset.artworkStatus = "INVALID" then "artwork_invalid"
        else "artwork_stale"
      title := match media.1 with
        | .movie => orText (movieTitle w media.2) ("Movie #" ++ toString media.2)
        | .series => orText (seriesTitle w media.2) ("Series #" ++ toString media.2)
      action := "refresh_artwork"
      safetyLevel := .lowRisk
      targetType := mediaTypeValue media.1
      targetId := some (toString media.2)
      artworkMedia := (some media.1, some media.2) }

def artworkIssueStatuses : List String :=
  ["MISSING", "PLACEHOLDER", "INVALID", "NEEDS_REFRESH", "STALE"]

/-- The assets with artwork issues: 60 by status, the latest ones first. -/
def artworkIssueAssets : List MediaAsset :=
  ((w.mediaAssets.filter (·.artworkStatus ∈ artworkIssueStatuses)).mergeSort fun a b =>
    a.artworkStatus < b.artworkStatus ||
      (a.artworkStatus == b.artworkStatus && b.updatedAt ≤ a.updatedAt)).take 60

def healthyRecommendation : Recommendation where
  id := "system:healthy"
  cardKey := "space_recovery"
  title := "Everything Healthy"
  action := "monitor"
  safetyLevel := .safe
  targetType := "system"
  targetId := none

/-- The rows of `_fallback_recommendations` before they are sorted and cut. -/
def fallbackRows : List Recommendation :=
  let items := (listedCandidates w).map (candidateRecommendation w) ++
    (duplicateMovies w).map duplicateRecommendation ++
    torrentRecommendations py w ++
    (artworkIssueAssets w).filterMap (artworkRecommendation w)
  if items = [] then [healthyRecommendation] else items

/-- `_fallback_recommendations`. -/
def fallbackRecommendations : List Recommendation :=
  ((fallbackRows py w).mergeSort (rowPrecedes py)).take 250

/-! ## The correlation graphs -/

/-- The media of the graphs: those of the request context, else of the first 250 assets. -/
def graphSubjectsOf : List (MediaType × Nat) :=
  if w.graphSubjects ≠ [] then w.graphSubjects
  else (w.mediaAssets.take 250).filterMap fun asset =>
    match asset.mediaType with
    | .movie => asset.movieId.map (MediaType.movie, ·)
    | .series => asset.seriesId.map (MediaType.series, ·)

/-- `_load_correlation_graphs`. -/
def loadCorrelationGraphs : List CorrelationGraph :=
  (graphSubjectsOf w).filterMap fun subject => w.mediaGraph subject.1 subject.2

inductive IssueSeverity where
  | critical
  | high
  | medium
  | low
  deriving DecidableEq, Repr

/-- `severity_to_safety`. -/
def IssueSeverity.safetyLevel : IssueSeverity → SafetyLevel
  | .critical => .highRisk
  | .high => .mediumRisk
  | .medium => .lowRisk
  | .low => .safe

structure DetectedIssue where
  issueType : String
  severity : IssueSeverity
  title : String
  action : String
  deriving DecidableEq, Repr

section Issues

variable (graph : CorrelationGraph)

/-- `_media_label`. -/
def mediaLabel : String :=
  if graph.title = "" then mediaTypeValue graph.mediaType ++ " " ++ toString graph.mediaId
  else graph.title

/-- `_torrent_failed`. -/
def torrentFailed : Bool :=
  graph.torrents.any fun torrent =>
    py.lower torrent.computedState ∈ ["failed", "blocked", "missing"]

/-- `_torrent_stalled`. -/
def torrentStalled : Bool :=
  graph.torrents.any fun torrent =>
    PythonText.contains (py.lower (torrent.rawState.getD "")) "stalled" ||
      py.lower torrent.computedState = "queued"

def detectMissingRequest : Option DetectedIssue :=
  if graph.requestState ≠ "unknown" then none
  else some ⟨"missing_request", .medium, "Missing request: " ++ mediaLabel graph, "sync_request"⟩

def detectArtworkGap : Option DetectedIssue :=
  if graph.posters ≠ [] ∧ "/branding/media-placeholder.png" ∉ graph.posters then none
  else some ⟨"artwork_gap", .low, "Artwork gap: " ++ mediaLabel graph, "refresh_artwork"⟩

def detectFailedImport : Option DetectedIssue :=
  if graph.missingFiles ≤ 0 ∧ !torrentFailed py graph then none
  else some ⟨"failed_import", .high, "Failed import risk: " ++ mediaLabel graph, "repair_import"⟩

def detectTorrentHealth : Option DetectedIssue :=
  if graph.torrents = [] ∨ torrentFailed py graph ∨ !torrentStalled py graph then none
  else some
    ⟨"torrent_stalled", .medium, "Torrent stalled: " ++ mediaLabel graph, "investigate_torrent"⟩

def detectFilesystemInconsistency : Option DetectedIssue :=
  if graph.missingFiles = 0 then none
  else some
    ⟨"filesystem_inconsistency",
      if graph.missingFiles = max 1 graph.mediaFiles then .critical else .high,
      "Filesystem inconsistency: " ++ mediaLabel graph, "repair_filesystem"⟩

def detectDuplicateIdentity : Option DetectedIssue :=
  if graph.ownership = 0 ∨ graph.mediaType ≠ .movie ∨ graph.requestState ≠ "unknown" then none
  else some ⟨"duplicate_identity", .medium, "Potential duplicate identity: " ++ mediaLabel graph,
    "review_identity"⟩

/-- `IssueDetector.evaluate`. -/
def detectIssues : List DetectedIssue :=
  [detectMissingRequest graph, detectArtworkGap graph, detectFailedImport py graph,
    detectTorrentHealth py graph, detectFilesystemInconsistency graph,
    detectDuplicateIdentity graph].reduceOption

/-- `issue_to_card`. -/
def issueToCard (issueType : String) : String :=
  if issueType = "missing_request" then "import_pending"
  else if issueType ∈ ["failed_import", "filesystem_inconsistency"] then "broken_imports"
  else if issueType = "torrent_stalled" then "downloading"
  else if issueType = "duplicate_identity" then "identity_issues"
  else "unknown_files"

def issueRecommendation (issue : DetectedIssue) : Recommendation where
  id := "issue:" ++ mediaTypeValue graph.mediaType ++ "-" ++ toString graph.mediaId ++ ":" ++
    issue.issueType
  cardKey := issueToCard issue.issueType
  title := issue.title
  action := issue.action
  safetyLevel := issue.severity.safetyLevel
  targetType := mediaTypeValue graph.mediaType
  targetId := some (toString graph.mediaId)
  artworkMedia := (some graph.mediaType, some graph.mediaId)

/-- No torrent of the graph is active and its library files are complete. -/
def isDetached : Bool :=
  !graph.torrents.any (·.computedState ∈ ["downloading", "queued", "waiting", "seeding"]) &&
    graph.missingFiles ≤ 0 && 0 < graph.totalSizeBytes

def detachedRecommendation : Recommendation where
  id := "detached_media:" ++ mediaTypeValue graph.mediaType ++ ":" ++ toString graph.mediaId
  cardKey := "detached_media"
  title := graph.title
  action := "monitor_detached_media"
  safetyLevel := .safe
  targetType := mediaTypeValue graph.mediaType
  targetId := some (toString graph.mediaId)
  artworkMedia := (some graph.mediaType, some graph.mediaId)

/-- A torrent of the graph is complete and no file is missing. -/
def readyToDetachGraph : Bool :=
  graph.torrents.any (·.computedState ∈ ["completed", "seeding", "imported"]) &&
    graph.missingFiles ≤ 0

def readyRecommendation : Recommendation where
  id := "ready_to_detach:" ++ mediaTypeValue graph.mediaType ++ ":" ++ toString graph.mediaId
  cardKey := "ready_to_detach"
  title := graph.title
  action := "detach_torrent"
  safetyLevel := .lowRisk
  targetType := mediaTypeValue graph.mediaType
  targetId := some (toString graph.mediaId)
  artworkMedia := (some graph.mediaType, some graph.mediaId)

end Issues

/-- `_graph_issue_recommendations`. -/
def graphIssueRecommendations (graphs : List CorrelationGraph) : List Recommendation :=
  graphs.flatMap fun graph => (detectIssues py graph).map (issueRecommendation graph)

/-- `_detached_media_recommendations`. -/
def detachedMediaRecommendations (graphs : List CorrelationGraph) : List Recommendation :=
  (graphs.filter isDetached).map detachedRecommendation

/-- `_ready_to_detach_graph_recommendations`. -/
def readyToDetachGraphRecommendations (graphs : List CorrelationGraph) : List Recommendation :=
  (graphs.filter readyToDetachGraph).map readyRecommendation

/-! ## The downloads -/

/-- The action, the safety level and the card of a class of downloads. -/
def downloadAction : DownloadCleanupClassification → String × SafetyLevel × String
  | .safeToDelete => ("delete_download_candidate", .safe, "safe_to_delete")
  | .safeToArchive => ("archive_download_candidate", .lowRisk, "safe_to_archive")
  | .needsInvestigation => ("investigate_download", .lowRisk, "needs_investigation")
  | .failedImport => ("repair_failed_import", .mediumRisk, "failed_downloads")
  | .duplicateDownload => ("review_duplicate_download", .lowRisk, "duplicate_downloads")
  | .abandonedDownload => ("review_abandoned_download", .lowRisk, "orphaned_downloads")
  | .none => ("monitor_download", .safe, "unknown_downloads")

/-- `_to_recommendation`. -/
def downloadRecommendation (item : DownloadLifecycleObject) : Option Recommendation :=
  if item.cleanupClassification = .none then none
  else some
    { id := "download:" ++ item.path
      cardKey := (downloadAction item.cleanupClassification).2.2
      title := ((LocalPath.ofString item.path).parts.getLast?).getD item.path
      action := (downloadAction item.cleanupClassification).1
      safetyLevel := (downloadAction item.cleanupClassification).2.1
      targetType := "download_object"
      targetId := some item.path
      estimatedRecoveryBytes :=
        if item.cleanupClassification ∈ [.safeToDelete, .duplicateDownload] then item.sizeBytes
        else 0 }

/-- The recommendations of the downloads' run. -/
def downloadRecommendations : List Recommendation :=
  ((w.downloads.filterMap downloadRecommendation).mergeSort (rowPrecedes py)).take 250

/-! ## The whole list -/

/-- The rows of all producers, in the order of `recommendations`. -/
def producedRows : List Recommendation :=
  let graphs := loadCorrelationGraphs w
  cleanupPlanRecommendations py w ++ fallbackRecommendations py w ++
    graphIssueRecommendations py graphs ++ detachedMediaRecommendations graphs ++
    readyToDetachGraphRecommendations graphs ++ downloadRecommendations py w

/-- `unique_by_id`: of the rows with one id the last one counts. -/
def uniqueById (rows : List Recommendation) : Dict String Recommendation :=
  Dict.build (fun row => some row.id) id rows

/-- `recommendations`. -/
def recommendations : List Recommendation :=
  ((uniqueById (producedRows py w)).values).mergeSort (rowPrecedes py)

end MediaMasterr.Mie.OperationsService
