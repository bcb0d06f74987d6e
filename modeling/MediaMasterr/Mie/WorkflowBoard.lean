import MediaMasterr.Foundations.Buckets
import MediaMasterr.Mie.OperationsService

/-! # The workflow board

`OperationsService._build_workflow_board`: the downloads, the recommendations and
the issues become assets, which go on one of six stages, and the filters count the
assets that carry them. -/

namespace MediaMasterr.Mie.OperationsService

open MediaMasterr.Foundations MediaMasterr.Database

/-! ## Stages and filters -/

inductive WorkflowStageKey where
  | download
  | importing
  | organize
  | retention
  | cleanup
  | completed
  deriving DecidableEq, Repr

/-- `_WORKFLOW_STAGE_META`: the key, the title and the description of every stage. -/
def workflowStageMeta : List (WorkflowStageKey × String × String) :=
  [(.download, "Download", "Assets currently transferring, queued, or being checked."),
    (.importing, "Import", "Assets downloaded but not yet imported cleanly into the library."),
    (.organize, "Organize",
      "Imported assets requiring identity, artwork, or filesystem correction."),
    (.retention, "Retention", "Imported assets under active retention or seeding policy."),
    (.cleanup, "Cleanup", "Assets ready for torrent/download cleanup and space recovery."),
    (.completed, "Completed", "No active work remains; asset is detached/protected/healthy.")]

inductive WorkflowFilterKey where
  | identityIssues
  | brokenImports
  | artworkIssues
  | filesystemIssues
  | unknownFiles
  | missingRequests
  | duplicateIdentity
  | missingArtwork
  | providerConflicts
  | downloads
  | retention
  | cleanup
  deriving DecidableEq, Repr

/-- The text of a key, by which the filters of an asset are sorted. -/
def WorkflowFilterKey.value : WorkflowFilterKey → String
  | .identityIssues => "identity_issues"
  | .brokenImports => "broken_imports"
  | .artworkIssues => "artwork_issues"
  | .filesystemIssues => "filesystem_issues"
  | .unknownFiles => "unknown_files"
  | .missingRequests => "missing_requests"
  | .duplicateIdentity => "duplicate_identity"
  | .missingArtwork => "missing_artwork"
  | .providerConflicts => "provider_conflicts"
  | .downloads => "downloads"
  | .retention => "retention"
  | .cleanup => "cleanup"

/-- `_FILTER_TITLES`. -/
def filterTitles : List (WorkflowFilterKey × String) :=
  [(.identityIssues, "Identity Issues"), (.brokenImports, "Broken Imports"),
    (.artworkIssues, "Artwork Issues"), (.filesystemIssues, "Filesystem Issues"),
    (.unknownFiles, "Unknown Files"), (.missingRequests, "Missing Requests"),
    (.duplicateIdentity, "Duplicate Identity"), (.missingArtwork, "Missing Artwork"),
    (.providerConflicts, "Provider Conflicts"), (.downloads, "Downloads"),
    (.retention, "Retention"), (.cleanup, "Cleanup")]

/-- `sorted` of a set of filters. -/
def sortedFilters (filters : List WorkflowFilterKey) : List WorkflowFilterKey :=
  filters.dedup.mergeSort fun a b => a.value ≤ b.value

structure OperationsWorkflowAsset where
  id : String
  title : String
  riskLevel : String
  targetType : String
  targetId : Option String
  currentStage : WorkflowStageKey
  estimatedSpaceRecovery : Int := 0
  filters : List WorkflowFilterKey
  deriving DecidableEq, Repr

/-! ## Downloads -/

/-- A classified download with the fields that only the board reads. -/
structure WorkflowDownload extends DownloadLifecycleObject where
  mediaIdentity : Option String := none
  retentionPolicy : String := "none"
  deriving DecidableEq, Repr

/-- `_stage_for_download`. -/
def stageForDownload (item : WorkflowDownload) : WorkflowStageKey :=
  if item.lifecycleState ∈
      [.metadataDownload, .queued, .downloading, .checking, .moving] then .download
  else if item.lifecycleState = .failed ∨ item.cleanupClassification = .failedImport then .importing
  else if item.retentionPolicy ∈ ["seeding_retention", "grace_period"] then .retention
  else if item.retentionPolicy = "expired" ∨
      item.cleanupClassification ∈ [.safeToDelete, .duplicateDownload, .abandonedDownload] then
    .cleanup
  else if item.lifecycleState ∈ [.unknown, .orphaned, .stale] then .organize
  else if item.lifecycleState = .imported then .completed
  else .organize

/-- The asset of a download. -/
def downloadAsset (row : WorkflowDownload) : OperationsWorkflowAsset where
  id := "download:" ++ row.path
  title := orText row.mediaIdentity row.path
  riskLevel :=
    if row.cleanupClassification ∈ [.failedImport, .needsInvestigation] then "high"
    else if row.cleanupClassification ∈
        [.duplicateDownload, .abandonedDownload, .safeToArchive] then "medium"
    else "low"
  targetType := "download_object"
  targetId := some row.path
  currentStage := stageForDownload row
  estimatedSpaceRecovery := row.recoverableSpaceBytes
  filters := [.downloads]

/-! ## Recommendations -/

variable (py : OperationsCalls)

/-- `_stage_for_recommendation`. -/
def stageForRecommendation (item : Recommendation) : WorkflowStageKey :=
  let card := item.cardKey
  let action := py.lower item.action
  if item.targetType = "download_object" then
    if card = "failed_downloads" then .importing
    else if card ∈ ["safe_to_delete", "duplicate_downloads", "orphaned_downloads"] then .cleanup
    else if card = "safe_to_archive" then .retention
    else .download
  else if card = "downloading" then .download
  else if card ∈ ["import_pending", "broken_imports"] then .importing
  else if card ∈ ["identity_issues", "unknown_files", "duplicate_releases", "duplicate_torrents",
      "orphaned_files", "artwork_missing", "artwork_placeholder", "artwork_invalid",
      "artwork_stale"] then .organize
  else if card ∈ ["ready_to_detach", "protected_seeding"] then .retention
  else if card ∈ ["space_recovery", "orphaned_torrents", "leftover_files", "empty_folders"] then
    .cleanup
  else if card = "detached_media" then .completed
  else if ["detach", "remove", "delete", "cleanup"].any (PythonText.contains action ·) then .cleanup
  else if PythonText.contains action "protect" ∨ PythonText.contains action "seed" then .retention
  else if PythonText.contains action "import" then .importing
  else if item.safetyLevel = .safe then .completed
  else .organize

/-- The set that `_filters_for_recommendation` fills. -/
def recommendationFilters (item : Recommendation) : List WorkflowFilterKey :=
  let card := item.cardKey
  (if card = "identity_issues" then [.identityIssues, .duplicateIdentity] else []) ++
  (if card ∈ ["broken_imports", "import_pending"] then [.brokenImports] else []) ++
  (if PythonText.startsWith card "artwork_" then [.artworkIssues, .missingArtwork] else []) ++
  (if card ∈ ["unknown_files", "orphaned_files", "leftover_files", "empty_folders"] then
    [.filesystemIssues, .unknownFiles] else []) ++
  (if card ∈ ["orphaned_torrents", "space_recovery"] then [.cleanup] else []) ++
  (if card ∈ ["ready_to_detach", "protected_seeding"] then [.retention] else []) ++
  (if item.targetType = "download_object" then [.downloads] else [])

/-- `_filters_for_recommendation`. -/
def filtersForRecommendation (item : Recommendation) : List WorkflowFilterKey :=
  sortedFilters
    (if recommendationFilters item = [] then [.filesystemIssues] else recommendationFilters item)

/-- The asset of a recommendation. -/
def recommendationAsset (item : Recommendation) : OperationsWorkflowAsset where
  id := item.id
  title := item.title
  riskLevel := match item.safetyLevel with
    | .highRisk => "high"
    | .mediumRisk => "medium"
    | .lowRisk | .safe => "low"
  targetType := item.targetType
  targetId := item.targetId
  currentStage := stageForRecommendation py item
  estimatedSpaceRecovery := item.estimatedRecoveryBytes
  filters := filtersForRecommendation item

/-- The recommendation is for one of the downloads. -/
def forListedDownload (downloads : List WorkflowDownload) (item : Recommendation) : Bool :=
  item.targetType = "download_object" && downloads.any (some ·.path = item.targetId)

/-! ## Issues -/

/-- What the board reads of an `OperationsIssue`. -/
structure OperationsIssue where
  key : String
  issueType : String
  severity : IssueSeverity
  mediaType : MediaType
  mediaId : Nat
  title : String
  deriving DecidableEq, Repr

/-- An issue that is detected in the graph. -/
def operationsIssue (graph : CorrelationGraph) (issue : DetectedIssue) : OperationsIssue where
  key := mediaTypeValue graph.mediaType ++ "-" ++ toString graph.mediaId ++ ":" ++ issue.issueType
  issueType := issue.issueType
  severity := issue.severity
  mediaType := graph.mediaType
  mediaId := graph.mediaId
  title := issue.title

/-- The issues of `OperationsEngine.run`. -/
def operationsIssues (graphs : List CorrelationGraph) : List OperationsIssue :=
  graphs.flatMap fun graph => (detectIssues py graph).map (operationsIssue graph)

def stageForIssue (issue : OperationsIssue) : WorkflowStageKey :=
  if issue.issueType ∈ ["missing_request", "failed_import"] then .importing else .organize

/-- `_filters_for_issue`. -/
def filtersForIssue (issue : OperationsIssue) : List WorkflowFilterKey :=
  sortedFilters
    (if issue.issueType = "missing_request" then [.missingRequests]
    else if issue.issueType = "failed_import" then [.brokenImports]
    else if issue.issueType = "filesystem_inconsistency" then [.filesystemIssues]
    else if issue.issueType = "duplicate_identity" then [.identityIssues, .duplicateIdentity]
    else if issue.issueType = "artwork_gap" then [.artworkIssues, .missingArtwork]
    else if issue.issueType = "provider_conflict" then [.providerConflicts]
    else [.filesystemIssues])

/-- The asset of an issue. -/
def issueAsset (issue : OperationsIssue) : OperationsWorkflowAsset where
  id := "issue:" ++ issue.key
  title := issue.title
  riskLevel := match issue.severity with
    | .critical | .high => "high"
    | .medium => "medium"
    | .low => "low"
  targetType := mediaTypeValue issue.mediaType
  targetId := some (toString issue.mediaId)
  currentStage := stageForIssue issue
  filters := filtersForIssue issue

/-! ## The board -/

structure OperationsWorkflowStage where
  key : WorkflowStageKey
  title : String
  description : String
  count : Nat
  assets : List OperationsWorkflowAsset
  deriving DecidableEq, Repr

structure OperationsWorkflowFilter where
  key : WorkflowFilterKey
  title : String
  count : Nat
  deriving DecidableEq, Repr

structure OperationsWorkflowBoard where
  stages : List OperationsWorkflowStage
  filters : List OperationsWorkflowFilter
  deriving DecidableEq, Repr

/-- The assets of all stages. -/
def OperationsWorkflowBoard.assets (board : OperationsWorkflowBoard) :
    List OperationsWorkflowAsset :=
  board.stages.flatMap (·.assets)

/-- `stage_assets` after the three loops. -/
def stageAssets (recommendations : List Recommendation) (issues : List OperationsIssue)
    (downloads : List WorkflowDownload) : Buckets WorkflowStageKey OperationsWorkflowAsset :=
  let afterDownloads := downloads.foldl
    (fun (assets : Buckets WorkflowStageKey OperationsWorkflowAsset) row =>
      assets.append (stageForDownload row) (downloadAsset row)) .empty
  let afterRecommendations := recommendations.foldl
    (fun assets item =>
      if forListedDownload downloads item then assets
      else assets.append (stageForRecommendation py item) (recommendationAsset py item))
    afterDownloads
  issues.foldl (fun assets issue => assets.append (stageForIssue issue) (issueAsset issue))
    afterRecommendations

def stageRank (stage : WorkflowStageKey) : Nat := if stage ∈ [.cleanup, .retention] then 0 else 1

/-- The order of the assets of a stage: recoverable bytes, title. -/
def assetPrecedes (a b : OperationsWorkflowAsset) : Bool :=
  stageRank a.currentStage < stageRank b.currentStage ||
    (stageRank a.currentStage == stageRank b.currentStage &&
      (b.estimatedSpaceRecovery < a.estimatedSpaceRecovery ||
        (b.estimatedSpaceRecovery == a.estimatedSpaceRecovery && py.lower a.title ≤
          py.lower b.title)))

/-- The stages with their sorted assets. -/
def boardStages (assets : Buckets WorkflowStageKey OperationsWorkflowAsset) :
    List OperationsWorkflowStage :=
  workflowStageMeta.map fun stage =>
    let sorted := (assets stage.1).mergeSort (assetPrecedes py)
    { key := stage.1
      title := stage.2.1
      description := stage.2.2
      count := sorted.length
      assets := sorted }

/-- `filter_counts`; all keys of filters have a title. -/
def filterCounts (stages : List OperationsWorkflowStage) : WorkflowFilterKey → Nat :=
  stages.foldl (fun counts stage =>
    stage.assets.foldl (fun counts asset => asset.filters.foldl tally counts) counts) fun _ => 0

/-- The order of the filters: larger ones first, title. -/
def filterPrecedes (a b : OperationsWorkflowFilter) : Bool :=
  b.count < a.count || (b.count == a.count && py.lower a.title ≤ py.lower b.title)

/-- `_build_workflow_board`. -/
def buildWorkflowBoard (recommendations : List Recommendation) (issues : List OperationsIssue)
    (downloads : List WorkflowDownload) : OperationsWorkflowBoard :=
  let stages := boardStages py (stageAssets py recommendations issues downloads)
  { stages := stages
    filters := (filterTitles.map fun filter =>
      { key := filter.1, title := filter.2, count := filterCounts stages filter.1 }).mergeSort
        (filterPrecedes py) }

/-- What the workspace reads: with the classified downloads, whose paths differ, the fields that
only the board shows. -/
structure WorkspaceWorld extends OperationsWorld where
  downloadItems : List WorkflowDownload := []
  downloads_eq : downloads = downloadItems.map (·.toDownloadLifecycleObject) := by rfl
  paths_nodup : (downloadItems.map (·.path)).Nodup := by decide

/-- The items of the downloads' run: the first 500. -/
def listedDownloads (w : WorkspaceWorld) : List WorkflowDownload :=
  (w.downloadItems.mergeSort fun a b =>
    itemPrecedes a.toDownloadLifecycleObject b.toDownloadLifecycleObject).take 500

/-- The issues of the intelligence run that the recommendations come from. -/
def intelligenceIssues (w : OperationsWorld) : List OperationsIssue :=
  operationsIssues py (loadCorrelationGraphs w)

/-- The board of `workspace_filtered` without filters. -/
def workspaceBoard (w : WorkspaceWorld) : OperationsWorkflowBoard :=
  buildWorkflowBoard py (recommendations py w.toOperationsWorld)
    (intelligenceIssues py w.toOperationsWorld) (listedDownloads w)

end MediaMasterr.Mie.OperationsService
