import Mathlib.Algebra.Ring.Int.Defs
import MediaMasterr.Filesystem.Paths
import MediaMasterr.Foundations.Dict

/-! # Migration plans

`MigrationCenterService.plan`: every media item of the source instance is matched
with the destination through its identity key and gets a status and the conflicts
that its copy would have. -/

namespace MediaMasterr.Migration

open MediaMasterr.Foundations MediaMasterr.Filesystem

inductive MigrationMediaKind where
  | series
  | movie
  deriving DecidableEq, Repr

def MigrationMediaKind.value : MigrationMediaKind → String
  | .series => "series"
  | .movie => "movie"

structure MigrationMediaItem where
  kind : MigrationMediaKind
  externalId : String
  title : String
  year : Option Int := none
  tmdbId : Option Int := none
  tvdbId : Option Int := none
  imdbId : Option String := none
  currentPath : Option String := none
  rootFolderPath : Option String := none
  monitored : Option Bool := none
  qualityProfile : Option String := none
  sizeBytes : Int := 0
  episodeCount : Int := 0
  deriving DecidableEq, Repr

structure MigrationRootMapping where
  sourceRoot : String
  destinationRoot : String
  deriving DecidableEq, Repr

inductive MigrationConflictType where
  | missingMedia
  | duplicateMedia
  | differentRoot
  | differentQualityProfile
  | differentMonitoredState
  deriving DecidableEq, Repr

/-- What the keys of a type's conflicts start with. -/
def MigrationConflictType.tag : MigrationConflictType → String
  | .missingMedia => "missing"
  | .duplicateMedia => "duplicate"
  | .differentRoot => "root"
  | .differentQualityProfile => "quality"
  | .differentMonitoredState => "monitor"

def MigrationConflictType.description : MigrationConflictType → String
  | .missingMedia => "Source media is missing a current filesystem path."
  | .duplicateMedia => "The destination already contains more than one matching media item."
  | .differentRoot => "The destination copy exists under a different root or folder path."
  | .differentQualityProfile => "Source and destination use different quality profiles."
  | .differentMonitoredState => "Source and destination have different monitored states."

def MigrationConflictType.resolutions : MigrationConflictType → List String
  | .missingMedia => ["skip", "compare"]
  | .duplicateMedia => ["compare", "keep_destination", "skip"]
  | .differentRoot => ["keep_destination", "overwrite", "compare", "skip"]
  | .differentQualityProfile => ["keep_destination", "overwrite", "merge_metadata", "compare"]
  | .differentMonitoredState => ["keep_destination", "overwrite", "merge_metadata", "compare"]

structure MigrationConflict where
  key : String
  conflictType : MigrationConflictType
  title : String
  description : String
  sourceValue : Option String
  destinationValue : Option String
  resolutions : List String
  deriving DecidableEq, Repr

inductive MigrationStatus where
  | copyRequired
  | existing
  | skipped
  | conflict
  | manualDecision
  deriving DecidableEq, Repr

structure MigrationPlanItem where
  key : String
  kind : MigrationMediaKind
  title : String
  year : Option Int
  sourcePath : Option String
  destinationPath : Option String
  mappedDestinationPath : Option String
  status : MigrationStatus
  sizeBytes : Int
  episodeCount : Int
  conflictKeys : List String
  notes : List String
  deriving DecidableEq, Repr

structure MigrationPlanSummary where
  seriesCount : Nat
  movieCount : Nat
  episodeCount : Int
  itemCount : Nat
  filesRequiringCopy : Nat
  existingFiles : Nat
  skippedFiles : Nat
  conflictCount : Nat
  manualDecisionCount : Nat
  totalSizeBytes : Int
  deriving DecidableEq, Repr

structure MigrationPlan where
  items : List MigrationPlanItem
  conflicts : List MigrationConflict
  summary : MigrationPlanSummary
  deriving DecidableEq, Repr

/-! ## Matching -/

section Matching

variable (lower : String → String)

/-- The end of `_identity_key`: the IMDb id, else title and year. -/
def imdbOrTitleKey (item : MigrationMediaItem) : String :=
  match item.imdbId with
  | some imdbId =>
    if imdbId ≠ "" then "imdb:" ++ lower imdbId
    else item.kind.value ++ ":" ++ lower item.title ++ ":" ++ toString (item.year.getD 0)
  | none => item.kind.value ++ ":" ++ lower item.title ++ ":" ++ toString (item.year.getD 0)

/-- `_identity_key`: the first id that is there, else title and year. -/
def identityKey (item : MigrationMediaItem) : String :=
  match item.kind with
  | .series =>
    match item.tvdbId, item.tmdbId with
    | some tvdbId, _ => "series:tvdb:" ++ toString tvdbId
    | none, some tmdbId => "series:tmdb:" ++ toString tmdbId
    | none, none => imdbOrTitleKey lower item
  | .movie =>
    match item.tmdbId with
    | some tmdbId => "movie:tmdb:" ++ toString tmdbId
    | none => imdbOrTitleKey lower item

/-- `_destination_match_index`. -/
def destinationMatchIndex (items : List MigrationMediaItem) : Dict String MigrationMediaItem :=
  items.foldl (fun found item =>
    if (found.get? (identityKey lower item)).isSome then found
    else found.set (identityKey lower item) item) ∅

/-- The counts of `_duplicate_match_keys`. -/
def matchCounts (items : List MigrationMediaItem) : Dict String Nat :=
  items.foldl (fun counts item =>
    counts.set (identityKey lower item) ((counts.get? (identityKey lower item)).getD 0 + 1)) ∅

/-- `_duplicate_match_keys`. -/
def duplicateMatchKeys (items : List MigrationMediaItem) : List String :=
  ((matchCounts lower items).entries.filter (1 < ·.2)).map Prod.fst

end Matching

/-- One mapping of `_apply_root_mappings`. -/
def applyRootMapping (normalizedPath : String) (mapping : MigrationRootMapping) : Option String :=
  let sourceRoot := normalizeFpath mapping.sourceRoot true
  let destinationRoot := normalizeFpath mapping.destinationRoot true
  let start := PythonText.rstrip '/' sourceRoot ++ "/"
  let suffix := String.ofList (normalizedPath.toList.drop start.toList.length)
  if sourceRoot = "" then none
  else if normalizedPath = sourceRoot then some destinationRoot
  else if PythonText.startsWith normalizedPath start then
    some (if suffix ≠ "" then PythonText.rstrip '/' destinationRoot ++ "/" ++ suffix
      else destinationRoot)
  else none

/-- The order of the mappings: longer source roots first. -/
def longerRoot (a b : MigrationRootMapping) : Bool :=
  (normalizeFpath b.sourceRoot true).length ≤ (normalizeFpath a.sourceRoot true).length

/-- `_apply_root_mappings`. -/
def applyRootMappings (path : Option String) (mappings : List MigrationRootMapping) :
    Option String :=
  match path with
  | none => none
  | some path =>
    if path = "" then none
    else
      let normalizedPath := normalizeFpath path true
      some (((mappings.mergeSort longerRoot).findSome? (applyRootMapping normalizedPath)).getD
        normalizedPath)

/-! ## Plan items -/

/-- A text that is there and not empty. -/
def presentText (text : Option String) : Option String := text.filter (· ≠ "")

/-- `f"{source_item.kind}:{source_item.external_id}"`. -/
def itemKey (item : MigrationMediaItem) : String := item.kind.value ++ ":" ++ item.externalId

/-- `_make_conflict` for a source item. -/
def makeConflict (conflictType : MigrationConflictType) (sourceItem : MigrationMediaItem)
    (sourceValue destinationValue : Option String) : MigrationConflict where
  key := conflictType.tag ++ ":" ++ itemKey sourceItem
  conflictType := conflictType
  title := sourceItem.title
  description := conflictType.description
  sourceValue := sourceValue
  destinationValue := destinationValue
  resolutions := conflictType.resolutions

/-- `str` of an optional truth value. -/
def boolText : Option Bool → String
  | none => "None"
  | some true => "True"
  | some false => "False"

section Items

variable (lower : String → String)

/-- Both paths are there and differ up to case and a slash at the end. -/
def pathsDiffer (mappedPath destinationPath : Option String) : Bool :=
  match presentText mappedPath, presentText destinationPath with
  | some mapped, some destination =>
    lower (normalizeFpath mapped true) ≠ lower (normalizeFpath destination true)
  | _, _ => false

/-- The conflicts of a source item with its match. -/
def matchConflicts (sourceItem destinationItem : MigrationMediaItem) (mappedPath : Option String) :
    List MigrationConflict :=
  (if pathsDiffer lower mappedPath destinationItem.currentPath then
    [makeConflict .differentRoot sourceItem mappedPath destinationItem.currentPath] else []) ++
  (if sourceItem.qualityProfile ≠ destinationItem.qualityProfile then
    [makeConflict .differentQualityProfile sourceItem sourceItem.qualityProfile
      destinationItem.qualityProfile] else []) ++
  (if sourceItem.monitored ≠ destinationItem.monitored then
    [makeConflict .differentMonitoredState sourceItem (some (boolText sourceItem.monitored))
      (some (boolText destinationItem.monitored))] else [])

/-- What a source item gets: its status, its conflicts and a note. -/
structure Assessment where
  status : MigrationStatus
  conflicts : List MigrationConflict
  note : String
  deriving DecidableEq, Repr

/-- The branches of `plan` for one source item. -/
def assess (destination : List MigrationMediaItem) (sourceItem : MigrationMediaItem)
    (mappedPath : Option String) : Assessment :=
  let matchKey := identityKey lower sourceItem
  let destinationItem := (destinationMatchIndex lower destination).get? matchKey
  if (presentText sourceItem.currentPath).isNone then
    ⟨.skipped, [makeConflict .missingMedia sourceItem sourceItem.rootFolderPath none],
      "Source item has no filesystem path to migrate."⟩
  else if matchKey ∈ duplicateMatchKeys lower destination then
    ⟨.manualDecision, [makeConflict .duplicateMedia sourceItem sourceItem.currentPath
      (destinationItem.bind (·.currentPath))],
      "Multiple destination entries appear to represent the same media."⟩
  else
    match destinationItem with
    | none => ⟨.copyRequired, [],
      "Media does not exist on the destination and would need to be copied or imported."⟩
    | some destinationItem =>
      let conflicts := matchConflicts lower sourceItem destinationItem mappedPath
      ⟨if pathsDiffer lower mappedPath destinationItem.currentPath then .conflict
        else if conflicts ≠ [] then .manualDecision
        else .existing, conflicts,
        "Media already exists on the destination. Metadata and path differences were checked for conflicts."⟩

variable (destination : List MigrationMediaItem) (rootMappings : List MigrationRootMapping)

/-- The path that the root mappings give a source item. -/
def mappedPathOf (sourceItem : MigrationMediaItem) : Option String :=
  applyRootMappings ((presentText sourceItem.currentPath).or sourceItem.rootFolderPath) rootMappings

def assessment (sourceItem : MigrationMediaItem) : Assessment :=
  assess lower destination sourceItem (mappedPathOf rootMappings sourceItem)

/-- One round of the loop of `plan`. -/
def planItem (sourceItem : MigrationMediaItem) : MigrationPlanItem where
  key := itemKey sourceItem
  kind := sourceItem.kind
  title := sourceItem.title
  year := sourceItem.year
  sourcePath := sourceItem.currentPath
  destinationPath := ((destinationMatchIndex lower destination).get?
    (identityKey lower sourceItem)).bind (·.currentPath)
  mappedDestinationPath := mappedPathOf rootMappings sourceItem
  status := (assessment lower destination rootMappings sourceItem).status
  sizeBytes := sourceItem.sizeBytes
  episodeCount := sourceItem.episodeCount
  conflictKeys := (assessment lower destination rootMappings sourceItem).conflicts.map (·.key)
  notes := [(assessment lower destination rootMappings sourceItem).note]

end Items

/-- `_plan_summary`. -/
def planSummary (items : List MigrationPlanItem) : MigrationPlanSummary where
  seriesCount := items.countP (·.kind = .series)
  movieCount := items.countP (·.kind = .movie)
  episodeCount := (items.map (·.episodeCount)).sum
  itemCount := items.length
  filesRequiringCopy := items.countP (·.status = .copyRequired)
  existingFiles := items.countP (·.status = .existing)
  skippedFiles := items.countP (·.status = .skipped)
  conflictCount := items.countP (·.status = .conflict)
  manualDecisionCount := items.countP (·.status = .manualDecision)
  totalSizeBytes := (items.map (·.sizeBytes)).sum

/-- `plan`, from the two inventories on. -/
def plan (lower : String → String) (source destination : List MigrationMediaItem)
    (rootMappings : List MigrationRootMapping) : MigrationPlan :=
  let items := source.map (planItem lower destination rootMappings)
  { items := items
    conflicts := source.flatMap fun sourceItem =>
      (assessment lower destination rootMappings sourceItem).conflicts
    summary := planSummary items }

end MediaMasterr.Migration
