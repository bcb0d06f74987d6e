import Mathlib.Data.List.MinMax
import Mathlib.Data.Prod.Lex
import MediaMasterr.Filesystem.Paths
import MediaMasterr.Foundations.Buckets
import MediaMasterr.Foundations.Loops

/-! # The file evidence of an asset

The part of `_build_asset_evidence` that chooses the canonical managed folder of an
asset and lists its files against it: the folder with the most files of the asset,
the rows of the hierarchy, and one row for every known path. -/

namespace MediaMasterr.Mie.FileEvidence

open MediaMasterr.Foundations MediaMasterr.Filesystem

inductive HierarchyRole where
  | libraryRoot
  | managedFolder
  | primaryMediaFile
  | additionalFile
  | additionalCopy
  | downloadSource
  | unknown
  deriving DecidableEq, Repr

inductive EvidenceState where
  | available
  | missing
  | partiallyKnown
  | duplicate
  | unavailable
  deriving DecidableEq, Repr

/-- An entry of `known_paths`: path, label, source and role. -/
structure KnownPath where
  path : Option String
  label : String
  source : Option String := none
  role : HierarchyRole
  deriving DecidableEq, Repr

/-- What the code sets of an `OperationsFileEvidence` without the probes of the disk. -/
structure OperationsFileEvidence where
  key : String
  label : String
  hierarchyRole : HierarchyRole
  path : Option String
  expectedDestination : Option String
  knownCopyOf : Option String
  source : Option String
  state : EvidenceState
  explanation : String
  deriving DecidableEq, Repr

/-- What the evidence is built from. `exists` is the answer of the disk, which has no value when the
probe fails. -/
structure EvidenceInput where
  downloadLocation : Option String := none
  libraryLocation : Option String := none
  expectedDestination : Option String := none
  policyName : Option String := none
  knownPaths : List KnownPath := []
  «exists» : String → Option Bool := fun _ => none

variable (t : PythonText.CaseTables) (w : EvidenceInput)

/-! ## Paths -/

/-- `_norm_path`. -/
def normPath (value : Option String) : String := t.lower (normalizeFpath (value.getD "") true)

/-- The text is there and not empty. -/
def linked (value : Option String) : Bool := value.any (· ≠ "")

/-- `_is_same_or_child`. -/
def isSameOrChild (path parent : Option String) : Bool :=
  linked path && linked parent && normPath t path ≠ "" && normPath t parent ≠ "" &&
    (normPath t path = normPath t parent ||
      PythonText.startsWith (normPath t path) (PythonText.rstrip '/' (normPath t parent) ++ "/"))

/-- `_parent_directory`. -/
def parentDirectory (path : Option String) : Option String :=
  let normalized := normalizeFpath (path.getD "") true
  if normalized ∈ ["", "/", "."] ∨ '/' ∉ normalized.toList then none
  else
    let parent :=
      String.ofList ((normalized.toList.reverse.dropWhile (· ≠ '/')).drop 1).reverse
    some (if parent = "" then "/" else parent)

/-! ## The canonical folder -/

/-- The paths of the known entries with one of the roles. -/
def knownPathsOf (roles : List HierarchyRole) : List String :=
  (w.knownPaths.filter fun known => linked known.path && known.role ∈ roles).filterMap (·.path)

/-- `managed_folder_candidates`. -/
def managedFolderCandidates : List String :=
  (w.libraryLocation.filter (· ≠ "")).toList ++ knownPathsOf w [.managedFolder]

/-- `deduped_managed_folders`: the first candidate of every normalized path that is not empty. -/
def dedupedManagedFolders : List String :=
  firstsBy (fun folder => normPath t (some folder))
    ((managedFolderCandidates w).filter fun folder => normPath t (some folder) ≠ "")

/-- `reference_paths`. -/
def referencePaths : List String := knownPathsOf w [.primaryMediaFile, .additionalFile]

/-- The number of reference paths in a folder. -/
def folderScore (folder : String) : Nat :=
  (referencePaths w).countP fun path => isSameOrChild t (some path) (some folder)

/-- `max(scored_candidates)`: the best score, and among equal ones the last candidate. -/
def bestCandidate : Option (String × Nat) :=
  (dedupedManagedFolders t w).zipIdx.argmax fun p => toLex (folderScore t w p.1, p.2)

/-- `canonical_managed_folder`. -/
def canonicalManagedFolder : Option String :=
  match bestCandidate t w with
  | some (best, _) =>
    if 0 < folderScore t w best then some best else (dedupedManagedFolders t w).head?
  | none => none

/-- `expected_destination_path`. -/
def expectedDestinationPath : Option String :=
  (parentDirectory (canonicalManagedFolder t w)).or w.expectedDestination

/-! ## The rows -/

/-- The state of `_file_details`. -/
def fileState (path : Option String) : EvidenceState :=
  match path with
  | none => .unavailable
  | some path =>
    if path = "" then .unavailable
    else match w.exists path with
      | some false => .missing
      | some true => .available
      | none => .partiallyKnown

/-- The key, the label, the path, the source, what it is a copy of and the role of the rows of the
hierarchy. Their keys differ. -/
def baseRows : List (String × String × Option String × String × Option String × HierarchyRole) :=
  [("download", "Download Source", w.downloadLocation, "Download Client", none, .downloadSource),
    ("library-root", "Library Root", expectedDestinationPath t w,
      orPolicy w.policyName, none, .libraryRoot),
    ("managed-folder", "Managed Folder", canonicalManagedFolder t w, "Media Library",
      expectedDestinationPath t w, .managedFolder)]
where
  /-- `policy_name or "Policy"`. -/
  orPolicy (name : Option String) : String := if linked name then name.getD "" else "Policy"

def baseEvidence
    (row : String × String × Option String × String × Option String × HierarchyRole) :
    OperationsFileEvidence :=
  let (key, label, path, source, knownCopyOf, role) := row
  { key := key
    label := label
    hierarchyRole := role
    path := path
    expectedDestination := expectedDestinationPath t w
    knownCopyOf := knownCopyOf
    source := some source
    state := fileState w path
    explanation :=
      if linked path then label ++ " is known from " ++ source ++ "."
      else label ++ " is unavailable because no provider path is linked." }

/-- What a known path becomes: its role, its state and the explanation. -/
structure Classified where
  role : HierarchyRole
  state : EvidenceState
  explanation : String
  deriving DecidableEq, Repr

/-- The classification of a known path against the canonical folder, where `primarySeen` says that a
primary media file inside it came before. -/
def classifyCopy (primarySeen : Bool) (known : KnownPath) : Classified :=
  let canonical := canonicalManagedFolder t w
  let state := fileState w known.path
  match known.role with
  | .primaryMediaFile =>
    if linked canonical && isSameOrChild t known.path canonical then
      if primarySeen then
        ⟨.additionalFile, state, "Additional media file inside the canonical managed folder."⟩
      else
        ⟨.primaryMediaFile, state, "Primary media file is inside the canonical managed folder."⟩
    else if linked canonical then
      ⟨.additionalCopy, .duplicate,
        "Additional primary media file exists outside the canonical managed folder."⟩
    else
      ⟨.primaryMediaFile, state,
        "Primary media file is linked, but canonical managed folder is unavailable."⟩
  | .managedFolder =>
    ⟨.managedFolder, state,
      if linked canonical && normPath t known.path = normPath t canonical then
        "Managed folder matches the canonical destination for this asset."
      else "Managed folder is linked as filesystem hierarchy context."⟩
  | .additionalFile =>
    ⟨.additionalFile, state, "Additional related files or folders are linked for this asset."⟩
  | role =>
    let source := if linked known.source then known.source.getD "" else "provider evidence"
    ⟨role, state, known.label ++ " is linked from " ++ source ++ "."⟩

/-- The variables of the loop over the known paths. The rows stand beside the known paths that they
are for. -/
structure CopyState where
  seenPaths : List (String × String × HierarchyRole)
  canonicalPrimarySeen : Bool := false
  primaryInsideCanonical : Nat := 0
  primaryOutsideCanonical : Nat := 0
  rows : List (KnownPath × OperationsFileEvidence) := []

/-- The key by which a known path is listed once. -/
def dedupeKey (known : KnownPath) : String × String × HierarchyRole :=
  (known.label, normPath t known.path, known.role)

/-- The known path is a primary media file in the canonical folder. -/
def isInside (known : KnownPath) : Bool :=
  known.role = .primaryMediaFile && linked (canonicalManagedFolder t w) &&
    isSameOrChild t known.path (canonicalManagedFolder t w)

/-- The known path is a primary media file that is not in the canonical folder. -/
def isOutside (known : KnownPath) : Bool :=
  known.role = .primaryMediaFile && linked (canonicalManagedFolder t w) &&
    !isSameOrChild t known.path (canonicalManagedFolder t w)

def copyEvidence (primarySeen : Bool) (known : KnownPath) (index : Nat) : OperationsFileEvidence :=
  let classified := classifyCopy t w primarySeen known
  { key := "known-copy-" ++ toString (index + 1)
    label := known.label
    hierarchyRole := classified.role
    path := known.path
    expectedDestination := expectedDestinationPath t w
    knownCopyOf :=
      if linked (canonicalManagedFolder t w) then canonicalManagedFolder t w
      else expectedDestinationPath t w
    source := known.source
    state := classified.state
    explanation := classified.explanation }

/-- One round of the loop over the known paths. -/
def copyStep (s : CopyState) (entry : KnownPath × Nat) : CopyState :=
  let (known, index) := entry
  if !linked known.path || dedupeKey t known ∈ s.seenPaths then s
  else
    { seenPaths := s.seenPaths ++ [dedupeKey t known]
      canonicalPrimarySeen := s.canonicalPrimarySeen || isInside t w known
      primaryInsideCanonical := s.primaryInsideCanonical + if isInside t w known then 1 else 0
      primaryOutsideCanonical := s.primaryOutsideCanonical + if isOutside t w known then 1 else 0
      rows := s.rows ++ [(known, copyEvidence t w s.canonicalPrimarySeen known index)] }

/-- The variables after the loop. -/
def copies : CopyState :=
  w.knownPaths.zipIdx.foldl (copyStep t w)
    { seenPaths := (baseRows t w).map fun row => (row.1, normPath t row.2.2.1, row.2.2.2.2.2) }

/-- `filesystem_comparison_summary`. -/
def filesystemComparisonSummary : String :=
  let inside := (copies t w).primaryInsideCanonical
  let outside := (copies t w).primaryOutsideCanonical
  if linked (canonicalManagedFolder t w) then
    if 0 < inside ∧ outside = 0 then
      "Primary media file is correctly located within the expected managed folder. " ++
        "Library root and managed folder rows are treated as hierarchy context, " ++
        "not conflicting paths."
    else if 0 < inside ∧ 0 < outside then
      toString outside ++ " additional primary media file" ++ (if outside ≠ 1 then "s" else "") ++
        " exist outside the canonical managed folder."
    else if inside = 0 ∧ 0 < outside then
      "Primary media file exists, but only outside the canonical managed folder."
    else "Canonical managed folder is linked, but no primary media file is currently linked."
  else "No canonical managed folder is linked yet, so duplicate detection is limited to known " ++
    "primary files only."

/-- `unique_file_rows`. -/
def uniqueFileRows : List OperationsFileEvidence :=
  (baseRows t w).map (baseEvidence t w) ++ (copies t w).rows.map Prod.snd

end MediaMasterr.Mie.FileEvidence
