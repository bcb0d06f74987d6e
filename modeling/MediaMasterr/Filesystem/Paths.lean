import MediaMasterr.Foundations.PythonText
import MediaMasterr.Database.Tables
import Mathlib.Data.List.Sort

/-! # Path normalisation and path mappings

`normalize_fpath`, `mapped_path_variants`, `resolve_path` and the folder tests
of the delete handlers. A `Path` is its root and components; the disk is a view
that answers the probes the code makes. -/

namespace MediaMasterr.Filesystem

open MediaMasterr.Foundations MediaMasterr.Database

/-- `normalize_fpath` without a case option, on a string. -/
def normalizeFpath (path : String) (stripEndingSlash : Bool) : String :=
  let slashed := PythonText.replaceChar '\\' '/' (PythonText.strip path)
  if stripEndingSlash then PythonText.rstrip '/' slashed else slashed

section Mapping

variable (serviceType : Option Service) (serviceConfigId : Option Nat)

/-- `_mapping_applies_to_scope`. -/
def mappingAppliesToScope (mapping : PathMapping) : Bool :=
  match mapping.serviceConfigId with
  | some config => serviceConfigId == some config
  | none =>
    match mapping.serviceType with
    | some service => serviceType == some service
    | none => true

/-- `not mapping.get("service_config_id")`. -/
def noConfigId (mapping : PathMapping) : Bool := mapping.serviceConfigId.getD 0 == 0

/-- The rank by which mappings are sorted: those of the configuration, of the service, of
no scope, then the rest. -/
def mappingRank (mapping : PathMapping) : Nat :=
  if serviceConfigId.isSome ∧ mapping.serviceConfigId = serviceConfigId then 0
  else if serviceType.isSome ∧ mapping.serviceType = serviceType ∧ noConfigId mapping then 1
  else if mapping.serviceType.isNone ∧ noConfigId mapping then 2
  else 3

/-- The sort order: rank first, then longer source prefixes. -/
def mappingPrecedes (a b : PathMapping) : Prop :=
  mappingRank serviceType serviceConfigId a < mappingRank serviceType serviceConfigId b ∨
    mappingRank serviceType serviceConfigId a = mappingRank serviceType serviceConfigId b ∧
      b.sourcePrefix.length ≤ a.sourcePrefix.length

instance : DecidableRel (mappingPrecedes serviceType serviceConfigId) := fun a b => by
  unfold mappingPrecedes
  infer_instance

def sortMappings (mappings : List PathMapping) : List PathMapping :=
  mappings.insertionSort (mappingPrecedes serviceType serviceConfigId)

/-- The variant that one mapping adds in `mapped_path_variants`. -/
def mappedVariant (normalized : String) (mapping : PathMapping) : Option String :=
  if !mappingAppliesToScope serviceType serviceConfigId mapping then none
  else
    let source := normalizeFpath mapping.sourcePrefix true
    let localPrefix := normalizeFpath mapping.localPrefix true
    if source = "" ∨ localPrefix = "" then none
    else if normalized = source ∨ PythonText.startsWith normalized (source ++ "/") then
      let rest := String.ofList (normalized.toList.drop source.toList.length)
      some (normalizeFpath (localPrefix ++ rest) true)
    else none

/-- `mapped_path_variants`. -/
def mappedPathVariants (path : Option String) (mappings : List PathMapping) : List String :=
  match path with
  | none => []
  | some path =>
    let normalized := normalizeFpath path true
    if normalized = "" then []
    else
      (normalized :: (sortMappings serviceType serviceConfigId mappings).filterMap
        (mappedVariant serviceType serviceConfigId normalized)).filter (· ≠ "")

end Mapping

/-- `_path_is_inside_folder`. -/
def pathIsInsideFolder (path folder : String) : Bool :=
  path == folder || PythonText.startsWith path (folder ++ "/")

/-- `_path_matches_arr_folder`. -/
def pathMatchesArrFolder (path arrFolder : Option String) (mappings : List PathMapping)
    (pathServiceType arrServiceType : Option Service) (arrServiceConfigId : Option Nat) : Bool :=
  (mappedPathVariants pathServiceType none path mappings).any fun pathVariant =>
    (mappedPathVariants arrServiceType arrServiceConfigId arrFolder mappings).any
      (pathIsInsideFolder pathVariant)

/-! ## Local paths -/

/-- A `pathlib` path: its root and its components. -/
structure LocalPath where
  root : String
  parts : List String
  deriving DecidableEq, Repr

namespace LocalPath

def splitParts (s : String) : List String :=
  ((s.toList.splitOn '/').map String.ofList).filter fun part => part ≠ "" ∧ part ≠ "."

/-- `Path(s)`: two leading slashes are kept, more are one. -/
def ofString (s : String) : LocalPath :=
  let slashes := (s.toList.takeWhile (· = '/')).length
  ⟨if slashes = 0 then "" else if slashes = 2 then "//" else "/", splitParts s⟩

/-- `p.joinpath(*parts)` for parts without slashes. -/
def joinParts (p : LocalPath) (parts : List String) : LocalPath :=
  { p with parts := p.parts ++ parts.filter fun part => part ≠ "" ∧ part ≠ "." }

end LocalPath

/-- What the disk answers at one moment. -/
structure DiskView where
  pathExists : LocalPath → Bool := fun _ => false
  isDir : LocalPath → Bool := fun _ => false
  iterdir : LocalPath → List String := fun _ => []

section Resolve

variable (disk : DiskView) (serviceType : Option Service) (serviceConfigId : Option Nat)

/-- The local path that the first matching mapping of `resolve_path` probes. -/
def mappedProbe (normalized : String) : List PathMapping → Option LocalPath
  | [] => none
  | mapping :: mappings =>
    if !mappingAppliesToScope serviceType serviceConfigId mapping then
      mappedProbe normalized mappings
    else
      let rawSource := PythonText.strip mapping.sourcePrefix
      let stripped := normalizeFpath rawSource true
      let source :=
        if stripped = "" ∧ PythonText.replaceChar '\\' '/' rawSource = "/" then "/" else stripped
      let localPrefix := PythonText.strip mapping.localPrefix
      let sourceMatches :=
        if source = "/" then PythonText.startsWith normalized "/"
        else normalized == source || PythonText.startsWith normalized (source ++ "/")
      if source ≠ "" ∧ sourceMatches then
        let suffix := String.ofList
          ((normalized.toList.drop source.toList.length).dropWhile (· = '/'))
        some ((LocalPath.ofString localPrefix).joinParts (LocalPath.splitParts suffix))
      else mappedProbe normalized mappings

/-- `resolve_path`. -/
def resolvePath (path : Option String) (mappings : List PathMapping) : Option LocalPath :=
  match path with
  | none => none
  | some path =>
    if path = "" then none
    else
      let normalized := normalizeFpath path true
      match mappedProbe serviceType serviceConfigId normalized
          (sortMappings serviceType serviceConfigId mappings) with
      | some probe => if disk.pathExists probe then some probe else none
      | none =>
        let asIs := LocalPath.ofString path
        if disk.pathExists asIs then some asIs else none

end Resolve

/-- `find_season_folder`: the first subdirectory whose name matches one of the season's
patterns, where `search` is `re.search` with `re.IGNORECASE`. -/
def findSeasonFolder (disk : DiskView) (search : String → String → Bool)
    (seriesPath : LocalPath) (seasonNumber : Nat) : Option LocalPath :=
  if !disk.isDir seriesPath then none
  else
    let patterns :=
      if seasonNumber = 0 then ["season\\s+0+(?:\\D|$)", "specials"]
      else ["season\\s+0*" ++ toString seasonNumber ++ "(?:\\D|$)"]
    ((disk.iterdir seriesPath).filter fun name =>
      disk.isDir (seriesPath.joinParts [name]) &&
        patterns.any (search · name)).head?.map fun name => seriesPath.joinParts [name]

end MediaMasterr.Filesystem
