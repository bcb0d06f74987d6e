import Mathlib.Data.List.MinMax
import MediaMasterr.Foundations.SelectStatements
import MediaMasterr.Mie.DownloadTotals
import MediaMasterr.Playback.Coverage

/-! # The identity center

`IdentityCenterService`: the list of all movies and series (`workspace`) and the
detail of one of them (`studio`) both say which provider is canonical, how many
providers there are and how far they conflict. The actions of the user are recorded
in the operation history. -/

namespace MediaMasterr.Mie.IdentityCenter

open MediaMasterr.Foundations MediaMasterr.Database MediaMasterr.Playback OperationsService

/-! ## Tables -/

structure IdentityMovie extends Movie where
  overview : Option String := none
  originalLanguage : Option String := none
  deriving DecidableEq, Repr

structure IdentitySeries extends Series where
  overview : Option String := none
  originalLanguage : Option String := none
  deriving DecidableEq, Repr

/-- A media asset with the columns of its artwork. -/
structure IdentityAsset extends MediaAsset where
  artworkSource : Option String := none
  artworkConfidence : Float := 0.0

/-- A supplemental match with its type and its confidence. -/
structure IdentityMatch extends SupplementalMediaMatch where
  mediaType : MediaType
  confidence : Int := 100
  deriving DecidableEq, Repr

structure OperationHistory where
  action : String
  targetType : String
  targetId : String
  result : String
  metadataJson : List (String × Option String) := []
  deriving DecidableEq, Repr

structure IdentityWorld where
  movies : List IdentityMovie := []
  series : List IdentitySeries := []
  mediaAssets : List IdentityAsset := []
  supplementalMatches : List IdentityMatch := []
  history : List OperationHistory := []

/-- `str(row.source_service)`. -/
def IdentityMatch.provider (row : IdentityMatch) : String := row.sourceService.value

inductive ConflictLevel where
  | none
  | low
  | medium
  | high
  deriving DecidableEq, Repr

/-- `NoResultFound` as the service's `ValueError`, `MultipleResultsFound`, and `int` of an
infinity. -/
inductive IdentityError where
  | notFound
  | multipleResults
  | overflow
  deriving DecidableEq, Repr

/-! ## Shared helpers -/

section Helpers

variable (t : PythonText.CaseTables)

/-- `_normalize_provider_key`. -/
def normalizeProviderKey (value : Option String) : String :=
  t.lower (PythonText.strip (value.getD ""))

/-- `_preferred_provider`. -/
def preferredProvider : MediaType → String
  | .movie => "radarr"
  | .series => "sonarr"

/-- `_conflict_level`. -/
def conflictLevel (providerCount : Nat) (maxConfidence : Int) : ConflictLevel :=
  if providerCount ≤ 1 then .none
  else if 3 ≤ providerCount ∧ maxConfidence < 70 then .high
  else if 2 ≤ providerCount ∧ maxConfidence < 85 then .medium
  else .low

/-- `_calculated_confidence`. -/
def calculatedConfidence (matchConfidence : Int)
    (identifierStatus metadataStatus artworkStatus : String) : Int :=
  if 0 < matchConfidence then max 0 (min 100 matchConfidence)
  else
    let identifierScore := if identifierStatus = "healthy" then 35 else 10
    let metadataScore := if metadataStatus = "healthy" then 35 else 20
    let artworkScore := if artworkStatus = "valid" then 30 else 10
    max 0 (min 100 (identifierScore + metadataScore + artworkScore))

/-- `max(items, key=score, default=None)`: the first of the items with the largest score. -/
def firstMax {α β : Type} [LinearOrder β] (score : α → β) (items : List α) : Option α :=
  items.argmax score

/-- `max((int(row.confidence or 0) for row in rows), default=0)`. -/
def maxConfidence (confidences : List Int) : Int := (firstMax id confidences).getD 0

/-- `_choose_canonical_provider`. -/
def chooseCanonicalProvider (mediaType : MediaType) (rows : List IdentityMatch) : String :=
  if preferredProvider mediaType ∈ rows.map (·.provider) then preferredProvider mediaType
  else
    match firstMax IdentityMatch.confidence rows with
    | none => preferredProvider mediaType
    | some best => best.provider

/-- `_load_match_index`, at one key. -/
def matchIndex (w : IdentityWorld) (mediaType : MediaType) (mediaId : Nat) : List IdentityMatch :=
  w.supplementalMatches.filter fun row => row.mediaType = mediaType ∧
    (match row.mediaType with
      | .movie => row.movieId
      | .series => row.seriesId) = some mediaId

def sourceOf (asset : Option IdentityAsset) : String :=
  normalizeProviderKey t (asset.bind (·.artworkSource))

end Helpers

/-! ## The list -/

structure IdentityWorkspaceItem where
  mediaType : MediaType
  mediaId : Nat
  title : String
  canonicalProvider : String
  providerCount : Nat
  providerConfidence : Int
  conflictLevel : ConflictLevel
  needsReview : Bool
  artworkStatus : String
  metadataStatus : String
  identifierStatus : String
  overrideStatus : String
  deriving DecidableEq, Repr

section Workspace

variable (t : PythonText.CaseTables) (w : IdentityWorld)

/-- `_override_keys`; the id of an override is a number in decimal. -/
def isOverridden (mediaType : MediaType) (mediaId : Nat) : Bool :=
  w.history.any fun row => row.action = "identity_override_upsert" ∧ row.result = "completed" ∧
    row.targetType = mediaTypeValue mediaType ∧ row.targetId = toString mediaId

/-- The item of a movie or series with one of its assets. -/
def workspaceItem (mediaType : MediaType) (mediaId : Nat) (title : String)
    (asset : Option IdentityAsset) (identifierStatus metadataStatus : String) :
    IdentityWorkspaceItem :=
  let rows := matchIndex w mediaType mediaId
  let assetSource := sourceOf t asset
  let providers := (rows.map (·.provider)).dedup
  let providers := if providers = [] ∧ assetSource ≠ "" then [assetSource] else providers
  let canonical := if rows = [] ∧ assetSource ≠ "" then assetSource
    else chooseCanonicalProvider mediaType rows
  let artworkStatus := match asset with
    | some found => if found.artworkStatus ≠ "" then t.lower found.artworkStatus else "unknown"
    | none => "unknown"
  let confidence := calculatedConfidence (maxConfidence (rows.map (·.confidence)))
    identifierStatus metadataStatus artworkStatus
  let conflict := conflictLevel providers.length confidence
  { mediaType := mediaType
    mediaId := mediaId
    title := title
    canonicalProvider := canonical
    providerCount := providers.length
    providerConfidence := confidence
    conflictLevel := conflict
    needsReview := conflict ∈ [.high, .medium] || confidence < 75 ||
      identifierStatus ≠ "healthy" ||
      artworkStatus ∈ ["missing", "invalid", "stale", "needs_refresh"]
    artworkStatus := artworkStatus
    metadataStatus := metadataStatus
    identifierStatus := identifierStatus
    overrideStatus := if isOverridden w mediaType mediaId then "manual" else "none" }

/-- The text is there and not empty. -/
def isText (value : Option String) : Bool := value.any (· ≠ "")

/-- The movies that are not removed, with their assets. -/
def movieRows : List (IdentityMovie × Option IdentityAsset) :=
  outerJoin (fun movie asset => asset.movieId = some movie.id)
    (w.movies.filter (·.removedAt.isNone)) w.mediaAssets

/-- The series that are not removed, with their assets. -/
def seriesRows : List (IdentitySeries × Option IdentityAsset) :=
  outerJoin (fun series asset => asset.seriesId = some series.id)
    (w.series.filter (·.removedAt.isNone)) w.mediaAssets

/-- The items of `workspace`, before the filters, the order and the page. -/
def workspaceItems : List IdentityWorkspaceItem :=
  ((movieRows w).map fun (movie, asset) =>
    workspaceItem t w .movie movie.id movie.title asset
      (if isText movie.imdbId && movie.tmdbId ≠ 0 then "healthy" else "attention")
      (if isText movie.overview && isText movie.originalLanguage then "healthy" else "review")) ++
    (seriesRows w).map fun (series, asset) =>
      workspaceItem t w .series series.id series.title asset
        (if isText series.imdbId && series.tmdbId ≠ 0 && isText series.tvdbId then "healthy"
          else "attention")
        (if isText series.overview && isText series.originalLanguage then "healthy" else "review")

end Workspace

/-! ## The detail -/

structure IdentityProviderMatch where
  provider : String
  confidence : Int
  isCanonical : Bool
  deriving DecidableEq, Repr

structure IdentityStudio where
  canonicalProvider : String
  providers : List IdentityProviderMatch
  conflictLevel : ConflictLevel
  deriving DecidableEq, Repr

section Studio

variable (t : PythonText.CaseTables) (w : IdentityWorld)

/-- The assets that `_fetch_target` finds for a movie or series, one entry for each row. -/
def targetRows (mediaType : MediaType) (mediaId : Nat) : List (Option IdentityAsset) :=
  match mediaType with
  | .movie => ((movieRows w).filter (·.1.id = mediaId)).map Prod.snd
  | .series => ((seriesRows w).filter (·.1.id = mediaId)).map Prod.snd

/-- `_fetch_target`, of which the detail reads the asset here. -/
def fetchTarget (mediaType : MediaType) (mediaId : Nat) :
    Except IdentityError (Option IdentityAsset) :=
  match targetRows w mediaType mediaId with
  | [] => .error .notFound
  | [asset] => .ok asset
  | _ => .error .multipleResults

/-- The matches that the detail selects. -/
def matchRows (mediaType : MediaType) (mediaId : Nat) : List IdentityMatch :=
  w.supplementalMatches.filter fun row => row.mediaType = mediaType ∧
    (row.movieId = some mediaId ∨ row.seriesId = some mediaId)

/-- `provider_matches` of the rows, the most confident first. -/
def providerMatches (chosen : String) (rows : List IdentityMatch) : List IdentityProviderMatch :=
  (rows.mergeSort fun a b => b.confidence ≤ a.confidence).map fun row =>
    ⟨row.provider, row.confidence, row.provider = chosen⟩

/-- Without a provider that is the canonical one the first one counts as canonical. -/
def flagFirst (canonical : String) (providers : List IdentityProviderMatch) :
    List IdentityProviderMatch :=
  match providers with
  | [] => []
  | first :: rest =>
    if (first :: rest).all (·.provider ≠ canonical) then { first with isCanonical := true } :: rest
    else first :: rest

/-- The asset's own provider, in place of matches. -/
def assetProvider (asset : Option IdentityAsset) : Except IdentityError IdentityProviderMatch :=
  match intOfFloat ((match asset with
    | some found => found.artworkConfidence
    | none => 1.0) * 100) with
  | some confidence => .ok ⟨sourceOf t asset, confidence, true⟩
  | none => .error .overflow

/-- The canonical provider and `provider_matches` behind the fallback to the artwork's source. -/
def settleProviders (mediaType : MediaType) (asset : Option IdentityAsset)
    (rows : List IdentityMatch) : Except IdentityError (String × List IdentityProviderMatch) :=
  let chosen := chooseCanonicalProvider mediaType rows
  let matched := providerMatches chosen rows
  if matched = [] ∧ sourceOf t asset ≠ "" then do
    let own ← assetProvider t asset
    return (sourceOf t asset, [own])
  else .ok (chosen, matched)

/-- `studio`. -/
def studio (mediaType : MediaType) (mediaId : Nat) : Except IdentityError IdentityStudio := do
  let asset ← fetchTarget w mediaType mediaId
  let (canonical, settled) ← settleProviders t mediaType asset (matchRows w mediaType mediaId)
  let providers := flagFirst canonical settled
  return { canonicalProvider := canonical
           providers := providers
           conflictLevel := conflictLevel (max 1 providers.length)
             (maxConfidence (providers.map (·.confidence))) }

end Studio

/-! ## Actions -/

inductive IdentityAction where
  | setCanonicalProvider (mediaType : MediaType) (mediaId : Nat) (provider : String)
    (reason : Option String)
  | setArtworkProvider (mediaType : MediaType) (mediaId : Nat) (field provider : String)
    (reason : Option String)
  | upsertOverride (mediaType : MediaType) (mediaId : Nat) (field : String)
    (value scope reason : Option String)
  | startSync
  deriving DecidableEq, Repr

def overrideFieldOptions : List String :=
  ["title", "original_title", "sort_title", "year", "runtime", "overview", "tagline", "language",
    "tmdb_id", "imdb_id", "tvdb_id", "canonical_provider", "metadata_profile", "artwork_profile",
    "poster_provider", "backdrop_provider"]

section Actions

variable (w : IdentityWorld)

/-- `self.db.add` and `commit` for rows of the history. -/
def IdentityWorld.record (rows : List OperationHistory) : IdentityWorld :=
  { w with history := w.history ++ rows }

def syncRow (metadataJson : List (String × Option String)) : OperationHistory where
  action := "identity_sync_run"
  targetType := "identity"
  targetId := "all"
  result := "queued"
  metadataJson := metadataJson

/-- The row of an action for a movie or series. -/
def targetRow (action : String) (mediaType : MediaType) (mediaId : Nat)
    (metadataJson : List (String × Option String)) : OperationHistory where
  action := action
  targetType := mediaTypeValue mediaType
  targetId := toString mediaId
  result := "completed"
  metadataJson := metadataJson

/-- `set_canonical_provider`, `set_artwork_provider`, `upsert_override` and `start_sync`. -/
def handle : IdentityAction → Except IdentityError IdentityWorld
  | .setCanonicalProvider mediaType mediaId provider reason => do
    let _ ← fetchTarget w mediaType mediaId
    return w.record [targetRow "identity_set_canonical" mediaType mediaId
      [("provider", some provider), ("reason", reason)]]
  | .setArtworkProvider mediaType mediaId field provider reason => do
    let _ ← fetchTarget w mediaType mediaId
    return w.record [targetRow "identity_set_artwork_provider" mediaType mediaId
        [("field", some field), ("provider", some provider), ("reason", reason)],
      syncRow [("trigger", some "artwork_provider_change"), ("field", some field),
        ("provider", some provider)]]
  | .upsertOverride mediaType mediaId field value scope reason => do
    let _ ← fetchTarget w mediaType mediaId
    if field ∈ overrideFieldOptions then
      return w.record [targetRow "identity_override_upsert" mediaType mediaId
        [("field", some field), ("value", value), ("scope", scope), ("reason", reason)]]
    else return w
  | .startSync => return w.record [syncRow []]

/-- One request after the other; one that raises changes nothing. -/
def run (actions : List IdentityAction) : IdentityWorld :=
  actions.foldl (fun w action => match handle w action with
    | .ok w' => w'
    | .error _ => w) w

/-- The provider that was last set as canonical for a movie or series. -/
def lastChoice (history : List OperationHistory) (mediaType : MediaType) (mediaId : Nat) :
    Option String :=
  ((history.filter fun row => row.action = "identity_set_canonical" ∧
    row.targetType = mediaTypeValue mediaType ∧ row.targetId = toString mediaId).getLast?).bind
      fun row => (row.metadataJson.lookup "provider").join

end Actions

end MediaMasterr.Mie.IdentityCenter
