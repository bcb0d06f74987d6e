import MediaMasterr.Foundations.SelectStatements
import MediaMasterr.Foundations.ThreeValued
import MediaMasterr.Media.StatusItems
import MediaMasterr.RuleEngine.Values

/-! # Query engine

`apply_spec` and what it is made of: the statement that selects the movies or
series of a page and the statement that counts them, under the filters that
`get_movies` and `get_series` accept. A table that is joined twice is joined
under two names. -/

namespace MediaMasterr.Media

open MediaMasterr.Foundations MediaMasterr.Database MediaMasterr.RuleEngine

/-- The exceptions that building the statements lets through. -/
inductive QueryError where
  | typeError
  | valueError
  | overflowError
  deriving DecidableEq, Repr

/-- The interpreter's `str`, `int` and `str.isdigit`, `now - timedelta(days=days)` (`none` where it
overflows), and the database's `lower`, `LIKE` and `ILIKE`, the column first and then the pattern.
-/
structure QueryRuntime extends PythonText.CaseTables where
  str : PyValue → String
  intOfStr : String → Option Int
  intOfFloat : Float → Option Int
  isdigit : String → Bool
  daysBefore : Nat → Int → Option Int
  sqlLower : String → String
  like : String → String → Bool
  ilike : String → String → Bool

namespace QueryRuntime

variable (rt : QueryRuntime)

/-- `int(value)`; `none` where it raises. -/
def int : PyValue → Option Int
  | .bool b => some (if b then 1 else 0)
  | .int n => some n.val
  | .float x => rt.intOfFloat x
  | .str s => rt.intOfStr s
  | _ => none

/-- `str(value or default)`. -/
def strOr (value : PyValue) (default : String) : String :=
  if value.truthy then rt.str value else default

end QueryRuntime

/-! ## Rows -/

/-- The columns of a movie or series that the statements read. `arrTags` is the stored text. -/
structure MediaRow where
  id : Nat
  title : String
  status : Option String := none
  isMonitored : Option Bool := none
  size : Option Nat := none
  viewCount : Nat := 0
  lastViewedAt : Option Nat := none
  arrTags : Option String := none
  removedAt : Option Nat := none
  deriving DecidableEq, Repr

/-- The columns of movies and series that the tables leave out, and the text under which a list of
tags is stored. -/
structure LibraryColumns extends OtherColumns where
  movieStatus : Movie → Option String := fun _ => none
  seriesStatus : Series → Option String := fun _ => none
  movieIsMonitored : Movie → Option Bool := fun _ => none
  seriesIsMonitored : Series → Option Bool := fun _ => none
  tagsText : Option (List String) → Option String := fun _ => none

namespace LibraryColumns

variable (columns : LibraryColumns)

def movieRow (m : Movie) : MediaRow :=
  { id := m.id
    title := m.title
    status := columns.movieStatus m
    isMonitored := columns.movieIsMonitored m
    size := m.size
    viewCount := (columns.movieViews m).viewCount
    lastViewedAt := (columns.movieViews m).lastViewedAt
    arrTags := columns.tagsText m.arrTags
    removedAt := m.removedAt }

def seriesRow (s : Series) : MediaRow :=
  { id := s.id
    title := s.title
    status := columns.seriesStatus s
    isMonitored := columns.seriesIsMonitored s
    size := s.size
    viewCount := (columns.seriesViews s).viewCount
    lastViewedAt := (columns.seriesViews s).lastViewedAt
    arrTags := columns.tagsText s.arrTags
    removedAt := s.removedAt }

/-- The table of the media type. -/
def mediaTable (db : Tables) : MediaType → List MediaRow
  | .movie => db.movies.map columns.movieRow
  | .series => db.series.map columns.seriesRow

end LibraryColumns

/-- The rows that a statement joins to a movie or series. -/
inductive JoinedRow where
  | candidate (c : ReclaimCandidate)
  | movieArrRef (ref : MovieArrRef)
  | seriesArrRef (ref : SeriesArrRef)
  | protection (p : ProtectedMedia)
  | request (r : ProtectionRequest)
  deriving DecidableEq, Repr

abbrev MediaClause := MediaRow → Option Bool

/-- A row with these columns is for the movie or series with the id. -/
def isOf (mediaType : MediaType) (movieId seriesId : Option Nat) (id : Nat) : Bool :=
  match mediaType with
  | .movie => movieId = some id
  | .series => seriesId = some id

/-! ## Statements -/

/-- The two statements that are built side by side. -/
structure Statements where
  query : SelectStatement MediaRow JoinedRow
  countQuery : SelectStatement MediaRow JoinedRow

def Statements.filter (s : Statements) (clause : MediaClause) : Statements :=
  ⟨s.query.filter clause, s.countQuery.filter clause⟩

/-- Every join is made distinct at once. -/
def Statements.join (s : Statements) (joined : MediaRow → List JoinedRow) : Statements :=
  ⟨(s.query.join joined).distinct, (s.countQuery.join joined).distinct⟩

section Relations

variable (db : Tables) (mediaType : MediaType)

def candidateRelation (row : MediaRow) : List JoinedRow :=
  (db.candidates.filter fun c => isOf mediaType c.movieId c.seriesId row.id).map .candidate

/-- The Arr references among the ids. -/
def arrRefRelation (arrIds : List Int) (row : MediaRow) : List JoinedRow :=
  match mediaType with
  | .movie =>
    (db.movieArrRefs.filter fun ref =>
      ref.movieId = row.id ∧ (ref.arrMovieId : Int) ∈ arrIds).map .movieArrRef
  | .series =>
    (db.seriesArrRefs.filter fun ref =>
      ref.seriesId = row.id ∧ (ref.arrSeriesId : Int) ∈ arrIds).map .seriesArrRef

def protectionRelation (row : MediaRow) : List JoinedRow :=
  (db.protectedMedia.filter fun p => isOf mediaType p.movieId p.seriesId row.id).map .protection

def pendingRelation (row : MediaRow) : List JoinedRow :=
  (db.protectionRequests.filter fun r =>
    isOf mediaType r.movieId r.seriesId row.id ∧ r.status = .pending).map .request

end Relations

/-! ## Saved filters -/

/-- `imported_arr`, `decision` and `smart` filters. -/
structure QueryFilter where
  id : Nat
  name : String
  kind : String := "decision"
  mediaType : Option MediaType := none
  definition : List (String × PyValue) := []
  enabled : Bool := true

/-- `mapping.get(key)`. -/
def entryOf (entries : List (String × PyValue)) (key : String) : PyValue :=
  ((entries.find? (·.1 == key)).map (·.2)).getD .none

/-- The enabled filters of a kind among the ids. -/
def enabledFilters (filters : List QueryFilter) (kind : String) (ids : List Int) :
    List QueryFilter :=
  filters.filter fun f => (f.id : Int) ∈ ids ∧ f.kind = kind ∧ f.enabled

/-! ### Imported filters -/

section Imported

variable (rt : QueryRuntime)

/-- `_extract_int_list`. -/
def extractIntList : PyValue → List Int
  | .list items => items.filterMap rt.int
  | _ => []

def directKeys : MediaType → List String
  | .movie => ["movieIds", "movies", "ids"]
  | .series => ["seriesIds", "series", "ids"]

/-- The ids under the first direct key that has some. -/
def directArrIds (mediaType : MediaType) (entries : List (String × PyValue)) : List Int :=
  (((directKeys mediaType).map fun key => extractIntList rt (entryOf entries key)).find?
    (· ≠ [])).getD []

def isMapping : PyValue → Bool
  | .dict _ => true
  | _ => false

mutual

/-- `_extract_arr_ids` of a mapping, and what a list of mappings adds. -/
def arrIdsOf (mediaType : MediaType) : PyValue → List Int
  | .dict entries =>
    match directArrIds rt mediaType entries with
    | [] => arrIdsOfEntries mediaType entries
    | ids => ids
  | .list items => if items.all isMapping then arrIdsOfItems mediaType items else []
  | _ => []

def arrIdsOfEntries (mediaType : MediaType) : List (String × PyValue) → List Int
  | [] => []
  | (_, value) :: entries =>
    match arrIdsOf mediaType value with
    | [] => arrIdsOfEntries mediaType entries
    | ids => ids

def arrIdsOfItems (mediaType : MediaType) : List PyValue → List Int
  | [] => []
  | item :: items =>
    match arrIdsOf mediaType item with
    | [] => arrIdsOfItems mediaType items
    | ids => ids

end

/-- `_extract_arr_ids(raw_mapping, media_type)` for the definition of an imported filter. -/
def importedArrIds (mediaType : MediaType) (f : QueryFilter) : List Int :=
  match entryOf f.definition "raw" with
  | .dict entries => arrIdsOf rt mediaType (.dict entries)
  | _ => arrIdsOf rt mediaType (.dict [])

/-- `s.split()`. -/
def words (s : String) : List String :=
  ((s.toList.splitOnP PythonText.isSpace).filter (· ≠ [])).map String.ofList

/-- `_text_tokens`. -/
def textTokens (name : String) : List String :=
  ((words (PythonText.replaceChar '-' ' ' name)).filter (PythonText.strip · ≠ "")).map fun token =>
    rt.lower (PythonText.strip token)

/-- `_arr_tag_clause`. -/
def arrTagClause (token : String) : MediaClause := fun row =>
  row.arrTags.map (rt.like · ("%\"" ++ token ++ "\"%"))

def titleClause (pattern : String) : MediaClause := fun row => some (rt.ilike row.title pattern)

/-- `_apply_imported_filter`. -/
def applyImportedFilter (db : Tables) (mediaType : MediaType) (s : Statements) (f : QueryFilter) :
    Statements :=
  if importedArrIds rt mediaType f ≠ [] then
    s.join (arrRefRelation db mediaType (importedArrIds rt mediaType f))
  else
    let tokens := (textTokens rt f.name).filter (3 ≤ ·.length)
    if tokens ≠ [] then
      s.filter fun row => ThreeValued.conj (tokens.map fun token =>
        ThreeValued.disj [arrTagClause rt token row, titleClause rt ("%" ++ token ++ "%") row])
    else s

end Imported

/-! ### Decision filters -/

section Decision

variable (rt : QueryRuntime) (db : Tables) (now : Nat) (mediaType : MediaType)

/-- `_decision_state_expression`. -/
def decisionStateExpression (state : String) : Option MediaClause :=
  match rt.lower (PythonText.strip state) with
  | "safe_to_delete" =>
    some fun row => some (db.candidates.any fun c => isOf mediaType c.movieId c.seriesId row.id)
  | "protected" =>
    some fun row => some (db.protectedMedia.any fun p => isOf mediaType p.movieId p.seriesId row.id)
  | "waiting" =>
    some fun row => some (db.protectionRequests.any fun r =>
      r.status = .pending ∧ isOf mediaType r.movieId r.seriesId row.id)
  | "unwatched" =>
    some fun row => ThreeValued.conj [some (row.viewCount ≤ 0), some row.lastViewedAt.isNone]
  | "watching" =>
    some fun row => ThreeValued.conj
      [some row.lastViewedAt.isSome,
        row.lastViewedAt.map fun lastViewedAt => (now : Int) - 14 * 86400 ≤ lastViewedAt]
  | _ => none

/-- The clauses on `media.size`. -/
def sizeExpression (op : String) (parsed : Int) : Option MediaClause :=
  if op ∈ ["greater_than", ">", ">="] then
    some fun row => ThreeValued.conj [some row.size.isSome, row.size.map (parsed ≤ ·)]
  else if op ∈ ["less_than", "<", "<="] then
    some fun row => ThreeValued.conj [some row.size.isSome, row.size.map fun size =>
      (size : Int) ≤ parsed]
  else if op ∈ ["equals", "="] then some fun row => row.size.map fun size => (size : Int) = parsed
  else if op ∈ ["not_equals", "!=", "<>"] then
    some fun row => row.size.map fun size => (size : Int) ≠ parsed
  else none

/-- The clauses on `media.last_watched_days`. -/
def lastWatchedExpression (op : String) (cutoff : Int) : Option MediaClause :=
  if op ∈ ["greater_than", ">"] then
    some fun row => ThreeValued.conj
      [some row.lastViewedAt.isSome,
        row.lastViewedAt.map fun lastViewedAt => (lastViewedAt : Int) ≤ cutoff]
  else if op ∈ ["less_than", "<"] then
    some fun row => ThreeValued.conj
      [some row.lastViewedAt.isSome, row.lastViewedAt.map (cutoff ≤ ·)]
  else if op ∈ ["exists"] then some fun row => some row.lastViewedAt.isSome
  else if op ∈ ["does_not_exist", "not_exists"] then some fun row => some row.lastViewedAt.isNone
  else none

/-- The clauses on `media.library_group`. -/
def libraryGroupExpression (op : String) (value : PyValue) : Option MediaClause :=
  let token := rt.lower (PythonText.strip (rt.strOr value ""))
  if token = "" then none
  else if op ∈ ["not_equals", "does_not_contain", "does_not_exist"] then
    some fun row => (arrTagClause rt token row).map (!·)
  else some (arrTagClause rt token)

/-- The clauses on `media.title`, which is never `NULL`. -/
def titleExpression (op : String) (value : PyValue) : Option MediaClause :=
  let token := PythonText.strip (rt.strOr value "")
  if token = "" then none
  else if op ∈ ["equals", "="] then some fun row => some (row.title = token)
  else if op ∈ ["not_equals", "!=", "<>"] then some fun row => some (row.title ≠ token)
  else if op ∈ ["starts_with"] then some (titleClause rt (token ++ "%"))
  else if op ∈ ["ends_with"] then some (titleClause rt ("%" ++ token))
  else if op ∈ ["exists"] then some fun _ => some true
  else if op ∈ ["does_not_exist", "not_exists"] then some fun _ => some false
  else some (titleClause rt ("%" ++ token ++ "%"))

/-- `_decision_clause_expression`. -/
def decisionClauseExpression (field operator : String) (value : PyValue) :
    Except QueryError (Option MediaClause) :=
  let op := PythonText.strip (rt.lower operator)
  match PythonText.strip field with
  | "decision.state" => .ok (decisionStateExpression rt db now mediaType (rt.strOr value ""))
  | "media.size" => .ok ((rt.int value).bind (sizeExpression op))
  | "media.last_watched_days" =>
    match rt.int value with
    | none => .ok none
    | some days =>
      -- the cutoff is computed before the operator is looked at
      match rt.daysBefore now days with
      | none => .error .overflowError
      | some cutoff => .ok (lastWatchedExpression op cutoff)
  | "media.library_group" => .ok (libraryGroupExpression rt op value)
  | "media.title" => .ok (titleExpression rt op value)
  | _ => .ok none

/-- A normalised node of a definition; normalising it again changes nothing. -/
inductive FilterNode where
  | group (combinator : String) (clauses : List FilterNode)
  | condition (field operator value : PyValue)

/-- The nodes under `clauses` when that is a list, otherwise those under `children`. -/
def chosenNodes (lists : List (String × Option (List FilterNode))) : List FilterNode :=
  let nodesUnder (key : String) := (lists.find? (·.1 == key)).bind (·.2)
  ((nodesUnder "clauses").or (nodesUnder "children")).getD []

def combinatorOf (entries : List (String × PyValue)) : String :=
  rt.lower (rt.strOr (entryOf entries "combinator") "and")

mutual

def normalizeNode : PyValue → Option FilterNode
  | .dict entries =>
    if rt.lower (rt.strOr (entryOf entries "type") "condition") = "group" then
      some (.group (combinatorOf rt entries) (chosenNodes (nodeLists entries)))
    else
      some (.condition (entryOf entries "field") (entryOf entries "operator")
        (entryOf entries "value"))
  | _ => none

def normalizeNodes : List PyValue → List FilterNode
  | [] => []
  | value :: values => (normalizeNode value).toList ++ normalizeNodes values

/-- The normalised nodes of the entries that are lists. -/
def nodeLists : List (String × PyValue) → List (String × Option (List FilterNode))
  | [] => []
  | (key, .list items) :: entries => (key, some (normalizeNodes items)) :: nodeLists entries
  | (key, _) :: entries => (key, none) :: nodeLists entries

end

/-- `_normalize_definition_nodes`. -/
def normalizeDefinitionNodes (definition : List (String × PyValue)) : List FilterNode :=
  chosenNodes (nodeLists rt definition)

def combine (combinator : String) (expressions : List MediaClause) : Option MediaClause :=
  if expressions.isEmpty then none
  else if combinator ≠ "or" then some fun row => ThreeValued.conj (expressions.map (· row))
  else some fun row => ThreeValued.disj (expressions.map (· row))

mutual

def nodeExpression : FilterNode → Except QueryError (Option MediaClause)
  | .group combinator clauses => (nodeExpressions clauses).map (combine combinator)
  | .condition field operator value =>
    decisionClauseExpression rt db now mediaType (rt.strOr field "") (rt.strOr operator "") value

def nodeExpressions : List FilterNode → Except QueryError (List MediaClause)
  | [] => .ok []
  | node :: nodes => do
    let expression ← nodeExpression node
    let expressions ← nodeExpressions nodes
    return expression.toList ++ expressions

end

/-- `_definition_expression`. -/
def definitionExpression (definition : List (String × PyValue)) :
    Except QueryError (Option MediaClause) :=
  (nodeExpressions rt db now mediaType (normalizeDefinitionNodes rt definition)).map
    (combine (combinatorOf rt definition))

end Decision

/-! ## `apply_spec` -/

structure QueryEngineSpec where
  mediaType : MediaType
  search : Option String := none
  candidatesOnly : Bool := false
  monitored : Option Bool := none
  mediaStatus : Option String := none
  importedFilterIds : List Int := []
  decisionFilterIds : List Int := []
  smartFilterIds : List Int := []

section ApplySpec

variable (rt : QueryRuntime) (db : Tables) (filters : List QueryFilter) (now : Nat)

def applySearch (search : Option String) (s : Statements) : Statements :=
  match search with
  | none => s
  | some search =>
    if search = "" then s else s.filter (titleClause rt ("%" ++ PythonText.strip search ++ "%"))

def applyCandidatesOnly (mediaType : MediaType) (candidatesOnly : Bool) (s : Statements) :
    Statements :=
  if candidatesOnly then s.join (candidateRelation db mediaType) else s

def applyMonitored (monitored : Option Bool) (s : Statements) : Statements :=
  match monitored with
  | none => s
  | some monitored => s.filter fun row => some (row.isMonitored = some monitored)

def applyStatus (mediaStatus : Option String) (s : Statements) : Statements :=
  let status := rt.lower (PythonText.strip (mediaStatus.getD ""))
  if status = "" then s else s.filter fun row => row.status.map (rt.sqlLower · = status)

/-- Of the imported filters for the media type, only the first is applied. -/
def applyImported (mediaType : MediaType) (ids : List Int) (s : Statements) : Statements :=
  let imported := enabledFilters filters "imported_arr" ids
  match imported.filter (·.mediaType = some mediaType) with
  | [] => if imported.isEmpty then s else s.filter fun _ => some false
  | first :: _ => applyImportedFilter rt db mediaType s first

/-- The items of `for v in payload.get(key, [])`. -/
def payloadItems (payload : List (String × PyValue)) (key : String) :
    Except QueryError (List PyValue) :=
  match payload.find? (·.1 == key) with
  | none => .ok []
  | some (_, .list items) => .ok items
  | some (_, .str s) => .ok (s.toList.map fun c => .str (String.ofList [c]))
  | some (_, .dict entries) => .ok (entries.map fun entry => .str entry.1)
  | some _ => .error .typeError

/-- `[int(v) for v in payload.get(key, []) if str(v).isdigit()]`. -/
def payloadIds (payload : List (String × PyValue)) (key : String) :
    Except QueryError (List Int) := do
  let items ← payloadItems payload key
  (items.filter fun v => rt.isdigit (rt.str v)).mapM fun v =>
    match rt.int v with
    | some n => .ok n
    | none => .error .valueError

def applySmartSearch (search : PyValue) (s : Statements) : Statements :=
  match search with
  | .str search =>
    if PythonText.strip search = "" then s
    else s.filter (titleClause rt ("%" ++ PythonText.strip search ++ "%"))
  | _ => s

/-- One smart filter: the statements, and the decision filters it adds. -/
def applySmartFilter (mediaType : MediaType) (state : Statements × List Int) (smart : QueryFilter) :
    Except QueryError (Statements × List Int) := do
  let decisionIds ← payloadIds rt smart.definition "decision_filter_ids"
  -- the imported filters were applied before, so these ids have no effect
  let _ ← payloadIds rt smart.definition "arr_filter_ids"
  return (applyCandidatesOnly db mediaType (entryOf smart.definition "candidates_only").truthy
    (applySmartSearch rt (entryOf smart.definition "search") state.1), state.2 ++ decisionIds)

def applyDecisionFilter (mediaType : MediaType) (s : Statements) (f : QueryFilter) :
    Except QueryError Statements :=
  (definitionExpression rt db now mediaType f.definition).map fun
    | none => s
    | some expression => s.filter expression

/-- What `apply_spec` does before the smart filters. -/
def applyPlain (spec : QueryEngineSpec) (s : Statements) : Statements :=
  applyImported rt db filters spec.mediaType spec.importedFilterIds
    (applyStatus rt spec.mediaStatus
      (applyMonitored spec.monitored
        (applyCandidatesOnly db spec.mediaType spec.candidatesOnly (applySearch rt spec.search s))))

/-- `apply_spec`. -/
def applySpec (spec : QueryEngineSpec) (s : Statements) : Except QueryError Statements := do
  let (s, decisionIds) ← (enabledFilters filters "smart" spec.smartFilterIds).foldlM
    (applySmartFilter rt db spec.mediaType)
    (applyPlain rt db filters spec s, spec.decisionFilterIds)
  (enabledFilters filters "decision" decisionIds).foldlM
    (applyDecisionFilter rt db now spec.mediaType) s

end ApplySpec

/-! ## The endpoints -/

/-- The parameters of `get_movies` and `get_series`, but for the order of the rows. -/
structure ListingRequest where
  page : Nat := 1
  perPage : Nat := 50
  search : Option String := none
  candidatesOnly : Bool := false
  monitored : Option Bool := none
  statusFilter : Option String := none
  arrTag : Option String := none
  decisionState : Option String := none
  arrFilterIds : List Int := []
  decisionFilterIds : List Int := []
  smartFilterIds : List Int := []

section Listing

variable (rt : QueryRuntime) (db : Tables) (filters : List QueryFilter) (now : Nat)
  (mediaType : MediaType)

/-- `_apply_legacy_decision_state`. -/
def applyLegacyDecisionState (decisionState : Option String) (s : Statements) : Statements :=
  match decisionState with
  | some "safe_to_delete" => s.join (candidateRelation db mediaType)
  | some "protected" => s.join (protectionRelation db mediaType)
  | some "waiting" => s.join (pendingRelation db mediaType)
  | some "unwatched" =>
    (s.filter fun row => some (row.viewCount ≤ 0)).filter fun row => some row.lastViewedAt.isNone
  | some "watching" =>
    (s.filter fun row => some row.lastViewedAt.isSome).filter fun row =>
      row.lastViewedAt.map fun lastViewedAt => (now : Int) - 14 * 86400 ≤ lastViewedAt
  | _ => s

/-- The statements before any filter. -/
def listingStart : Statements :=
  let statement : SelectStatement MediaRow JoinedRow :=
    { clauses := [fun row => some row.removedAt.isNone] }
  ⟨statement, statement⟩

/-- The first imported filter that has the tag as its name. -/
def arrTagFilterIds (arrTag : Option String) : List Int :=
  match arrTag with
  | none => []
  | some arrTag =>
    if PythonText.strip arrTag = "" then []
    else
      ((filters.find? fun f =>
        f.kind = "imported_arr" ∧ f.mediaType = some mediaType ∧ f.name = arrTag ∧ f.enabled).map
          fun f => (f.id : Int)).toList

def listingSpec (request : ListingRequest) : QueryEngineSpec :=
  { mediaType := mediaType
    search := request.search
    candidatesOnly := request.candidatesOnly
    monitored := request.monitored
    mediaStatus := request.statusFilter
    importedFilterIds := request.arrFilterIds ++ arrTagFilterIds filters mediaType request.arrTag
    decisionFilterIds := request.decisionFilterIds
    smartFilterIds := request.smartFilterIds }

/-- The statements of `get_movies` or `get_series`. -/
def listingStatements (request : ListingRequest) : Except QueryError Statements :=
  (applySpec rt db filters now (listingSpec filters mediaType request) listingStart).map
    (applyLegacyDecisionState db now mediaType request.decisionState)

end Listing

section Answer

variable (columns : LibraryColumns) (db : Tables) (mediaType : MediaType)

/-- `total`. -/
def listingTotal (s : Statements) : Nat := s.countQuery.count (columns.mediaTable db mediaType)

/-- The rows that the query selects, without offset and limit. -/
def listingRows (s : Statements) : List MediaRow := s.query.rows (columns.mediaTable db mediaType)

/-- The rows of a page, under the order of the endpoint. -/
def listingPage (order : MediaRow → MediaRow → Bool) (perPage page : Nat) (s : Statements) :
    List MediaRow :=
  pageOf perPage page ((listingRows columns db mediaType s).mergeSort order)

end Answer

/-! ## A runtime for ASCII text -/

/-- `LIKE` without escapes, on lower-case text. -/
def likeChars : List Char → List Char → Bool
  | [], text => text.isEmpty
  | '%' :: pattern, text => text.tails.any (likeChars pattern)
  | _ :: _, [] => false
  | c :: pattern, d :: text => (c = '_' || c = d) && likeChars pattern text

def likeText (text pattern : String) : Bool :=
  likeChars (PythonText.asciiLower pattern).toList (PythonText.asciiLower text).toList

def asciiQueryRuntime : QueryRuntime where
  lower := PythonText.asciiLower
  upper s := String.ofList (s.toList.map Char.toUpper)
  str
    | .str s => s
    | _ => ""
  intOfStr := String.toInt?
  intOfFloat _ := none
  isdigit s := s ≠ "" && s.all Char.isDigit
  daysBefore now days := some (now - days * 86400)
  sqlLower := PythonText.asciiLower
  like := likeText
  ilike := likeText

end MediaMasterr.Media
