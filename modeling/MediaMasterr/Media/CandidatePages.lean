import MediaMasterr.Foundations.Dict
import MediaMasterr.Foundations.SelectStatements
import MediaMasterr.Candidates.AutoDelete
import MediaMasterr.Database.Frames

/-! # Pages of candidates

`get_candidates`: the display groups are gathered from the candidates that pass the
filter, sorted and cut into pages, and the rows of a page are read again and sorted by
the place of their group. -/

namespace MediaMasterr.Media

open MediaMasterr.Foundations MediaMasterr.Database MediaMasterr.Candidates

/-- A candidate with the rows that the outer joins find for it. -/
structure CandidateRow where
  candidate : ReclaimCandidate
  movie : Option Movie
  version : Option MovieVersion
  series : Option Series
  season : Option Season
  episode : Option Episode

inductive GroupKey
  | movieVersions (movieId : Nat)
  | seriesSeasons (seriesId : Nat)
  | flat (candidateId : Nat)
  deriving DecidableEq

structure CandidateDisplayGroup where
  groupKind : GroupKey
  mediaId : Option Nat
  sortTitle : String
  sortCreatedAt : Nat
  sortDeletionAt : Int
  sortSize : Nat
  candidateIds : List Nat

inductive CandidateSort
  | createdAt
  | autoDeleteEligibleAt
  | mediaTitle
  | estimatedSpaceBytes
  deriving DecidableEq

/-- An entry of the answer, less the columns that it copies from the media. -/
structure CandidateEntry where
  id : Nat
  mediaType : MediaType
  mediaId : Nat
  mediaTitle : String
  movieVersionId : Option Nat
  seasonId : Option Nat
  seasonNumber : Option Nat
  episodeId : Option Nat
  episodeNumber : Option Nat
  estimatedSpaceBytes : Option Nat
  createdAt : String
  deriving DecidableEq

structure PaginatedCandidatesResponse where
  items : List CandidateEntry
  total : Nat
  page : Nat
  perPage : Nat
  totalPages : Nat

/-- What the listing takes from the interpreter and from the database: `lower`, the text of
a date, and `ILIKE`. -/
structure ListingText where
  lower : String → String
  toUtcIsoformat : Nat → String
  ilike : String → String → Bool

structure CandidateRequest where
  mediaType : Option MediaType := none
  search : Option String := none
  sortBy : CandidateSort := .createdAt
  descending : Bool := true
  perPage : Nat := 25

section Listing

variable (text : ListingText) (db : Tables) (request : CandidateRequest)

def candidateRow (c : ReclaimCandidate) : CandidateRow where
  candidate := c
  movie := c.movieId.bind db.findMovie
  version := c.movieVersionId.bind db.findVersion
  series := c.seriesId.bind db.findSeries
  season := c.seasonId.bind db.findSeason
  episode := c.episodeId.bind db.findEpisode

/-- `_apply_candidate_filters` -/
def applyCandidateFilters (row : CandidateRow) : Bool :=
  request.mediaType.all (row.candidate.mediaType = ·) &&
    match request.search with
    | none => true
    | some search =>
      let term := "%" ++ search ++ "%"
      search = "" || row.movie.any (text.ilike ·.title term) ||
        row.series.any (text.ilike ·.title term) || text.ilike row.candidate.reason term

/-- The rows of both statements. -/
def candidateRows : List CandidateRow :=
  (db.candidates.map (candidateRow db)).filter (applyCandidateFilters text request)

/-- `_candidate_effective_size_expr` -/
def candidateEffectiveSize (row : CandidateRow) : Nat :=
  (row.candidate.estimatedSpaceBytes <|> row.version.map (·.size) <|> row.episode.bind (·.size) <|>
    row.season.bind (·.size) <|> row.movie.bind (·.size) <|> row.series.bind (·.size)).getD 0

def seriesWithNestedScope (rows : List CandidateRow) : List Nat :=
  (rows.filter fun row => row.candidate.seasonId.isSome || row.candidate.episodeId.isSome).filterMap
    (·.candidate.seriesId)

/-- The key of a row's group, where the given series have nested rows. -/
def groupKey (nested : List Nat) (row : CandidateRow) : GroupKey :=
  match row.candidate.mediaType, row.candidate.movieVersionId, row.candidate.movieId,
    row.candidate.seriesId with
  | .movie, some _, some movieId, _ => .movieVersions movieId
  | .series, _, _, some seriesId =>
    if nested.contains seriesId then .seriesSeasons seriesId else .flat row.candidate.id
  | _, _, _, _ => .flat row.candidate.id

def rowTitle (row : CandidateRow) : Option String :=
  if row.candidate.mediaType = .movie then row.movie.map (·.title) else row.series.map (·.title)

def rowMediaId (row : CandidateRow) : Option Nat :=
  if row.candidate.mediaType = .movie then row.candidate.movieId else row.candidate.seriesId

/-- The delays and actions are read for one sort key only. -/
def rowDeletionAt (row : CandidateRow) : Int :=
  let policies : Tables := if request.sortBy = .autoDeleteEligibleAt then db else {}
  (resolveAutoDeletePolicy policies 0 row.candidate).eligibleAt

def startGroup (key : GroupKey) (row : CandidateRow) : CandidateDisplayGroup where
  groupKind := key
  mediaId := rowMediaId row
  sortTitle := (rowTitle row).getD ""
  sortCreatedAt := row.candidate.createdAt
  sortDeletionAt := rowDeletionAt db request row
  sortSize := candidateEffectiveSize row
  candidateIds := [row.candidate.id]

def addToGroup (group : CandidateDisplayGroup) (row : CandidateRow) : CandidateDisplayGroup :=
  { group with
    candidateIds := group.candidateIds ++ [row.candidate.id]
    sortCreatedAt := max group.sortCreatedAt row.candidate.createdAt
    sortDeletionAt := min group.sortDeletionAt (rowDeletionAt db request row)
    sortSize := group.sortSize + candidateEffectiveSize row }

def groupsByKey (rows : List CandidateRow) : Dict GroupKey CandidateDisplayGroup :=
  let key := groupKey (seriesWithNestedScope rows)
  Dict.gatherAll key (fun row => startGroup db request (key row) row) (addToGroup db request) rows

/-- `group.media_id or group.candidate_ids[0]` -/
def groupRank (group : CandidateDisplayGroup) : Nat :=
  (group.mediaId.filter (· ≠ 0)).getD (group.candidateIds.headD 0)

def compareGroups (a b : CandidateDisplayGroup) : Ordering :=
  let titles := (compare (text.lower a.sortTitle) (text.lower b.sortTitle)).then
    (compare (groupRank a) (groupRank b))
  match request.sortBy with
  | .autoDeleteEligibleAt => (compare a.sortDeletionAt b.sortDeletionAt).then titles
  | .mediaTitle => titles
  | .estimatedSpaceBytes => (compare a.sortSize b.sortSize).then titles
  | .createdAt => (compare a.sortCreatedAt b.sortCreatedAt).then titles

def sortedGroups (rows : List CandidateRow) : List CandidateDisplayGroup :=
  (groupsByKey db request rows).values.mergeSort fun a b =>
    (if request.descending then compareGroups text request b a
      else compareGroups text request a b).isLE

/-- `_get_candidate_page_groups` -/
def getCandidatePageGroups (page : Nat) : Nat × List CandidateDisplayGroup :=
  let groups := sortedGroups text db request (candidateRows text db request)
  (groups.length, pageOf request.perPage page groups)

/-- The rank of a row's scope in `_candidate_row_sort_key`. -/
def scopeRank (row : CandidateRow) : Nat :=
  if row.candidate.episodeId.isSome then 2 else if row.candidate.seasonId.isSome then 1 else 0

/-- `_candidate_row_sort_key`, and the id. -/
def compareInGroup : CandidateRow → CandidateRow → Ordering :=
  compareLex (compareOn scopeRank) <|
    compareLex (compareOn fun row => (row.season.map (·.seasonNumber)).getD 0) <|
      compareLex (compareOn fun row => (row.episode.map (·.episodeNumber)).getD 0) <|
        compareLex (compareOn fun row => text.toUtcIsoformat row.candidate.createdAt) <|
          compareOn fun row => row.candidate.id

/-- `candidate_group_position` -/
def candidateGroupPosition (pageGroups : List CandidateDisplayGroup) (row : CandidateRow) : Int :=
  match pageGroups.findIdx? fun group => group.candidateIds.contains row.candidate.id with
  | some i => i
  | none => -1

def compareRows (pageGroups : List CandidateDisplayGroup) :
    CandidateRow → CandidateRow → Ordering :=
  compareLex (compareOn (candidateGroupPosition pageGroups)) (compareInGroup text)

def pageRows (pageGroups : List CandidateDisplayGroup) : List CandidateRow :=
  if pageGroups.isEmpty then []
  else
    let candidateIds := pageGroups.flatMap (·.candidateIds)
    ((candidateRows text db request).filter fun row =>
      candidateIds.contains row.candidate.id).mergeSort fun a b =>
        (compareRows text pageGroups a b).isLE

/-- The entry of a row, if its movie or series is there. -/
def candidateEntry (row : CandidateRow) : Option CandidateEntry := do
  let c := row.candidate
  let isMovie := c.mediaType = .movie
  let mediaId ← rowMediaId row
  let mediaTitle ← rowTitle row
  return {
    id := c.id
    mediaType := c.mediaType
    mediaId
    mediaTitle
    movieVersionId := c.movieVersionId
    seasonId := c.seasonId
    seasonNumber := row.season.map (·.seasonNumber)
    episodeId := c.episodeId
    episodeNumber := if c.episodeId.isSome then row.episode.map (·.episodeNumber) else none
    estimatedSpaceBytes := c.estimatedSpaceBytes <|> row.version.map (·.size) <|>
      row.episode.bind (·.size) <|> row.season.bind (·.size) <|>
        if isMovie then row.movie.bind (·.size) else row.series.bind (·.size)
    createdAt := text.toUtcIsoformat c.createdAt }

/-- `get_candidates` -/
def getCandidates (page : Nat) : PaginatedCandidatesResponse :=
  let (total, pageGroups) := getCandidatePageGroups text db request page
  { items := (pageRows text db request pageGroups).filterMap (candidateEntry text)
    total
    page
    perPage := request.perPage
    totalPages := if total = 0 then 0 else (total + request.perPage - 1) / request.perPage }

end Listing

/-! ## The groups -/

variable {text : ListingText} {db : Tables} {request : CandidateRequest} {rows : List CandidateRow}

/-- The rows of a group. -/
def rowsOf (rows : List CandidateRow) (group : CandidateDisplayGroup) : List CandidateRow :=
  rows.filter fun row => group.candidateIds.contains row.candidate.id

/-- The rows of one key make a group of the dictionary, in their order. -/
theorem get?_groupsByKey (k : GroupKey) :
    ((groupsByKey db request rows).get? k).map (·.candidateIds) =
      (Dict.group (groupKey (seriesWithNestedScope rows)) (·.candidate.id) rows).get? k := by
  refine Dict.map_get?_gatherAll CandidateDisplayGroup.candidateIds _ rows ?_ ?_ k
  · exact fun _ => rfl
  · exact fun _ _ => rfl

theorem candidateIds_of_get? {k : GroupKey} {group : CandidateDisplayGroup}
    (h : (groupsByKey db request rows).get? k = some group) :
    group.candidateIds ≠ [] ∧ group.candidateIds =
      (rows.filter (groupKey (seriesWithNestedScope rows) · = k)).map (·.candidate.id) := by
  have hget : ((groupsByKey db request rows).get? k).map _ = _ := get?_groupsByKey k
  rw [h, Option.map_some] at hget
  have hids := Dict.listAt_group (groupKey (seriesWithNestedScope rows)) (·.candidate.id) rows k
  rw [Dict.listAt, ← hget, Option.getD_some] at hids
  refine ⟨fun hnil => ?_, hids⟩
  have hnone : ∀ row ∈ rows, groupKey (seriesWithNestedScope rows) row ≠ k := by
    intro row hrow hkey
    have hmem : row.candidate.id ∈ group.candidateIds :=
      hids ▸ List.mem_map_of_mem (List.mem_filter.mpr ⟨hrow, decide_eq_true hkey⟩)
    rw [hnil] at hmem
    exact List.not_mem_nil hmem
  rw [(Dict.get?_group_eq_none_iff _ _ rows).mpr hnone] at hget
  cases hget

theorem exists_get?_of_mem {row : CandidateRow} (h : row ∈ rows) :
    ∃ group, (groupsByKey db request rows).get? (groupKey (seriesWithNestedScope rows) row) =
      some group := by
  have hget : ((groupsByKey db request rows).get? _).map _ = _ :=
    get?_groupsByKey (groupKey (seriesWithNestedScope rows) row)
  rw [Dict.get?_group _ _ rows h rfl, Option.map_eq_some_iff] at hget
  exact ⟨_, hget.choose_spec.1⟩

theorem mem_sortedGroups {group : CandidateDisplayGroup}
    (h : group ∈ sortedGroups text db request rows) :
    ∃ k, (groupsByKey db request rows).get? k = some group :=
  Dict.mem_values_iff.mp (List.mem_mergeSort.mp h)

section Groups

variable (hids : (rows.map (·.candidate.id)).Nodup)
include hids

theorem mem_candidateIds_iff {k : GroupKey} {group : CandidateDisplayGroup} {row : CandidateRow}
    (hgroup : (groupsByKey db request rows).get? k = some group) (hrow : row ∈ rows) :
    row.candidate.id ∈ group.candidateIds ↔ groupKey (seriesWithNestedScope rows) row = k := by
  rw [(candidateIds_of_get? hgroup).2]
  constructor
  · intro hmem
    obtain ⟨row', hrow', hid⟩ := List.mem_map.mp hmem
    obtain ⟨hrow', hkey⟩ := List.mem_filter.mp hrow'
    obtain rfl := List.inj_on_of_nodup_map hids hrow' hrow hid
    exact of_decide_eq_true hkey
  · exact fun hkey => List.mem_map_of_mem (List.mem_filter.mpr ⟨hrow, decide_eq_true hkey⟩)

/-- No two of the sorted groups share a row. -/
theorem disjoint_sortedGroups : (sortedGroups text db request rows).Pairwise fun a b =>
    ∀ row ∈ rows, row.candidate.id ∈ a.candidateIds → row.candidate.id ∉ b.candidateIds := by
  have hsymm : ∀ {a b : CandidateDisplayGroup},
      (∀ row ∈ rows, row.candidate.id ∈ a.candidateIds → row.candidate.id ∉ b.candidateIds) →
        ∀ row ∈ rows, row.candidate.id ∈ b.candidateIds → row.candidate.id ∉ a.candidateIds :=
    fun h row hrow hb ha => h row hrow ha hb
  refine ((List.mergeSort_perm _ _).pairwise_iff hsymm).mpr ?_
  rw [Dict.values, List.pairwise_map]
  refine (List.pairwise_map.mp (groupsByKey db request rows).nodup).imp_of_mem ?_
  rintro ⟨k, a⟩ ⟨k', b⟩ ha hb hne row hrow hmem hmem'
  have hk := (mem_candidateIds_iff hids (Dict.get?_eq_some_iff.mpr ha) hrow).mp hmem
  have hk' := (mem_candidateIds_iff hids (Dict.get?_eq_some_iff.mpr hb) hrow).mp hmem'
  exact hne (hk.symm.trans hk')

theorem exists_sortedGroup {row : CandidateRow} (hrow : row ∈ rows) :
    ∃ group ∈ sortedGroups text db request rows, row.candidate.id ∈ group.candidateIds := by
  obtain ⟨group, hgroup⟩ : ∃ group, (groupsByKey db request rows).get? _ = some group :=
    exists_get?_of_mem hrow
  exact ⟨group, List.mem_mergeSort.mpr (Dict.mem_values_iff.mpr ⟨_, hgroup⟩),
    (mem_candidateIds_iff hids hgroup hrow).mpr rfl⟩

end Groups

/-! ## The rows of a page -/

/-- The rows of a group in the order of the page. -/
def sortedRowsOf (text : ListingText) (rows : List CandidateRow) (group : CandidateDisplayGroup) :
    List CandidateRow :=
  (rowsOf rows group).mergeSort fun a b => (compareInGroup text a b).isLE

theorem mem_sortedRowsOf {group : CandidateDisplayGroup} {row : CandidateRow} :
    row ∈ sortedRowsOf text rows group ↔ row ∈ rows ∧ row.candidate.id ∈ group.candidateIds := by
  rw [sortedRowsOf, List.mem_mergeSort, rowsOf, List.mem_filter, List.contains_iff_mem]

instance : Std.TransCmp (compareInGroup text) := by
  unfold compareInGroup
  infer_instance

instance (pageGroups : List CandidateDisplayGroup) :
    Std.TransCmp (compareRows text pageGroups) := by
  unfold compareRows
  infer_instance

theorem pairwise_mergeSort_cmp {α : Type*} (cmp : α → α → Ordering) [Std.TransCmp cmp]
    (l : List α) :
    (l.mergeSort fun a b => (cmp a b).isLE).Pairwise fun a b => (cmp a b).isLE := by
  refine List.pairwise_mergeSort (fun _ _ _ => Std.TransCmp.isLE_trans) (fun a b => ?_) l
  have hswap : cmp b a = (cmp a b).swap := Std.OrientedCmp.eq_swap
  rw [hswap]
  cases cmp a b <;> rfl

section Page

variable {pageGroups : List CandidateDisplayGroup}
  (hdisjoint : pageGroups.Pairwise fun a b => ∀ row ∈ rows,
    row.candidate.id ∈ a.candidateIds → row.candidate.id ∉ b.candidateIds)
include hdisjoint

/-- The place of a row is that of its group. -/
theorem candidateGroupPosition_eq {i : Nat} {hi : i < pageGroups.length} {row : CandidateRow}
    (hrow : row ∈ sortedRowsOf text rows pageGroups[i]) :
    candidateGroupPosition pageGroups row = i := by
  obtain ⟨hrow, hmem⟩ := mem_sortedRowsOf.mp hrow
  have hfind : (pageGroups.findIdx? fun group => group.candidateIds.contains row.candidate.id) =
      some i := by
    refine List.findIdx?_eq_some_iff_getElem.mpr ⟨hi, by simpa using hmem, fun j hj => ?_⟩
    have hlt : j < pageGroups.length := by omega
    simpa using fun h => List.pairwise_iff_getElem.mp hdisjoint j i hlt hi hj row hrow h hmem
  rw [candidateGroupPosition, hfind]

/-- The groups one after the other are in the order of the rows. -/
theorem pairwise_flatMap_sortedRowsOf : (pageGroups.flatMap (sortedRowsOf text rows)).Pairwise
    fun a b => (compareRows text pageGroups a b).isLE := by
  rw [List.pairwise_flatMap]
  constructor
  · intro group hgroup
    obtain ⟨i, hi, rfl⟩ := List.getElem_of_mem hgroup
    refine (pairwise_mergeSort_cmp (compareInGroup text) _).imp_of_mem ?_
    intro a b ha hb hle
    have hposition : candidateGroupPosition pageGroups a = candidateGroupPosition pageGroups b :=
      (candidateGroupPosition_eq hdisjoint ha).trans (candidateGroupPosition_eq hdisjoint hb).symm
    simpa [compareRows, compareLex, compareOn, hposition] using hle
  · refine List.pairwise_iff_getElem.mpr fun i j hi hj hij a ha b hb => ?_
    have hlt : compare (candidateGroupPosition pageGroups a)
        (candidateGroupPosition pageGroups b) = .lt := by
      rw [candidateGroupPosition_eq hdisjoint ha, candidateGroupPosition_eq hdisjoint hb,
        Int.compare_eq_lt]
      exact Int.ofNat_lt.mpr hij
    simp [compareRows, compareLex, compareOn, hlt]

theorem nodup_flatMap_sortedRowsOf (hrows : rows.Nodup) :
    (pageGroups.flatMap (sortedRowsOf text rows)).Nodup := by
  rw [List.nodup_flatMap]
  refine ⟨fun group _ => (List.mergeSort_perm _ _).nodup_iff.mpr (hrows.filter _),
    hdisjoint.imp fun h row ha hb => ?_⟩
  obtain ⟨hrow, hmem⟩ := mem_sortedRowsOf.mp ha
  exact h row hrow hmem (mem_sortedRowsOf.mp hb).2

end Page

theorem pageRows_eq (hids : ((candidateRows text db request).map (·.candidate.id)).Nodup)
    {pageGroups : List CandidateDisplayGroup}
    (hdisjoint : pageGroups.Pairwise fun a b => ∀ row ∈ candidateRows text db request,
      row.candidate.id ∈ a.candidateIds → row.candidate.id ∉ b.candidateIds) :
    pageRows text db request pageGroups =
      pageGroups.flatMap (sortedRowsOf text (candidateRows text db request)) := by
  rw [pageRows]
  split
  case isTrue hempty => rw [List.isEmpty_iff.mp hempty, List.flatMap_nil]
  case isFalse =>
    have hperm : ((candidateRows text db request).filter fun row =>
        (pageGroups.flatMap (·.candidateIds)).contains row.candidate.id).Perm
        (pageGroups.flatMap (sortedRowsOf text (candidateRows text db request))) := by
      refine (List.perm_ext_iff_of_nodup (hids.of_map.filter _)
        (nodup_flatMap_sortedRowsOf hdisjoint hids.of_map)).mpr fun row => ?_
      simp only [List.mem_filter, List.contains_iff_mem, List.mem_flatMap, mem_sortedRowsOf]
      tauto
    refine List.Perm.eq_of_pairwise ?_ (pairwise_mergeSort_cmp _ _)
      (pairwise_flatMap_sortedRowsOf hdisjoint) ((List.mergeSort_perm _ _).trans hperm)
    intro a b ha hb hab hba
    have heq := Std.OrientedCmp.isLE_antisymm hab hba
    have hid : a.candidate.id = b.candidate.id := by
      simp only [compareRows, compareInGroup, compareLex, compareOn, Ordering.then_eq_eq,
        Nat.compare_eq_eq] at heq
      exact heq.2.2.2.2.2
    have hrow : a ∈ candidateRows text db request :=
      (List.mem_filter.mp (List.mem_mergeSort.mp ha)).1
    obtain ⟨group, -, hb⟩ := List.mem_flatMap.mp hb
    exact List.inj_on_of_nodup_map hids hrow (mem_sortedRowsOf.mp hb).1 hid

/-! ## Display groups -/

/-- The candidates of one display group: the versions of a movie, and the candidates of a
series of which a season or an episode is listed. -/
def Together (rows : List CandidateRow) (a b : CandidateRow) : Prop :=
  a = b ∨
    (a.candidate.mediaType = .movie ∧ b.candidate.mediaType = .movie ∧
      a.candidate.movieVersionId.isSome ∧ b.candidate.movieVersionId.isSome ∧
        ∃ movieId, a.candidate.movieId = some movieId ∧ b.candidate.movieId = some movieId) ∨
    (a.candidate.mediaType = .series ∧ b.candidate.mediaType = .series ∧
      ∃ seriesId, a.candidate.seriesId = some seriesId ∧ b.candidate.seriesId = some seriesId ∧
        ∃ row ∈ rows, row.candidate.seriesId = some seriesId ∧
          (row.candidate.seasonId.isSome ∨ row.candidate.episodeId.isSome))

/-- The groups partition the rows, and list whole series before seasons before episodes. -/
structure DisplayGroups (rows : List CandidateRow) (groups : List (List CandidateRow)) : Prop where
  perm : groups.flatten.Perm rows
  nonempty : ∀ group ∈ groups, group ≠ []
  together : ∀ group ∈ groups, ∀ a ∈ group, ∀ b ∈ rows, b ∈ group ↔ Together rows a b
  scopes : ∀ group ∈ groups, group.Pairwise fun a b => scopeRank a ≤ scopeRank b

theorem groupKey_eq_movieVersions_iff {nested : List Nat} {row : CandidateRow} {movieId : Nat} :
    groupKey nested row = .movieVersions movieId ↔ row.candidate.mediaType = .movie ∧
      row.candidate.movieVersionId.isSome ∧ row.candidate.movieId = some movieId := by
  unfold groupKey
  split
  case h_1 => simp [*]
  case h_2 => split <;> simp [*]
  case h_3 hnone _ =>
    refine iff_of_false (by simp) ?_
    rintro ⟨htype, hversion, hmovie⟩
    obtain ⟨version, hversion⟩ := Option.isSome_iff_exists.mp hversion
    exact hnone version movieId htype hversion hmovie

theorem groupKey_eq_seriesSeasons_iff {nested : List Nat} {row : CandidateRow} {seriesId : Nat} :
    groupKey nested row = .seriesSeasons seriesId ↔ row.candidate.mediaType = .series ∧
      row.candidate.seriesId = some seriesId ∧ nested.contains seriesId := by
  unfold groupKey
  split
  case h_1 => simp [*]
  case h_2 htype hseries =>
    rw [htype, hseries, Option.some.injEq]
    split
    case isTrue hnested =>
      simp only [GroupKey.seriesSeasons.injEq, true_and]
      exact ⟨fun h => ⟨h, h ▸ hnested⟩, And.left⟩
    case isFalse hnested =>
      simp only [reduceCtorEq, true_and, false_iff, not_and]
      exact fun h => h ▸ hnested
  case h_3 _ hnone =>
    refine iff_of_false (by simp) ?_
    rintro ⟨htype, hseries, -⟩
    exact hnone seriesId htype hseries

theorem groupKey_eq_flat {nested : List Nat} {row : CandidateRow} {id : Nat}
    (h : groupKey nested row = .flat id) : id = row.candidate.id := by
  unfold groupKey at h
  split at h
  · cases h
  · split at h <;> cases h
    rfl
  · cases h
    rfl

theorem groupKey_eq_iff {a b : CandidateRow} (hids : (rows.map (·.candidate.id)).Nodup)
    (ha : a ∈ rows) (hb : b ∈ rows) :
    groupKey (seriesWithNestedScope rows) a = groupKey (seriesWithNestedScope rows) b ↔
      Together rows a b := by
  have hnested : ∀ seriesId, (seriesWithNestedScope rows).contains seriesId ↔
      ∃ row ∈ rows, row.candidate.seriesId = some seriesId ∧
        (row.candidate.seasonId.isSome ∨ row.candidate.episodeId.isSome) := by
    intro seriesId
    simp only [seriesWithNestedScope, List.contains_iff_mem, List.mem_filterMap, List.mem_filter,
      Bool.or_eq_true]
    exact exists_congr fun row => by tauto
  constructor
  · intro hkey
    cases hkind : groupKey (seriesWithNestedScope rows) b with
    | movieVersions movieId =>
      obtain ⟨htype, hversion, hmovie⟩ := groupKey_eq_movieVersions_iff.mp (hkey.trans hkind)
      obtain ⟨htype', hversion', hmovie'⟩ := groupKey_eq_movieVersions_iff.mp hkind
      exact .inr (.inl ⟨htype, htype', hversion, hversion', movieId, hmovie, hmovie'⟩)
    | seriesSeasons seriesId =>
      obtain ⟨htype, hseries, hscope⟩ := groupKey_eq_seriesSeasons_iff.mp (hkey.trans hkind)
      obtain ⟨htype', hseries', -⟩ := groupKey_eq_seriesSeasons_iff.mp hkind
      exact .inr (.inr ⟨htype, htype', seriesId, hseries, hseries', (hnested seriesId).mp hscope⟩)
    | flat id =>
      have hid := (groupKey_eq_flat (hkey.trans hkind)).symm.trans (groupKey_eq_flat hkind)
      exact .inl (List.inj_on_of_nodup_map hids ha hb hid)
  · rintro (rfl | ⟨htype, htype', hversion, hversion', movieId, hmovie, hmovie'⟩ |
      ⟨htype, htype', seriesId, hseries, hseries', hscope⟩)
    · rfl
    · rw [groupKey_eq_movieVersions_iff.mpr ⟨htype, hversion, hmovie⟩,
        groupKey_eq_movieVersions_iff.mpr ⟨htype', hversion', hmovie'⟩]
    · rw [groupKey_eq_seriesSeasons_iff.mpr ⟨htype, hseries, (hnested seriesId).mpr hscope⟩,
        groupKey_eq_seriesSeasons_iff.mpr ⟨htype', hseries', (hnested seriesId).mpr hscope⟩]

theorem displayGroups (hids : (rows.map (·.candidate.id)).Nodup) :
    DisplayGroups rows ((sortedGroups text db request rows).map (sortedRowsOf text rows)) where
  perm := by
    rw [← List.flatMap_def]
    refine (List.perm_ext_iff_of_nodup
      (nodup_flatMap_sortedRowsOf (disjoint_sortedGroups hids) hids.of_map) hids.of_map).mpr ?_
    intro row
    simp only [List.mem_flatMap, mem_sortedRowsOf]
    exact ⟨fun ⟨_, _, hrow, _⟩ => hrow, fun hrow =>
      (exists_sortedGroup hids hrow).imp fun _ h => ⟨h.1, hrow, h.2⟩⟩
  nonempty _ hmap := by
    obtain ⟨group, hgroup, rfl⟩ := List.mem_map.mp hmap
    obtain ⟨k, hget⟩ := mem_sortedGroups hgroup
    obtain ⟨hne, heq⟩ := candidateIds_of_get? hget
    obtain ⟨id, hid⟩ := List.exists_mem_of_ne_nil _ hne
    obtain ⟨row, hrow, rfl⟩ := List.mem_map.mp (heq ▸ hid)
    exact List.ne_nil_of_mem (mem_sortedRowsOf.mpr ⟨(List.mem_filter.mp hrow).1, hid⟩)
  together _ hmap a ha b hb := by
    obtain ⟨group, hgroup, rfl⟩ := List.mem_map.mp hmap
    obtain ⟨k, hget⟩ := mem_sortedGroups hgroup
    obtain ⟨ha, hmem⟩ := mem_sortedRowsOf.mp ha
    rw [mem_sortedRowsOf, mem_candidateIds_iff hids hget hb, ← groupKey_eq_iff hids ha hb,
      (mem_candidateIds_iff hids hget ha).mp hmem]
    exact ⟨fun h => h.2.symm, fun h => ⟨hb, h.symm⟩⟩
  scopes group hgroup := by
    obtain ⟨group, -, rfl⟩ := List.mem_map.mp hgroup
    refine (pairwise_mergeSort_cmp (compareInGroup text) _).imp fun {a b} hle => ?_
    by_contra hlt
    have hgt : compare (scopeRank a) (scopeRank b) = .gt :=
      Nat.compare_eq_gt.mpr (Nat.lt_of_not_le hlt)
    simp [compareInGroup, compareLex, compareOn, hgt] at hle

/-- The movie or the series of the candidate is in the table. -/
def mediaExists (db : Tables) (c : ReclaimCandidate) : Bool :=
  match c.mediaType with
  | .movie => (c.movieId.bind db.findMovie).isSome
  | .series => (c.seriesId.bind db.findSeries).isSome

theorem map_candidateEntry (c : ReclaimCandidate) :
    (candidateEntry text (candidateRow db c)).map (·.id) =
      if mediaExists db c then some c.id else none := by
  rw [candidateEntry, mediaExists, rowMediaId, rowTitle, candidateRow]
  cases c.mediaType with
  | movie =>
    cases hid : c.movieId with
    | none => simp
    | some id => cases hmovie : db.findMovie id <;> simp [hmovie]
  | series =>
    cases hid : c.seriesId with
    | none => simp
    | some id => cases hseries : db.findSeries id <;> simp [hseries]

/-- What the pages of one request make of the display groups. -/
structure PagesOf (text : ListingText) (db : Tables) (request : CandidateRequest)
    (groups : List (List CandidateRow)) : Prop where
  display : DisplayGroups (candidateRows text db request) groups
  total : ∀ page, (getCandidates text db request page).total = groups.length
  totalPages : ∀ page, (getCandidates text db request page).totalPages =
    totalPages groups.length request.perPage
  items : ∀ page, (getCandidates text db request page).items =
    (pageOf request.perPage page groups).flatten.filterMap (candidateEntry text)

theorem pagesOf_sortedGroups (hids : (db.candidates.map ReclaimCandidate.id).Nodup) :
    ∃ groups, PagesOf text db request groups := by
  have hrows : ((candidateRows text db request).map (·.candidate.id)).Nodup := by
    refine List.Nodup.sublist (List.filter_sublist.map _) ?_
    rwa [List.map_map]
  refine ⟨(sortedGroups text db request (candidateRows text db request)).map
    (sortedRowsOf text _), displayGroups hrows, fun page => ?_, fun page => ?_, fun page => ?_⟩
  · exact (List.length_map _).symm
  · rw [List.length_map]
    change (if _ = 0 then 0 else totalPages _ _) = _
    split
    case isTrue hzero =>
      rw [hzero, totalPages, Nat.zero_add]
      cases request.perPage with
      | zero => rfl
      | succ n => exact (Nat.div_eq_of_lt (Nat.lt_succ_self n)).symm
    case isFalse => rfl
  · have hdisjoint := (disjoint_sortedGroups hrows : (sortedGroups text db request _).Pairwise
      _).sublist ((List.take_sublist request.perPage _).trans
        (List.drop_sublist ((page - 1) * request.perPage) _))
    change (pageRows text db request (pageOf request.perPage page _)).filterMap _ = _
    rw [pageOf, pageRows_eq hrows hdisjoint, List.flatMap_def, List.map_take, List.map_drop]
    rfl

/-- The entries of the rows are those of the candidates that pass the filter and whose media
is there. -/
theorem filterMap_candidateRows : ((candidateRows text db request).filterMap fun row =>
      (candidateEntry text row).map (·.id)) =
    (db.candidates.filter fun c => applyCandidateFilters text request (candidateRow db c) &&
      mediaExists db c).map (·.id) := by
  rw [candidateRows]
  induction db.candidates with
  | nil => rfl
  | cons c candidates ih =>
    rw [List.map_cons, List.filter_cons, List.filter_cons]
    cases applyCandidateFilters text request (candidateRow db c) with
    | false => exact ih
    | true =>
      rw [if_pos rfl, List.filterMap_cons, map_candidateEntry]
      cases mediaExists db c with
      | false => exact ih
      | true => exact congrArg (c.id :: ·) ih

/-- The pages together list each candidate that passes the filter and whose media is there
once, in display groups that no page splits. -/
theorem getCandidates_partition (hids : (db.candidates.map ReclaimCandidate.id).Nodup)
    (hper : 0 < request.perPage) :
    ∃ groups, PagesOf text db request groups ∧
      (((List.range (getCandidates text db request 1).totalPages).flatMap fun i =>
        (getCandidates text db request (i + 1)).items).map (·.id)).Perm
          ((db.candidates.filter fun c => applyCandidateFilters text request (candidateRow db c) &&
            mediaExists db c).map (·.id)) := by
  obtain ⟨groups, hpages⟩ : ∃ groups, PagesOf text db request groups :=
    pagesOf_sortedGroups hids
  refine ⟨groups, hpages, ?_⟩
  have hconcat : ∀ l : List Nat,
      (l.flatMap fun i => (getCandidates text db request (i + 1)).items) =
      (l.flatMap fun i => pageOf request.perPage (i + 1) groups).flatten.filterMap
        (candidateEntry text) := by
    intro l
    induction l with
    | nil => rfl
    | cons i l ih =>
      rw [List.flatMap_cons, ih, hpages.items, List.flatMap_cons, List.flatten_append,
        List.filterMap_append]
  rw [hconcat, hpages.totalPages, flatMap_pageOf hper, List.map_filterMap,
    ← filterMap_candidateRows]
  exact hpages.display.perm.filterMap _

/-- A season, its series and the versions of a movie, one group to a page. -/
theorem getCandidates_partition_show :
    ∃ groups, PagesOf ⟨id, fun _ => "", fun _ _ => true⟩
      { candidates := [
          { id := 1, mediaType := .series, seriesId := some 1, seasonId := some 7 },
          { id := 2, mediaType := .movie, movieId := some 1, movieVersionId := some 4 },
          { id := 3, mediaType := .series, seriesId := some 1 },
          { id := 4, mediaType := .movie, movieId := some 1, movieVersionId := some 5 }] }
      { search := some "x", perPage := 1 } groups :=
  (getCandidates_partition (by decide) (by decide)).imp fun _ h => h.1

end MediaMasterr.Media
