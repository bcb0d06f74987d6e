import MediaMasterr.Candidates.AutoDelete
import MediaMasterr.Foundations.Dict
import MediaMasterr.Media.DecisionEngine

/-! # Items with status

`get_movies`, `get_series`, `get_series_seasons` and `get_series_episodes`: the
status of every item, from the candidates, protections and pending requests that
the endpoint collects. -/

namespace MediaMasterr.Media

open MediaMasterr.Foundations MediaMasterr.Database MediaMasterr.Candidates

/-- What an item is about, with the rows above it. -/
inductive ItemTarget where
  | movie (movieId : Nat)
  | series (seriesId : Nat)
  | season (seriesId seasonId : Nat)
  | episode (seriesId seasonId episodeId : Nat)
  deriving DecidableEq, Repr

structure MediaStatusInfo where
  isCandidate : Bool := false
  candidateId : Option Nat := none
  candidateReason : Option String := none
  candidateSpaceBytes : Option Nat := none
  candidateCreatedAt : Option Nat := none
  candidateEligibleAt : Option Int := none
  candidateDelayDays : Option Int := none
  isProtected : Bool := false
  protectedReason : Option String := none
  protectedPermanent : Bool := true
  protectedCreatedAt : Option Nat := none
  protectedExpiresAt : Option Nat := none
  protectedSource : Option String := none
  hasPendingRequest : Bool := false
  requestId : Option Nat := none
  requestStatus : Option RequestStatus := none
  requestReason : Option String := none
  hasPendingDeleteRequest : Bool := false
  deleteRequestId : Option Nat := none
  deleteRequestStatus : Option RequestStatus := none
  deleteRequestReason : Option String := none
  childCandidateCount : Nat := 0
  childCandidateSpaceBytes : Option Nat := none
  decision : DecisionInfo
  deriving DecidableEq, Repr

structure StatusItem where
  target : ItemTarget
  status : MediaStatusInfo
  deriving DecidableEq, Repr

/-- The columns that the decision reads from the row of an item. -/
structure ViewColumns where
  size : Option Nat := none
  viewCount : Nat := 0
  lastViewedAt : Option Nat := none
  deriving DecidableEq, Repr

/-- The columns that the tables leave out: the reason of a candidate, and the views of movies and
series. -/
structure OtherColumns where
  candidateReason : ReclaimCandidate → String := fun _ => ""
  movieViews : Movie → ViewColumns := fun _ => {}
  seriesViews : Series → ViewColumns := fun _ => {}

/-- The rows that an endpoint has found for an item. -/
structure FoundRows where
  candidate : Option ReclaimCandidate
  protection : Option ProtectedMedia
  request : Option ProtectionRequest
  deleteRequest : Option DeleteRequest
  childCandidateCount : Nat := 0
  childCandidateSpaceBytes : Option Nat := none

section Status

variable (db : Tables) (columns : OtherColumns) (now : Nat) (mediaType : MediaType)

/-- `_candidate_policy_values`: the deadline under the delays of the endpoint's media type. -/
def candidatePolicy (candidate : ReclaimCandidate) : AutoDeletePolicy :=
  resolveAutoDeletePolicy db now { candidate with mediaType := mediaType }

/-- The status that every endpoint builds from the rows of an item. -/
def mediaStatus (found : FoundRows) (views : ViewColumns) : MediaStatusInfo :=
  let policy := found.candidate.map (candidatePolicy db now mediaType)
  let signals : DecisionSignals :=
    { mediaType := mediaType
      sizeBytes := views.size
      viewCount := views.viewCount
      lastViewedAt := views.lastViewedAt
      isCandidate := found.candidate.isSome
      candidateReason := found.candidate.map columns.candidateReason
      candidateSpaceBytes := found.candidate.bind (·.estimatedSpaceBytes)
      candidateEligibleAt := policy.map (·.eligibleAt)
      isProtected := found.protection.isSome
      protectedReason := found.protection.bind (·.reason)
      protectedSource := found.protection.map (·.source)
      hasPendingRequest := found.request.isSome
      requestReason := found.request.bind (·.reason)
      hasPendingDeleteRequest := found.deleteRequest.isSome
      deleteRequestReason := found.deleteRequest.bind (·.reason)
      childCandidateCount := found.childCandidateCount
      childCandidateSpaceBytes := found.childCandidateSpaceBytes }
  { isCandidate := found.candidate.isSome
    candidateId := found.candidate.map (·.id)
    candidateReason := found.candidate.map columns.candidateReason
    candidateSpaceBytes := found.candidate.bind (·.estimatedSpaceBytes)
    candidateCreatedAt := found.candidate.map (·.createdAt)
    candidateEligibleAt := policy.map (·.eligibleAt)
    candidateDelayDays := policy.map (·.delayDays)
    isProtected := found.protection.isSome
    protectedReason := found.protection.bind (·.reason)
    protectedPermanent := (found.protection.map (·.permanent)).getD true
    protectedCreatedAt := found.protection.map (·.createdAt)
    protectedExpiresAt := found.protection.bind (·.expiresAt)
    protectedSource := found.protection.map (·.source)
    hasPendingRequest := found.request.isSome
    requestId := found.request.map (·.id)
    requestStatus := found.request.map (·.status)
    requestReason := found.request.bind (·.reason)
    hasPendingDeleteRequest := found.deleteRequest.isSome
    deleteRequestId := found.deleteRequest.map (·.id)
    deleteRequestStatus := found.deleteRequest.map (·.status)
    deleteRequestReason := found.deleteRequest.bind (·.reason)
    childCandidateCount := found.childCandidateCount
    childCandidateSpaceBytes := found.childCandidateSpaceBytes
    decision := evaluate signals now }

end Status

/-- `{row.key: row for row in rows}`, for the rows in scope with one of the ids. -/
def rowsById {α : Type} (key : α → Option Nat) (inScope : α → Bool) (ids : List Nat)
    (rows : List α) :
    Dict Nat α :=
  Dict.build key id (rows.filter fun row => (key row).any (· ∈ ids) && inScope row)

/-! ## Movies -/

section Endpoints

variable (db : Tables) (columns : OtherColumns) (now : Nat)

/-- The protections that count. -/
def activeProtections : List ProtectedMedia := db.protectedMedia.filter (·.isActive now)

def pendingRequests : List ProtectionRequest := db.protectionRequests.filter (·.status = .pending)

def pendingDeleteRequests : List DeleteRequest := db.deleteRequests.filter (·.status = .pending)

/-- The movies that `get_movies` lists without filters. -/
def libraryMovies : List Movie := db.movies.filter (·.removedAt.isNone)

/-- `get_movies`, for the movies of a page. -/
def getMovies (page : List Movie) : List StatusItem :=
  let movieIds := page.map (·.id)
  let anyScope {α : Type} (_ : α) : Bool := true
  let candidates := rowsById ReclaimCandidate.movieId anyScope movieIds db.candidates
  let protections := rowsById ProtectedMedia.movieId anyScope movieIds (activeProtections db now)
  let requests := rowsById ProtectionRequest.movieId anyScope movieIds (pendingRequests db)
  let deleteRequests := rowsById DeleteRequest.movieId anyScope movieIds (pendingDeleteRequests db)
  page.map fun movie =>
    { target := .movie movie.id
      status := mediaStatus db columns now .movie
        { candidate := candidates.get? movie.id
          protection := protections.get? movie.id
          request := requests.get? movie.id
          deleteRequest := deleteRequests.get? movie.id }
        { columns.movieViews movie with size := movie.size } }

/-! ## Series -/

/-- The series that `get_series` lists without filters. -/
def librarySeries : List Series := db.series.filter (·.removedAt.isNone)

/-- The number and the space of the candidates below a series. -/
def childCandidateStats (seriesId : Nat) : Nat × Nat :=
  let children := db.candidates.filter fun c =>
    c.seriesId = some seriesId ∧ (c.seasonId.isSome ∨ c.episodeId.isSome)
  (children.length, (children.map fun c => c.estimatedSpaceBytes.getD 0).sum)

/-- `get_series`, for the series of a page. -/
def getSeries (page : List Series) : List StatusItem :=
  let seriesIds := page.map (·.id)
  -- the candidates are not tested for an episode
  let candidates := rowsById ReclaimCandidate.seriesId (·.seasonId.isNone) seriesIds db.candidates
  let protections := rowsById ProtectedMedia.seriesId
    (fun p => isSeriesScope p.seasonId p.episodeId)
    seriesIds (activeProtections db now)
  let requests := rowsById ProtectionRequest.seriesId
    (fun r => isSeriesScope r.seasonId r.episodeId)
    seriesIds (pendingRequests db)
  let deleteRequests :=
    rowsById DeleteRequest.seriesId (fun r => isSeriesScope r.seasonId r.episodeId)
    seriesIds (pendingDeleteRequests db)
  page.map fun series =>
    { target := .series series.id
      status := mediaStatus db columns now .series
        { candidate := candidates.get? series.id
          protection := protections.get? series.id
          request := requests.get? series.id
          deleteRequest := deleteRequests.get? series.id
          childCandidateCount := (childCandidateStats db series.id).1
          childCandidateSpaceBytes := some (childCandidateStats db series.id).2 }
        { columns.seriesViews series with size := series.size } }

/-! ## Seasons and episodes -/

section ByScope

variable {α : Type} (target : α → MediaTarget) (rows : List α)

/-- The first row for the whole series. -/
def wholeSeriesRow : Option α :=
  rows.find? fun row => isSeriesScope (target row).seasonId (target row).episodeId

/-- The rows for a season as a whole, by season. -/
def seasonRows : Dict Nat α :=
  Dict.build (fun row => (target row).seasonId) id
    (rows.filter fun row => isSeasonScope (target row).seasonId (target row).episodeId)

/-- The rows for an episode, by episode. -/
def episodeRows : Dict Nat α :=
  Dict.build (fun row => (target row).episodeId) id
    (rows.filter fun row => isEpisodeScope (target row).episodeId)

/-- The row that an item of a season takes: its own, or that of the series. -/
def rowForSeason (seasonId : Nat) : Option α :=
  ((seasonRows target rows).get? seasonId).or (wholeSeriesRow target rows)

/-- The row that an item of an episode takes: its own, that of its season, or that of the series. -/
def rowForEpisode (seasonId episodeId : Nat) : Option α :=
  ((episodeRows target rows).get? episodeId).or (rowForSeason target rows seasonId)

end ByScope

def seriesProtections (seriesId : Nat) : List ProtectedMedia :=
  (activeProtections db now).filter (·.seriesId = some seriesId)

def seriesRequests (seriesId : Nat) : List ProtectionRequest :=
  (pendingRequests db).filter (·.seriesId = some seriesId)

def seriesDeleteRequests (seriesId : Nat) : List DeleteRequest :=
  (pendingDeleteRequests db).filter (·.seriesId = some seriesId)

/-- The series is in the library; otherwise the endpoint answers 404. -/
def seriesListed (seriesId : Nat) : Bool :=
  db.series.any fun s => s.id = seriesId ∧ s.removedAt.isNone

/-- `get_series_seasons`. -/
def getSeriesSeasons (seriesId : Nat) : Except String (List StatusItem) :=
  if !seriesListed db seriesId then .error "Series not found"
  else
    let seasons := (db.seasons.filter (·.seriesId = seriesId)).mergeSort fun a b =>
      a.seasonNumber ≤ b.seasonNumber
    let seasonIds := seasons.map (·.id)
    let candidates := rowsById ReclaimCandidate.seasonId
      (·.episodeId.isNone) seasonIds db.candidates
    .ok <| seasons.map fun season =>
      { target := .season seriesId season.id
        status := mediaStatus db columns now .series
          { candidate := candidates.get? season.id
            protection :=
              rowForSeason ProtectedMedia.target (seriesProtections db now seriesId) season.id
            request := rowForSeason ProtectionRequest.target (seriesRequests db seriesId) season.id
            deleteRequest :=
              rowForSeason DeleteRequest.target (seriesDeleteRequests db seriesId) season.id }
          { size := season.size
            viewCount := season.viewCount.getD 0
            lastViewedAt := season.lastViewedAt } }

/-- `get_series_episodes`. -/
def getSeriesEpisodes (seriesId : Nat) : Except String (List StatusItem) :=
  if !seriesListed db seriesId then .error "Series not found"
  else
    let seasons := db.seasons.filter (·.seriesId = seriesId)
    let rows := (seasons.flatMap fun season =>
      (db.episodes.filter (·.seasonId = season.id)).map fun episode => (episode, season)).mergeSort
        fun a b => a.2.seasonNumber < b.2.seasonNumber ||
          (a.2.seasonNumber == b.2.seasonNumber && a.1.episodeNumber ≤ b.1.episodeNumber)
    let episodeIds := rows.map (·.1.id)
    let candidates := rowsById ReclaimCandidate.episodeId (fun _ => true) episodeIds db.candidates
    .ok <| rows.map fun (episode, season) =>
      { target := .episode seriesId season.id episode.id
        status := mediaStatus db columns now .series
          { candidate := candidates.get? episode.id
            protection := rowForEpisode ProtectedMedia.target (seriesProtections db now seriesId)
              season.id episode.id
            request := rowForEpisode ProtectionRequest.target (seriesRequests db seriesId)
              season.id episode.id
            deleteRequest := rowForEpisode DeleteRequest.target (seriesDeleteRequests db seriesId)
              season.id episode.id }
          { size := episode.size
            viewCount := episode.viewCount
            lastViewedAt := episode.lastViewedAt } }

end Endpoints

end MediaMasterr.Media
