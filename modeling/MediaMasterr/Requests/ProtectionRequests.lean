import MediaMasterr.Requests.Handlers
import MediaMasterr.Requests.Scopes

/-! # Protections that are granted

The three ways to grant a protection: a request that is approved at once, the
approval of a request, and an entry of a manager. Each withdraws candidates of its
own choice. -/

namespace MediaMasterr.Requests

open MediaMasterr.Database MediaMasterr.Foundations

section

variable (db : Tables) (user : User) (data : CreateProtectionRequest) (now : Nat)

/-! ## The media -/

/-- `media`: the row of the movie or the series is in the library. -/
def mediaFound : Bool :=
  match data.mediaType with
  | .movie => (findMovieInLibrary db data.mediaId).isSome
  | .series => (findSeriesInLibrary db data.mediaId).isSome

def mediaNotFound : ApiError :=
  match data.mediaType with
  | .movie => .http 404 "Movie not found"
  | .series => .http 404 "Series not found"

/-- `_resolve_series_scope` of protection requests: an episode may come with its season. -/
def resolveRequestedScope (mediaId : Nat) (seasonId episodeId : Option Nat) : Except ApiError SeriesScope :=
  match episodeId with
  | some episodeId =>
    match findEpisodeOfSeries db mediaId episodeId with
    | none => .error (.http 404 "Episode not found")
    | some (season, episode) =>
      if seasonId.all (season.id = ·) then .ok { season := season, episode := episode }
      else .error (.http 400 "season_id does not match episode_id")
  | none => resolveSeriesScope db mediaId seasonId none

/-- The media of a protection request. -/
def protectionScope : Except ApiError SeriesScope := do
  check (mediaFound db data) (mediaNotFound data)
  let scope ←
    if data.seasonId.isSome || data.episodeId.isSome then do
      check (data.mediaType = .series) (.http 400 "season_id and episode_id are only valid for series")
      resolveRequestedScope db data.mediaId data.seasonId data.episodeId
    else pure {}
  if data.movieVersionId.isSome then do
    check (data.mediaType = .movie) (.http 400 "movie_version_id is only valid for movies")
    check (∀ versionId ∈ data.movieVersionId, (findVersionOfMovie db data.mediaId versionId).isSome)
      (.http 404 "Movie version not found")
  return scope

/-- The media of a protection entry. -/
def entryScope : Except ApiError SeriesScope := do
  let scope ← match data.mediaType with
    | .movie => do
      check (∀ versionId ∈ data.movieVersionId, (findVersionOfMovie db data.mediaId versionId).isSome)
        (.http 404 "Movie version not found")
      check (data.seasonId = none ∧ data.episodeId = none)
        (.http 400 "season_id and episode_id are only valid for series")
      pure {}
    | .series => do
      check (data.movieVersionId = none) (.http 400 "movie_version_id is only valid for movies")
      resolveSeriesScope db data.mediaId data.seasonId data.episodeId
  check (mediaFound db data) (mediaNotFound data)
  return scope

/-! ## Queries -/

variable (target : MediaTarget) (scope : SeriesScope)

/-- The columns of a row lie in the same movie or movie version, or in the same part of the series. -/
def matchesTarget (clause : Option Nat → Option Nat → MediaTarget → Bool) (row : MediaTarget) : Bool :=
  row.mediaType = target.mediaType && match target.mediaType with
    | .movie => row.movieId = target.movieId ∧ row.movieVersionId = target.movieVersionId
    | .series => row.seriesId = target.seriesId ∧ clause target.seasonId target.episodeId row

/-- `_series_scope_exact_clause`. -/
def seriesScopeExactClause (seasonId episodeId : Option Nat) (row : MediaTarget) : Bool :=
  if episodeId.isSome then row.episodeId = episodeId
  else if seasonId.isSome then row.seasonId = seasonId ∧ row.episodeId = none
  else row.seasonId = none ∧ row.episodeId = none

/-- `_series_scope_covered_candidate_clause`. -/
def seriesScopeCoveredCandidateClause (seasonId episodeId : Option Nat) (row : MediaTarget) : Bool :=
  if episodeId.isSome then row.episodeId = episodeId
  else if seasonId.isSome then row.seasonId = seasonId
  else true

/-- The protections that a new one would repeat. -/
def alreadyProtected : List ProtectedMedia :=
  db.protectedMedia.filter fun p => matchesTarget target seriesScopeOverlapClause p.target

/-- The pending requests of the user for the same media. -/
def alreadyRequested : List ProtectionRequest :=
  db.protectionRequests.filter fun r => (r.requestedByUserId = user.id ∧ r.status = .pending : Bool) &&
    matchesTarget target seriesScopeOverlapClause r.target

/-- `candidate_query`. -/
def exactCandidates : List ReclaimCandidate :=
  db.candidates.filter fun c => matchesTarget target seriesScopeExactClause c.target

/-! ## The handlers -/

/-- The end of a protection of so many days. -/
def expiryOf (durationDays : Option Int) : Option Nat := durationDays.map fun days => now + days.toNat * 86400

def protectionTargetScope : String :=
  match data.mediaType with
  | .movie => if data.movieVersionId.isSome then "movie_version" else "movie"
  | .series => if scope.episode.isSome then "episode" else if scope.season.isSome then "season" else "series"

/-- The row of a new protection request. -/
def newProtectionRequest (candidate : Option ReclaimCandidate) : ProtectionRequest where
  id := Write.nextId ProtectionRequest.id db.protectionRequests
  mediaType := data.mediaType
  requestedByUserId := user.id
  reason := data.reason
  movieId := target.movieId
  movieVersionId := target.movieVersionId
  seriesId := target.seriesId
  seasonId := target.seasonId
  episodeId := target.episodeId
  candidateId := if user.autoApprove then none else candidate.map ReclaimCandidate.id
  status := if user.autoApprove then .approved else .pending
  requestedExpiresAt := expiryOf now data.durationDays
  targetScope := some (protectionTargetScope data scope)
  seasonNumberSnapshot := scope.season.map Season.seasonNumber
  episodeNumberSnapshot := scope.episode.map Episode.episodeNumber
  episodeNameSnapshot := scope.episode.bind Episode.name
  reviewedByUserId := if user.autoApprove then some user.id else none
  reviewedAt := if user.autoApprove then some now else none

/-- The row of a new protection. -/
def newProtection : ProtectedMedia where
  id := Write.nextId ProtectedMedia.id db.protectedMedia
  mediaType := data.mediaType
  protectedByUserId := some user.id
  movieId := target.movieId
  movieVersionId := target.movieVersionId
  seriesId := target.seriesId
  seasonId := target.seasonId
  episodeId := target.episodeId
  reason := data.reason
  permanent := data.durationDays.isNone
  expiresAt := expiryOf now data.durationDays
  createdAt := now

/-- The candidates that remain behind an automatic approval. -/
def candidatesAfterApproval (candidate : Option ReclaimCandidate) : List ReclaimCandidate :=
  db.candidates.filter fun c =>
    match target.mediaType with
    | .movie => ∀ found ∈ candidate, c.id ≠ found.id
    | .series => ¬(c.mediaType = .series ∧ c.seriesId = target.seriesId ∧
        seriesScopeCoveredCandidateClause target.seasonId target.episodeId c.target)

/-- `create_protection_request`. -/
def createProtectionRequest : Except ApiError Tables := do
  check user.request (.http 403 "Request permission required")
  let scope ← protectionScope db data
  let target := data.target scope
  let protection ← scalarOneOrNone (alreadyProtected db target)
  check (protection = none) (.http 400 "This media is already protected from deletion")
  let existing ← scalarOneOrNone (alreadyRequested db user target)
  check (existing = none) (.http 400 "You already have a pending request for this media")
  let candidate ← scalarOneOrNone (exactCandidates db target)
  check (∀ days ∈ data.durationDays, 0 < days) (.http 400 "Duration must be a positive number of days")
  let requested := { db with
    protectionRequests := db.protectionRequests ++ [newProtectionRequest db user data now target scope candidate] }
  if user.autoApprove then
    return { requested with
      protectedMedia := db.protectedMedia ++ [newProtection db user data now target]
      candidates := candidatesAfterApproval db target candidate }
  else return requested

/-- `create_protection_entry`. -/
def createProtectionEntry : Except ApiError Tables := do
  check user.manageProtection (.http 403 "Manage protection permission required")
  check (∀ days ∈ data.durationDays, 0 < days) (.http 400 "Duration must be a positive number of days")
  let scope ← entryScope db data
  let target := data.target scope
  let existing ← scalarOneOrNone ((alreadyProtected db target).filter (·.source = "manual"))
  check (existing = none) (.http 400 "This media is already protected")
  return { db with protectedMedia := db.protectedMedia ++ [newProtection db user data now target] }

/-- The call that approves a protection request. -/
def approveRequest (requestId : Nat) (review : Review) (grant : Grant) : Call :=
  ⟨.protection, requestId, .approve review grant⟩

end

/-! ## Withdrawn candidates -/

/-- No candidate is left which a new protection covers. -/
def Withdraws (before after : Tables) : Prop :=
  ∀ p ∈ after.protectedMedia, p ∉ before.protectedMedia →
    ∀ c ∈ after.candidates, ¬after.Covers p.target c.target

/-- The candidate is one that an automatic approval looks for: of the movie or version itself, or
of a part of the series whose season column names the season. -/
def IsSought (target row : MediaTarget) : Prop :=
  row.mediaType = target.mediaType ∧
    match target.mediaType with
    | .movie => row.movieVersionId = target.movieVersionId
    | .series => target.episodeId = none → target.seasonId.isSome → row.seasonId = target.seasonId

section

variable {db : Tables} {user : User} {data : CreateProtectionRequest} {scope : SeriesScope} {now : Nat}

theorem covers_congr {after : Tables} (h : after.episodes = db.episodes) (outer inner : MediaTarget) :
    after.Covers outer inner ↔ db.Covers outer inner := by
  simp only [Tables.Covers, Tables.CoversSeries, Tables.seasonOf, Tables.findEpisode, h]

/-- A grant adds one row of its own. -/
theorem withdraws_iff_of_append {after : Tables} {p : ProtectedMedia}
    (hrows : after.protectedMedia = db.protectedMedia ++ [p])
    (hid : p.id = Write.nextId ProtectedMedia.id db.protectedMedia) (hepisodes : after.episodes = db.episodes) :
    Withdraws db after ↔ ∀ c ∈ after.candidates, ¬db.Covers p.target c.target := by
  have hnew : p ∉ db.protectedMedia := fun hold => by
    have hlt : p.id < Write.nextId ProtectedMedia.id db.protectedMedia := Write.lt_nextId hold
    exact Nat.ne_of_lt hlt hid
  constructor
  · intro h c hc hcovers
    refine h p ?_ hnew c hc ((covers_congr hepisodes _ _).mpr hcovers)
    rw [hrows]
    exact List.mem_append_right _ (List.mem_singleton_self p)
  · intro h p' hp' hnew' c hc hcovers
    rw [hrows] at hp'
    obtain rfl := List.mem_singleton.mp ((List.mem_append.mp hp').resolve_left hnew')
    exact h c hc ((covers_congr hepisodes _ _).mp hcovers)

/-- The candidates of the media, by their columns. -/
theorem covers_target_movie {row : MediaTarget} (h : data.mediaType = .movie) :
    db.Covers (data.target scope) row ↔ row.movieId = some data.mediaId ∧
      (data.movieVersionId = none ∨ row.movieVersionId = data.movieVersionId) := by
  simp only [Tables.Covers, Tables.CoversMovie, Tables.CoversSeries, CreateDeleteRequest.target, h]
  grind

theorem covers_target_series {row : MediaTarget} (h : data.mediaType = .series) :
    db.Covers (data.target scope) row ↔ row.seriesId = some data.mediaId ∧
      if (data.target scope).episodeId.isSome then row.episodeId = (data.target scope).episodeId
      else (data.target scope).seasonId = none ∨ db.seasonOf row = (data.target scope).seasonId := by
  simp only [Tables.Covers, Tables.CoversMovie, Tables.CoversSeries, CreateDeleteRequest.target, h]
  grind

/-- The candidate that an automatic approval of a movie finds. -/
theorem mem_exactCandidates (h : data.mediaType = .movie) {c : ReclaimCandidate} (hc : c ∈ db.candidates)
    (hcovers : db.Covers (data.target scope) c.target) :
    c ∈ exactCandidates db (data.target scope) ↔ IsSought (data.target scope) c.target := by
  have htarget : (data.target scope).mediaType = .movie := h
  have hmovie : c.target.movieId = (data.target scope).movieId := by
    rw [((covers_target_movie h).mp hcovers).1]
    simp [CreateDeleteRequest.target, h]
  rw [exactCandidates, List.mem_filter, IsSought, matchesTarget, htarget]
  simp [hc, hmovie]

/-- Of the covered candidates an automatic approval leaves those that it does not look for. -/
theorem mem_candidatesAfterApproval {candidate : Option ReclaimCandidate}
    (hids : (db.candidates.map ReclaimCandidate.id).Nodup)
    (hcandidate : scalarOneOrNone (exactCandidates db (data.target scope)) = .ok candidate)
    {c : ReclaimCandidate} (hc : c ∈ db.candidates) (hcovers : db.Covers (data.target scope) c.target) :
    c ∈ candidatesAfterApproval db (data.target scope) candidate ↔ ¬IsSought (data.target scope) c.target := by
  cases hmedia : data.mediaType with
  | movie =>
    have htarget : (data.target scope).mediaType = .movie := hmedia
    rw [← mem_exactCandidates hmedia hc hcovers, candidatesAfterApproval, List.mem_filter, htarget]
    cases candidate with
    | none =>
      rw [scalarOneOrNone_eq_none.mp hcandidate]
      simp [hc]
    | some found =>
      rw [scalarOneOrNone_eq_some.mp hcandidate]
      have hfound : found ∈ db.candidates := by
        have hmem : found ∈ exactCandidates db (data.target scope) := by
          rw [scalarOneOrNone_eq_some.mp hcandidate]
          exact List.mem_singleton_self found
        exact List.mem_of_mem_filter hmem
      have hkey : c.id = found.id ↔ c = found :=
        ⟨fun h => List.inj_on_of_nodup_map hids hc hfound h, congrArg _⟩
      simp [hc, hkey]
  | series =>
    have htarget : (data.target scope).mediaType = .series := hmedia
    have hseries : (data.target scope).seriesId = some data.mediaId := by
      simp [CreateDeleteRequest.target, hmedia]
    obtain ⟨hrow, hpart⟩ := (covers_target_series hmedia).mp hcovers
    have hcolumn : c.seriesId = some data.mediaId := hrow
    rw [candidatesAfterApproval, List.mem_filter, htarget, IsSought, htarget]
    simp only [hc, hcolumn, hseries, true_and, decide_not, Bool.not_eq_true', decide_eq_false_iff_not]
    refine not_congr (and_congr_right fun _ => ?_)
    rw [seriesScopeCoveredCandidateClause]
    cases hepisode : (data.target scope).episodeId <;> cases hseason : (data.target scope).seasonId <;>
      simp_all

/-! ### Automatic approvals -/

/-- What an accepted request adds. -/
theorem createProtectionRequest_eq_ok {after : Tables}
    (h : createProtectionRequest db user data now = .ok after) :
    ∃ scope candidate, protectionScope db data = .ok scope ∧
      scalarOneOrNone (exactCandidates db (data.target scope)) = .ok candidate ∧
      after.episodes = db.episodes ∧
      after.protectedMedia = db.protectedMedia ++
        (if user.autoApprove then [newProtection db user data now (data.target scope)] else []) ∧
      (user.autoApprove → after.candidates = candidatesAfterApproval db (data.target scope) candidate) := by
  simp only [createProtectionRequest, bind_eq_ok, check_eq_ok] at h
  obtain ⟨-, -, scope, hscope, protection, -, -, -, existing, -, -, -, candidate, hcandidate, -, -, h⟩ := h
  refine ⟨scope, candidate, hscope, hcandidate, ?_⟩
  split_ifs at h with hauto
  · cases h
    simp [hauto]
  · cases h
    simp [hauto]

/-- An automatic approval withdraws the covered candidates exactly when it looks for all of them. -/
theorem createProtectionRequest_withdraws_iff {after : Tables}
    (hids : (db.candidates.map ReclaimCandidate.id).Nodup)
    (h : createProtectionRequest db user data now = .ok after) :
    Withdraws db after ↔ (user.autoApprove → ∀ scope, protectionScope db data = .ok scope →
      ∀ c ∈ db.candidates, db.Covers (data.target scope) c.target → IsSought (data.target scope) c.target) := by
  obtain ⟨scope, candidate, hscope, hcandidate, hepisodes, hrows, hcandidates⟩ := createProtectionRequest_eq_ok h
  cases hauto : user.autoApprove with
  | false =>
    refine iff_of_true (fun p hp hnew => absurd ?_ hnew) (by simp)
    simpa [hrows, hauto] using hp
  | true =>
    rw [hauto, if_pos rfl] at hrows
    rw [withdraws_iff_of_append hrows rfl hepisodes, hcandidates hauto]
    constructor
    · intro hleft _ scope' hscope' c hc hcovers
      obtain rfl : scope = scope' := by simpa [hscope] using hscope'
      by_contra hsought
      exact hleft c ((mem_candidatesAfterApproval hids hcandidate hc hcovers).mpr hsought) hcovers
    · intro hsought c hc hcovers
      have hrow : c ∈ db.candidates := List.mem_of_mem_filter hc
      exact (mem_candidatesAfterApproval hids hcandidate hrow hcovers).mp hc
        (hsought rfl scope hscope c hrow hcovers)

/-! ### Entries of managers -/

theorem createProtectionEntry_eq_ok {after : Tables}
    (h : createProtectionEntry db user data now = .ok after) :
    ∃ scope, entryScope db data = .ok scope ∧ after.episodes = db.episodes ∧
      after.protectedMedia = db.protectedMedia ++ [newProtection db user data now (data.target scope)] ∧
      after.candidates = db.candidates := by
  simp only [createProtectionEntry, bind_eq_ok, check_eq_ok] at h
  obtain ⟨-, -, -, -, scope, hscope, existing, -, -, -, h⟩ := h
  cases h
  exact ⟨scope, hscope, rfl, rfl, rfl⟩

/-- An entry withdraws no candidate. -/
theorem createProtectionEntry_withdraws_iff {after : Tables}
    (h : createProtectionEntry db user data now = .ok after) :
    Withdraws db after ↔ ∀ scope, entryScope db data = .ok scope →
      ∀ c ∈ db.candidates, ¬db.Covers (data.target scope) c.target := by
  obtain ⟨scope, hscope, hepisodes, hrows, hcandidates⟩ := createProtectionEntry_eq_ok h
  rw [withdraws_iff_of_append hrows rfl hepisodes, hcandidates]
  constructor
  · intro hleft scope' hscope' c hc
    obtain rfl : scope = scope' := by simpa [hscope] using hscope'
    exact hleft c hc
  · exact fun hleft c hc => hleft scope hscope c hc

end

/-! ### Approvals -/

section

variable {store : Store} {requestId : Nat} {review : Review} {grant : Grant} {request : ProtectionRequest}

theorem load_approveRequest (tables : Tables) :
    (approveRequest requestId review grant).load tables =
      match tables.protectionRequests.find? (·.id = requestId) with
      | none => .error (.http 404 "Request not found")
      | some request =>
        if request.status = .pending then .ok (.protection request)
        else .error (.http 400 ("Request has already been " ++ statusValue request.status)) := by
  have hfind : (approveRequest requestId review grant).find tables =
      (tables.protectionRequests.find? (·.id = requestId)).map .protection := by
    simp only [approveRequest, Call.find, Call.isFor, Bool.and_true]
    rfl
  rw [Call.load, hfind]
  cases tables.protectionRequests.find? (·.id = requestId) <;> rfl

theorem expiry_eq_ok_iff : (∃ expiry, grant.expiry request review.now = .ok expiry) ↔
    ∀ days ∈ grant.approvedDurationDays, 0 < days := by
  rw [Grant.expiry]
  cases hdays : grant.approvedDurationDays with
  | none =>
    simp only [Option.any_none, Bool.false_eq_true, if_false, reduceCtorEq, Option.mem_def]
    split_ifs
    · simp
    · cases request.requestedExpiresAt <;> simp
  | some days =>
    by_cases hpositive : days ≤ 0
    · simp [hpositive]
    · simp only [Option.any_some, hpositive, decide_false, Bool.false_eq_true, if_false, Option.mem_def,
        Option.some.injEq, forall_eq']
      refine iff_of_true ?_ (by omega)
      split_ifs <;> simp

/-- The approval of a pending request whose media are there. -/
theorem handle_approveRequest_of {permanent : Bool} {expiresAt : Option Nat}
    (hfind : store.tables.protectionRequests.find? (·.id = requestId) = some request)
    (hpending : request.status = .pending)
    (hmedia : checkMedia store.tables request.mediaType request.movieId request.seriesId = .ok ())
    (hexpiry : grant.expiry request review.now = .ok (permanent, expiresAt)) :
    ∃ after, ((approveRequest requestId review grant).handle store).2.tables = after ∧
      after.episodes = store.tables.episodes ∧
      after.protectedMedia = store.tables.protectedMedia ++ [approvedProtection request review permanent
        expiresAt (Write.nextId ProtectedMedia.id store.tables.protectedMedia)] ∧
      after.candidates = store.tables.candidates.filter fun c =>
        ∀ id ∈ request.candidateId.filter fun id => store.tables.candidates.any (·.id = id), c.id ≠ id := by
  set d := (Decision.approveProtection request review permanent expiresAt none).withCandidate store.tables
    with hd
  have hthere : statuses d.key store.tables ≠ [] := by
    rw [hd, key_withCandidate]
    refine List.ne_nil_of_mem (a := request.status) (List.mem_map.mpr ⟨request, ?_, rfl⟩)
    exact List.mem_filter.mpr ⟨List.mem_of_find?_eq_some hfind, decide_eq_true rfl⟩
  have hdecide : (approveRequest requestId review grant).decide store.tables (.protection request) =
      .ok (.approveProtection request review permanent expiresAt none) := by
    simp only [approveRequest, Call.decide, hmedia, hexpiry]
    rfl
  refine ⟨d.write store.tables, ?_, rfl, rfl, rfl⟩
  rw [Call.handle, load_approveRequest, hfind]
  simp only [hpending, if_true, hdecide]
  exact congrArg Store.tables (change_of_there hthere)

/-- Every other approval of a protection request is refused. -/
theorem handle_approveRequest_of_not
    (h : ∀ request, store.tables.protectionRequests.find? (·.id = requestId) = some request →
      request.status = .pending →
      checkMedia store.tables request.mediaType request.movieId request.seriesId = .ok () →
      ¬∀ days ∈ grant.approvedDurationDays, 0 < days) :
    ((approveRequest requestId review grant).handle store).2 = store := by
  rw [Call.handle, load_approveRequest]
  cases hfind : store.tables.protectionRequests.find? (·.id = requestId) with
  | none => rfl
  | some request =>
    by_cases hpending : request.status = .pending
    · simp only [hpending, if_true, Call.decide, approveRequest]
      cases hmedia : checkMedia store.tables request.mediaType request.movieId request.seriesId with
      | error e => rfl
      | ok u =>
        cases hexpiry : grant.expiry request review.now with
        | error e => rfl
        | ok expiry => exact absurd (expiry_eq_ok_iff.mp ⟨expiry, hexpiry⟩) (h request hfind hpending hmedia)
    · simp only [hpending, if_false]

/-- An approval withdraws the candidate that the request names, and no other one. -/
theorem approveRequest_withdraws_iff (store : Store) (requestId : Nat) (review : Review) (grant : Grant) :
    Withdraws store.tables ((approveRequest requestId review grant).handle store).2.tables ↔
      ∀ request, store.tables.protectionRequests.find? (·.id = requestId) = some request →
        request.status = .pending →
        checkMedia store.tables request.mediaType request.movieId request.seriesId = .ok () →
        (∀ days ∈ grant.approvedDurationDays, 0 < days) →
        ∀ c ∈ store.tables.candidates, store.tables.Covers request.target c.target →
          request.candidateId = some c.id := by
  by_cases hgranted : ∃ request, store.tables.protectionRequests.find? (·.id = requestId) = some request ∧
      request.status = .pending ∧
      checkMedia store.tables request.mediaType request.movieId request.seriesId = .ok () ∧
      ∀ days ∈ grant.approvedDurationDays, 0 < days
  · obtain ⟨request, hfind, hpending, hmedia, hdays⟩ := hgranted
    obtain ⟨⟨permanent, expiresAt⟩, hexpiry⟩ := expiry_eq_ok_iff.mpr hdays
    obtain ⟨after, hafter, hepisodes, hrows, hcandidates⟩ :=
      handle_approveRequest_of hfind hpending hmedia hexpiry
    rw [hafter, withdraws_iff_of_append hrows rfl hepisodes, hcandidates]
    constructor
    · intro hleft request' hfind' _ _ _ c hc hcovers
      obtain rfl : request = request' := by simpa [hfind] using hfind'
      by_contra hother
      refine hleft c (List.mem_filter.mpr ⟨hc, ?_⟩) hcovers
      refine decide_eq_true fun id hid hc => hother ?_
      rw [hc]
      exact (Option.mem_filter_iff.mp hid).1
    · intro hnamed c hc hcovers
      obtain ⟨hrow, hkept⟩ := List.mem_filter.mp hc
      have hid := hnamed request hfind hpending hmedia hdays c hrow hcovers
      refine of_decide_eq_true hkept c.id (Option.mem_filter_iff.mpr ⟨hid, ?_⟩) rfl
      exact List.any_eq_true.mpr ⟨c, hrow, decide_eq_true rfl⟩
  · refine iff_of_true ?_ fun request hfind hpending hmedia hdays =>
      absurd ⟨request, hfind, hpending, hmedia, hdays⟩ hgranted
    rw [handle_approveRequest_of_not fun request hfind hpending hmedia hdays =>
      hgranted ⟨request, hfind, hpending, hmedia, hdays⟩]
    exact fun p hp hnew => absurd hp hnew

end

/-! ### All grants -/

/-- A grant withdraws every candidate that the protection covers exactly when each of them is one
that its path looks for: an automatic approval for those of `IsSought`, the approval of a request
for the candidate that the request names, an entry of a manager for none. -/
theorem grants_withdraw_iff (db : Tables) (user : User) (data : CreateProtectionRequest) (now : Nat)
    (after : Tables) (store : Store) (requestId : Nat) (review : Review) (grant : Grant) :
    ((db.candidates.map ReclaimCandidate.id).Nodup →
      createProtectionRequest db user data now = .ok after →
        (Withdraws db after ↔ (user.autoApprove → ∀ scope, protectionScope db data = .ok scope →
          ∀ c ∈ db.candidates, db.Covers (data.target scope) c.target →
            IsSought (data.target scope) c.target))) ∧
    (Withdraws store.tables ((approveRequest requestId review grant).handle store).2.tables ↔
      ∀ request, store.tables.protectionRequests.find? (·.id = requestId) = some request →
        request.status = .pending →
        checkMedia store.tables request.mediaType request.movieId request.seriesId = .ok () →
        (∀ days ∈ grant.approvedDurationDays, 0 < days) →
        ∀ c ∈ store.tables.candidates, store.tables.Covers request.target c.target →
          request.candidateId = some c.id) ∧
    (createProtectionEntry db user data now = .ok after →
      (Withdraws db after ↔ ∀ scope, entryScope db data = .ok scope →
        ∀ c ∈ db.candidates, ¬db.Covers (data.target scope) c.target)) :=
  ⟨createProtectionRequest_withdraws_iff, approveRequest_withdraws_iff store requestId review grant,
    createProtectionEntry_withdraws_iff⟩

/-- A movie with one version, and a candidate of the movie or of the version. -/
def candidateMovie (versionId : Option Nat) : Tables where
  movies := [{ id := 1, tmdbId := 1, title := "Movie" }]
  movieVersions := [{ id := 1, movieId := 1, service := .plex, serviceItemId := "1", serviceMediaId := "1" }]
  candidates := [{ id := 1, mediaType := .movie, movieId := some 1, movieVersionId := versionId }]

/-- The candidate of the movie itself is withdrawn. -/
theorem grants_withdraw_candidateMovie : ∃ after,
    createProtectionRequest (candidateMovie none) { id := 1, autoApprove := true }
      { mediaType := .movie, mediaId := 1 } 5 = .ok after ∧
    Withdraws (candidateMovie none) after := by
  refine ⟨_, rfl, ((grants_withdraw_iff (candidateMovie none) { id := 1, autoApprove := true }
    { mediaType := .movie, mediaId := 1 } 5 _ ⟨candidateMovie none, []⟩ 1 ⟨1, none, 5⟩ {}).1 (by decide)
      rfl).mpr fun _ scope _ c hc _ => ?_⟩
  obtain rfl := List.mem_singleton.mp hc
  exact ⟨rfl, rfl⟩

/-- The candidate of a version outlives the protection of its movie. -/
theorem not_grants_withdraw :
    ¬((∀ db user data now after, createProtectionRequest db user data now = .ok after → Withdraws db after) ∧
      (∀ (store : Store) (requestId : Nat) (review : Review) (grant : Grant),
        Withdraws store.tables ((approveRequest requestId review grant).handle store).2.tables) ∧
      ∀ db user data now after, createProtectionEntry db user data now = .ok after → Withdraws db after) := by
  intro h
  exact h.1 (candidateMovie (some 1)) { id := 1, autoApprove := true } { mediaType := .movie, mediaId := 1 } 5 _
    rfl _ (List.mem_singleton_self _) List.not_mem_nil _ (List.mem_singleton_self _) (by decide)

end MediaMasterr.Requests
