import MediaMasterr.Requests.Handlers
import MediaMasterr.Requests.Scopes

/-! # Delete requests

How a delete request is created, and what it finds of the protections that overlap
its media: the protections that cover the media, not those of their parts. -/

namespace MediaMasterr.Requests

open MediaMasterr.Database MediaMasterr.Foundations

/-! ## The handler -/

section

variable (db : Tables) (user : User) (data : CreateDeleteRequest) (now : Nat)

/-- `_request_target_scope`. -/
def requestTargetScope (mediaType : MediaType) (movieVersionId seasonId episodeId : Option Nat)
    (targetScope : Option String) (seasonNumberSnapshot episodeNumberSnapshot : Option Nat) : String :=
  match targetScope.filter (· ≠ "") with
  | some targetScope => targetScope
  | none =>
    match mediaType with
    | .movie => if movieVersionId.isSome then "movie_version" else "movie"
    | .series =>
      if episodeId.isSome || episodeNumberSnapshot.isSome then "episode"
      else if seasonId.isSome || seasonNumberSnapshot.isSome then "season"
      else "series"

/-- The media that are to be deleted. -/
def requestedScope : Except ApiError SeriesScope :=
  match data.mediaType with
  | .movie => do
    check (findMovieInLibrary db data.mediaId).isSome (.http 404 "Movie not found")
    check (data.seasonId = none ∧ data.episodeId = none)
      (.http 400 "season_id and episode_id are only valid for series")
    check (∀ versionId ∈ data.movieVersionId, (findVersionOfMovie db data.mediaId versionId).isSome)
      (.http 404 "Movie version not found")
    return {}
  | .series => do
    check (findSeriesInLibrary db data.mediaId).isSome (.http 404 "Series not found")
    check (data.movieVersionId = none) (.http 400 "movie_version_id is only valid for movies")
    resolveSeriesScope db data.mediaId data.seasonId data.episodeId

/-- `protected_query`. -/
def protectedQuery (target : MediaTarget) : List ProtectedMedia :=
  db.protectedMedia.filter fun p => p.isActive now && match target.mediaType with
    | .movie => p.movieId = target.movieId ∧
        (target.movieVersionId.isSome → p.movieVersionId = none ∨ p.movieVersionId = target.movieVersionId)
    | .series => p.seriesId = target.seriesId ∧
        seriesScopeOverlapClause target.seasonId target.episodeId p.target

/-- `existing_query`. -/
def existingQuery (target : MediaTarget) : List DeleteRequest :=
  db.deleteRequests.filter fun r => (r.mediaType = target.mediaType ∧ r.requestedByUserId = user.id ∧
    r.status = .pending : Bool) && match target.mediaType with
    | .movie => r.movieId = target.movieId ∧ r.movieVersionId = target.movieVersionId
    | .series => r.seriesId = target.seriesId ∧
        seriesScopeOverlapClause target.seasonId target.episodeId r.target

/-- The row of a new request. -/
def newDeleteRequest (target : MediaTarget) (scope : SeriesScope) : DeleteRequest where
  id := Write.nextId DeleteRequest.id db.deleteRequests
  mediaType := data.mediaType
  requestedByUserId := user.id
  reason := data.reason
  movieId := target.movieId
  movieVersionId := target.movieVersionId
  seriesId := target.seriesId
  seasonId := target.seasonId
  episodeId := target.episodeId
  targetScope := some (requestTargetScope data.mediaType target.movieVersionId target.seasonId target.episodeId
    none (scope.season.map Season.seasonNumber) (scope.episode.map Episode.episodeNumber))
  seasonNumberSnapshot := scope.season.map Season.seasonNumber
  episodeNumberSnapshot := scope.episode.map Episode.episodeNumber
  episodeNameSnapshot := scope.episode.bind Episode.name
  createdAt := now

/-- `create_delete_request`: the request that it adds. -/
def createDeleteRequest : Except ApiError DeleteRequest := do
  check user.request (.http 403 "Request permission required")
  let scope ← requestedScope db data
  let protection ← scalarOneOrNone (protectedQuery db now (data.target scope))
  check (protection = none) (.http 400 "This media is currently protected from deletion")
  let existing ← scalarOneOrNone (existingQuery db user (data.target scope))
  check (existing = none) (.http 400 "You already have a pending delete request for this media")
  return newDeleteRequest db user data now (data.target scope) scope

end

/-! ## The media of a request -/

section

variable {db : Tables} {user : User} {data : CreateDeleteRequest} {scope : SeriesScope} {now : Nat}

theorem findEpisodeOfSeries_spec {seriesId episodeId : Nat} {found : Season × Episode}
    (h : findEpisodeOfSeries db seriesId episodeId = some found) :
    db.findEpisode episodeId = some found.2 ∧ found.2.id = episodeId ∧ found.1.id = found.2.seasonId ∧
      found.1.seriesId = seriesId := by
  obtain ⟨season, episode⟩ := found
  simp only [findEpisodeOfSeries, findSeasonOfSeries, Option.bind_eq_bind, Option.bind_eq_some_iff,
    Option.filter_eq_some_iff, Option.pure_def, Option.some.injEq, Prod.mk.injEq] at h
  obtain ⟨episode', hepisode, season', ⟨hseason, hseries⟩, rfl, rfl⟩ := h
  have hid := List.find?_some hepisode
  have hseasonId := List.find?_some hseason
  simp only [beq_iff_eq] at hid hseasonId
  exact ⟨hepisode, hid, hseasonId, of_decide_eq_true hseries⟩

/-- The season of a resolved scope is that of its episode. -/
theorem resolveSeriesScope_placed {mediaId : Nat} {seasonId episodeId : Option Nat}
    (h : resolveSeriesScope db mediaId seasonId episodeId = .ok scope) (target : MediaTarget)
    (hseason : target.seasonId = scope.season.map Season.id)
    (hepisode : target.episodeId = scope.episode.map Episode.id) :
    IsPlaced db target ∧ (target.episodeId.isSome → target.seasonId.isSome) := by
  rw [IsPlaced, Tables.seasonOf, hseason, hepisode]
  unfold resolveSeriesScope at h
  split at h
  · cases h
  · split at h
    · cases h
    next season episode hfound =>
      cases h
      obtain ⟨hrow, hid, hseasonId, -⟩ := findEpisodeOfSeries_spec hfound
      dsimp only at hrow hid hseasonId
      simp [hid, hrow, hseasonId]
  · split at h
    · cases h
    · cases h
      exact ⟨rfl, by simp⟩
  · cases h
    exact ⟨rfl, by simp⟩

theorem requestedScope_placed (h : requestedScope db data = .ok scope) :
    IsPlaced db (data.target scope) ∧
      ((data.target scope).episodeId.isSome → (data.target scope).seasonId.isSome) := by
  unfold requestedScope at h
  split at h
  · simp only [bind_eq_ok] at h
    obtain ⟨-, -, -, -, -, -, h⟩ := h
    cases h
    exact ⟨rfl, by simp [CreateDeleteRequest.target]⟩
  · simp only [bind_eq_ok] at h
    obtain ⟨-, -, -, -, h⟩ := h
    exact resolveSeriesScope_placed h (data.target scope) rfl rfl

end

/-! ## Protections of the media -/

section

variable (db : Tables) (now : Nat) (target : MediaTarget)

/-- The active protections that overlap a target. -/
def activeOverlaps : List ProtectedMedia :=
  db.protectedMedia.filter fun p => p.isActive now ∧ db.Overlaps p.target target

/-- Those of them that the handler looks for: of the movie or a version of it, or of a part of
the series that the target lies in. -/
def soughtOverlaps : List ProtectedMedia :=
  (activeOverlaps db now target).filter fun p => target.mediaType = .series → db.Covers p.target target

end

section

variable {db : Tables} {user : User} {data : CreateDeleteRequest} {scope : SeriesScope} {now : Nat}

theorem protectedQuery_eq (h : requestedScope db data = .ok scope) :
    protectedQuery db now (data.target scope) = soughtOverlaps db now (data.target scope) := by
  rw [protectedQuery, soughtOverlaps, activeOverlaps, List.filter_filter]
  refine List.filter_congr fun p _ => ?_
  obtain ⟨hplaced, hseason⟩ := requestedScope_placed h
  cases hmedia : data.mediaType with
  | movie =>
    have htarget : (data.target scope).mediaType = .movie := hmedia
    have hmovie : (data.target scope).movieId = some data.mediaId := by simp [CreateDeleteRequest.target, hmedia]
    have hseries : (data.target scope).seriesId = none := by simp [CreateDeleteRequest.target, hmedia]
    rw [Bool.eq_iff_iff]
    simp only [htarget, Tables.overlaps_iff, Tables.Covers, Tables.CoversMovie,
      Tables.CoversSeries, hmovie, hseries, ProtectedMedia.target]
    cases p.movieId <;> cases (data.target scope).movieVersionId <;> simp <;> grind
  | series =>
    have htarget : (data.target scope).mediaType = .series := hmedia
    have hmovie : (data.target scope).movieId = none := by simp [CreateDeleteRequest.target, hmedia]
    have hseries : (data.target scope).seriesId.isSome := by simp [CreateDeleteRequest.target, hmedia]
    have hcovers : p.target.seriesId = (data.target scope).seriesId →
        (seriesScopeOverlapClause (data.target scope).seasonId (data.target scope).episodeId p.target = true ↔
          db.CoversSeries p.target (data.target scope)) :=
      seriesScopeOverlapClause_iff hplaced hseason hseries
    rw [Bool.eq_iff_iff]
    simp only [htarget, Tables.overlaps_iff, Tables.Covers, Tables.CoversMovie, hmovie]
    grind [Tables.CoversSeries, ProtectedMedia.target]

/-- The answer to a delete request when active protections overlap its media. -/
structure RefusesProtected (db : Tables) (user : User) (data : CreateDeleteRequest) (now : Nat) : Prop where
  accepted : ∀ request, createDeleteRequest db user data now = .ok request →
    activeOverlaps db now request.target = []
  refused : user.request → ∀ scope, requestedScope db data = .ok scope →
    activeOverlaps db now (data.target scope) ≠ [] →
      createDeleteRequest db user data now =
        .error (.http 400 "This media is currently protected from deletion")

theorem createDeleteRequest_of_scope (hpermission : user.request = true)
    (h : requestedScope db data = .ok scope) :
    createDeleteRequest db user data now = (do
      let protection ← scalarOneOrNone (soughtOverlaps db now (data.target scope))
      check (protection = none) (.http 400 "This media is currently protected from deletion")
      let existing ← scalarOneOrNone (existingQuery db user (data.target scope))
      check (existing = none) (.http 400 "You already have a pending delete request for this media")
      return newDeleteRequest db user data now (data.target scope) scope) := by
  rw [createDeleteRequest, check_of hpermission, h, ← protectedQuery_eq h]
  rfl

/-- A request is refused for a protection only if the query finds exactly one. -/
theorem createDeleteRequest_eq_protected_iff (hpermission : user.request = true)
    (h : requestedScope db data = .ok scope) :
    createDeleteRequest db user data now =
        .error (.http 400 "This media is currently protected from deletion") ↔
      (soughtOverlaps db now (data.target scope)).length = 1 := by
  rw [createDeleteRequest_of_scope hpermission h]
  rcases soughtOverlaps db now (data.target scope) with _ | ⟨p, _ | ⟨q, rest⟩⟩
  · rcases existingQuery db user (data.target scope) with _ | ⟨r, _ | ⟨r', rest⟩⟩ <;>
      simp [scalarOneOrNone, check, bind, Except.bind, pure, Except.pure]
  · simp [scalarOneOrNone, check, bind, Except.bind]
  · simp [scalarOneOrNone, bind, Except.bind]

/-- The row of an accepted request, of which the query has found no protection. -/
theorem createDeleteRequest_eq_ok {request : DeleteRequest}
    (h : createDeleteRequest db user data now = .ok request) :
    user.request = true ∧ ∃ scope, requestedScope db data = .ok scope ∧
      soughtOverlaps db now (data.target scope) = [] ∧
      request = newDeleteRequest db user data now (data.target scope) scope := by
  simp only [createDeleteRequest, bind_eq_ok, check_eq_ok] at h
  obtain ⟨-, hpermission, scope, hscope, protection, hprotection, -, rfl, existing, -, -, -, hrequest⟩ := h
  refine ⟨hpermission, scope, hscope, ?_, (Except.ok.inj hrequest).symm⟩
  rw [← protectedQuery_eq hscope]
  exact scalarOneOrNone_eq_none.mp hprotection

theorem refusesProtected_iff : RefusesProtected db user data now ↔
    (user.request → ∀ scope, requestedScope db data = .ok scope →
      activeOverlaps db now (data.target scope) = [] ∨
        (soughtOverlaps db now (data.target scope)).length = 1) := by
  constructor
  · intro h hpermission scope hscope
    by_cases hnone : activeOverlaps db now (data.target scope) = []
    · exact .inl hnone
    · exact .inr ((createDeleteRequest_eq_protected_iff hpermission hscope).mp
        (h.refused hpermission scope hscope hnone))
  · intro h
    refine ⟨fun request hrequest => ?_, fun hpermission scope hscope hsome => ?_⟩
    · obtain ⟨hpermission, scope, hscope, hsought, rfl⟩ := createDeleteRequest_eq_ok hrequest
      refine (h hpermission scope hscope).resolve_right fun hone => ?_
      rw [hsought] at hone
      cases hone
    · exact (createDeleteRequest_eq_protected_iff hpermission hscope).mpr
        ((h hpermission scope hscope).resolve_left hsome)

end

/-! ## Approvals -/

section

variable {store : Store}

/-- No new job deletes media that an active protection covers which is younger than the request. -/
def QueuesUnprotected (before after : Store) (now : Nat) : Prop :=
  ∀ job ∈ after.jobs, job ∉ before.jobs → ∀ c ∈ after.tables.candidates, c.id ∈ job.candidateIds →
    ∀ request, before.tables.deleteRequests.find? (some ·.id = job.deleteRequestId) = some request →
      ∀ p ∈ activeOverlaps before.tables now c.target, p.createdAt ≤ request.createdAt

/-- The call that approves a delete request. -/
def approveDeleteRequest (requestId : Nat) (review : Review) : Call :=
  ⟨.deletion, requestId, .approve review {}⟩

theorem find?_some_id (requests : List DeleteRequest) (id : Nat) :
    requests.find? (some ·.id = some id) = requests.find? (·.id = id) := by
  simp only [Option.some.injEq]

theorem load_approveDeleteRequest (requestId : Nat) (review : Review) (tables : Tables) :
    (approveDeleteRequest requestId review).load tables =
      match tables.deleteRequests.find? (·.id = requestId) with
      | none => .error (.http 404 "Request not found")
      | some request =>
        if request.status = .pending then .ok (.deletion request)
        else .error (.http 400 ("Request has already been " ++ statusValue request.status)) := by
  have hfind : (approveDeleteRequest requestId review).find tables =
      (tables.deleteRequests.find? (·.id = requestId)).map .deletion := by
    simp only [approveDeleteRequest, Call.find, Call.isFor, Bool.and_true]
    rfl
  rw [Call.load, hfind]
  cases tables.deleteRequests.find? (·.id = requestId) <;> rfl

/-- The approval of a pending request whose media are there. -/
theorem handle_approveDeleteRequest_of {requestId : Nat} {review : Review} {request : DeleteRequest}
    (hfind : store.tables.deleteRequests.find? (·.id = requestId) = some request)
    (hpending : request.status = .pending)
    (hmedia : checkMedia store.tables request.mediaType request.movieId request.seriesId = .ok ()) :
    (approveDeleteRequest requestId review).handle store =
      (.ok (), (Decision.approveDeletion request review).carryOut store) := by
  rw [Call.handle, load_approveDeleteRequest, hfind]
  simp only [hpending, if_true, Call.decide, approveDeleteRequest, hmedia]
  rfl

/-- Every other approval of a delete request is refused. -/
theorem handle_approveDeleteRequest_of_not {requestId : Nat} {review : Review}
    (h : ∀ request, store.tables.deleteRequests.find? (·.id = requestId) = some request →
      request.status = .pending →
      checkMedia store.tables request.mediaType request.movieId request.seriesId ≠ .ok ()) :
    ((approveDeleteRequest requestId review).handle store).2 = store := by
  rw [Call.handle, load_approveDeleteRequest]
  cases hfind : store.tables.deleteRequests.find? (·.id = requestId) with
  | none => rfl
  | some request =>
    by_cases hpending : request.status = .pending
    · cases hmedia : checkMedia store.tables request.mediaType request.movieId request.seriesId with
      | ok u => exact absurd hmedia (h request hfind hpending)
      | error e =>
        simp only [hpending, if_true, Call.decide, approveDeleteRequest, hmedia]
        rfl
    · simp only [hpending, if_false]

/-- What an approval adds to the store. -/
theorem carryOut_approveDeletion {requestId : Nat} {review : Review} {request : DeleteRequest}
    (hfind : store.tables.deleteRequests.find? (·.id = requestId) = some request) :
    (Decision.approveDeletion request review).carryOut store =
      addDeleteJob request.id (Write.nextId ReclaimCandidate.id store.tables.candidates)
        { store with tables := (Decision.approveDeletion request review).write store.tables } := by
  have hthere : statuses (Decision.approveDeletion request review).key store.tables ≠ [] := by
    refine List.ne_nil_of_mem (a := request.status) (List.mem_map.mpr ⟨request, ?_, rfl⟩)
    exact List.mem_filter.mpr ⟨List.mem_of_find?_eq_some hfind, decide_eq_true rfl⟩
  rw [Decision.carryOut, change_of_there hthere]
  rfl

theorem queuesUnprotected_iff (requestId : Nat) (review : Review) :
    QueuesUnprotected store ((approveDeleteRequest requestId review).handle store).2 review.now ↔
      ∀ request, store.tables.deleteRequests.find? (·.id = requestId) = some request →
        request.status = .pending →
        checkMedia store.tables request.mediaType request.movieId request.seriesId = .ok () →
        ∀ p ∈ activeOverlaps store.tables review.now request.target, p.createdAt ≤ request.createdAt := by
  constructor
  · intro h request hfind hpending hmedia
    have hid : request.id = requestId := by simpa using List.find?_some hfind
    rw [handle_approveDeleteRequest_of hfind hpending hmedia, carryOut_approveDeletion hfind] at h
    refine h _ (List.mem_append_right _ (List.mem_singleton_self _)) (fun hold => ?_)
      _ (List.mem_append_right _ (List.mem_singleton_self _)) (List.mem_singleton_self _) request ?_
    · have hlt : ∀ job ∈ store.jobs, job.id < Write.nextId CandidateFileOpJob.id store.jobs :=
        fun _ hjob => Write.lt_nextId hjob
      exact Nat.lt_irrefl _ (hlt _ hold)
    · rw [find?_some_id, hid, hfind]
  · intro h job hjob hnew c hc hid request hrequest p hp
    by_cases hqueued : ∃ found, store.tables.deleteRequests.find? (·.id = requestId) = some found ∧
        found.status = .pending ∧
        checkMedia store.tables found.mediaType found.movieId found.seriesId = .ok ()
    · obtain ⟨found, hfind, hpending, hmedia⟩ := hqueued
      have hfoundId : found.id = requestId := by simpa using List.find?_some hfind
      rw [handle_approveDeleteRequest_of hfind hpending hmedia, carryOut_approveDeletion hfind] at hjob hc
      obtain rfl := List.mem_singleton.mp ((List.mem_append.mp hjob).resolve_left hnew)
      have hnewId : c.id = Write.nextId ReclaimCandidate.id store.tables.candidates :=
        List.mem_singleton.mp hid
      obtain hold | hnewest := List.mem_append.mp hc
      · have hlt : c.id < Write.nextId ReclaimCandidate.id store.tables.candidates := Write.lt_nextId hold
        exact absurd hnewId (Nat.ne_of_lt hlt)
      · obtain rfl := List.mem_singleton.mp hnewest
        rw [find?_some_id, hfoundId, hfind] at hrequest
        obtain rfl := Option.some.inj hrequest
        exact h found hfind hpending hmedia p hp
    · rw [handle_approveDeleteRequest_of_not fun found hfind hpending hmedia =>
        hqueued ⟨found, hfind, hpending, hmedia⟩] at hjob
      exact absurd hjob hnew

end

/-! ## Protected media -/

/-- Requests and approvals leave protected media alone exactly when no active protection is
overlooked: none overlaps the media of a request, or exactly one of those that the query looks
for, and none that is younger than the request overlaps them when it is approved. -/
theorem protectedMedia_respected_iff (db : Tables) (user : User) (data : CreateDeleteRequest) (now : Nat)
    (store : Store) (requestId : Nat) (review : Review) :
    (RefusesProtected db user data now ↔
      (user.request → ∀ scope, requestedScope db data = .ok scope →
        activeOverlaps db now (data.target scope) = [] ∨
          (soughtOverlaps db now (data.target scope)).length = 1)) ∧
    (QueuesUnprotected store ((approveDeleteRequest requestId review).handle store).2 review.now ↔
      ∀ request, store.tables.deleteRequests.find? (·.id = requestId) = some request →
        request.status = .pending →
        checkMedia store.tables request.mediaType request.movieId request.seriesId = .ok () →
        ∀ p ∈ activeOverlaps store.tables review.now request.target, p.createdAt ≤ request.createdAt) :=
  ⟨refusesProtected_iff, queuesUnprotected_iff requestId review⟩

/-- A season with a protected episode. -/
def protectedEpisode : Tables where
  series := [{ id := 1, tmdbId := 1, title := "Series" }]
  seasons := [{ id := 1, seriesId := 1, seasonNumber := 1 }]
  episodes := [{ id := 1, seasonId := 1, episodeNumber := 1 }]
  protectedMedia := [{ id := 1, mediaType := .series, seriesId := some 1, seasonId := some 1, episodeId := some 1 }]

/-- The request to delete the season is accepted. -/
theorem not_protectedMedia_respected :
    ¬((∀ db user data now, RefusesProtected db user data now) ∧
      ∀ (store : Store) (requestId : Nat) (review : Review),
        QueuesUnprotected store ((approveDeleteRequest requestId review).handle store).2 review.now) := by
  intro h
  have hrefused := (h.1 protectedEpisode { id := 1 } { mediaType := .series, mediaId := 1, seasonId := some 1 }
    5).refused rfl _ rfl (by decide)
  have haccepted : (createDeleteRequest protectedEpisode { id := 1 }
      { mediaType := .series, mediaId := 1, seasonId := some 1 } 5).isOk := by decide
  rw [hrefused] at haccepted
  cases haccepted

end MediaMasterr.Requests
