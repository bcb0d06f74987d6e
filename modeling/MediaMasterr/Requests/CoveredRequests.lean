import MediaMasterr.Requests.DeleteRequests
import MediaMasterr.Requests.ProtectionRequests

/-! # Requests for protected media

When a protection request is refused because its media are protected already. The
query finds the protections of a series that cover the media, but those of a movie
only where they name the same version; it reads no expiry, and its accessor allows
for one row. -/

namespace MediaMasterr.Requests

open MediaMasterr.Database MediaMasterr.Foundations

section

variable (db : Tables) (now : Nat) (target : MediaTarget)

/-- The active protections that cover the whole target. -/
def activeCoverings : List ProtectedMedia :=
  db.protectedMedia.filter fun p => p.isActive now ∧ db.Covers p.target target

/-- The protections that the handler finds, expired or not: of the same movie version, or of a part
of the series that the target lies in. -/
def foundProtections : List ProtectedMedia :=
  db.protectedMedia.filter fun p => p.mediaType = target.mediaType ∧ db.Covers p.target target ∧
    (target.mediaType = .movie → p.movieVersionId = target.movieVersionId)

/-- The tables without the protections that have expired. -/
def withoutExpired : Tables :=
  { db with protectedMedia := db.protectedMedia.filter (·.isActive now) }

end

section

variable {db : Tables} {user : User} {data : CreateProtectionRequest} {scope : SeriesScope} {now : Nat}

/-! ## The media that are asked for -/

theorem resolveRequestedScope_placed {mediaId : Nat} {seasonId episodeId : Option Nat}
    (h : resolveRequestedScope db mediaId seasonId episodeId = .ok scope) (target : MediaTarget)
    (hseason : target.seasonId = scope.season.map Season.id)
    (hepisode : target.episodeId = scope.episode.map Episode.id) :
    IsPlaced db target ∧ (target.episodeId.isSome → target.seasonId.isSome) := by
  unfold resolveRequestedScope at h
  cases hid : episodeId with
  | none =>
    rw [hid] at h
    exact resolveSeriesScope_placed h target hseason hepisode
  | some id =>
    have hresolve : resolveSeriesScope db mediaId none (some id) = .ok scope := by
      rw [hid] at h
      cases hfound : findEpisodeOfSeries db mediaId id with
      | none =>
        simp only [hfound] at h
        cases h
      | some found =>
        simp only [hfound] at h
        split_ifs at h with hsame
        simp only [resolveSeriesScope, hfound, h]
    exact resolveSeriesScope_placed hresolve target hseason hepisode

theorem protectionScope_placed (h : protectionScope db data = .ok scope) :
    IsPlaced db (data.target scope) ∧
      ((data.target scope).episodeId.isSome → (data.target scope).seasonId.isSome) := by
  have hresolved : (if data.seasonId.isSome || data.episodeId.isSome then
      resolveRequestedScope db data.mediaId data.seasonId data.episodeId else .ok {}) = .ok scope := by
    unfold protectionScope at h
    split_ifs at h ⊢ <;> simp only [bind_eq_ok, pure, Except.pure, Except.ok.injEq] at h ⊢ <;> grind
  split_ifs at hresolved
  · exact resolveRequestedScope_placed hresolved (data.target scope) rfl rfl
  · obtain rfl := Except.ok.inj hresolved
    exact ⟨rfl, by simp [CreateDeleteRequest.target]⟩

/-- What the query finds, by what it covers. -/
theorem alreadyProtected_eq (h : protectionScope db data = .ok scope) :
    alreadyProtected db (data.target scope) = foundProtections db (data.target scope) := by
  obtain ⟨hplaced, hseason⟩ := protectionScope_placed h
  refine List.filter_congr fun p _ => ?_
  have hrow : p.target.mediaType = p.mediaType := rfl
  rw [Bool.eq_iff_iff, matchesTarget, hrow, Bool.and_eq_true, decide_eq_true_iff, decide_eq_true_iff]
  refine and_congr_right fun _ => ?_
  cases hmedia : data.mediaType with
  | movie =>
    have htarget : (data.target scope).mediaType = .movie := hmedia
    have hmovie : (data.target scope).movieId = some data.mediaId := by simp [CreateDeleteRequest.target, hmedia]
    have hseries : (data.target scope).seriesId = none := by simp [CreateDeleteRequest.target, hmedia]
    simp only [htarget, Tables.Covers, Tables.CoversMovie, Tables.CoversSeries, hmovie, hseries,
      ProtectedMedia.target]
    grind
  | series =>
    have htarget : (data.target scope).mediaType = .series := hmedia
    have hmovie : (data.target scope).movieId = none := by simp [CreateDeleteRequest.target, hmedia]
    have hseries : (data.target scope).seriesId.isSome := by simp [CreateDeleteRequest.target, hmedia]
    have hcovers : p.target.seriesId = (data.target scope).seriesId →
        (seriesScopeOverlapClause (data.target scope).seasonId (data.target scope).episodeId p.target = true ↔
          db.CoversSeries p.target (data.target scope)) :=
      seriesScopeOverlapClause_iff hplaced hseason hseries
    simp only [htarget, Tables.Covers, Tables.CoversMovie, hmovie]
    grind [Tables.CoversSeries, ProtectedMedia.target]

/-! ## The answers -/

/-- The answer to a request for media that are protected already. -/
def alreadyProtectedError : ApiError := .http 400 "This media is already protected from deletion"

/-- The protections that are found decide alone whether the answer is that the media are protected:
there has to be exactly one. -/
theorem createProtectionRequest_eq_protected_iff (hpermission : user.request = true)
    (h : protectionScope db data = .ok scope) :
    createProtectionRequest db user data now = .error alreadyProtectedError ↔
      (foundProtections db (data.target scope)).length = 1 := by
  rw [← alreadyProtected_eq h, List.length_eq_one_iff]
  constructor
  · intro herror
    have hresult (tables tables' : Tables) : ¬(if user.autoApprove then return tables
        else return tables' : Except ApiError Tables) = .error alreadyProtectedError := by
      split_ifs <;> exact fun h => nomatch h
    simp only [alreadyProtectedError] at hresult herror
    simp only [createProtectionRequest, bind_eq_error, check_eq_error, check_eq_ok,
      scalarOneOrNone_eq_error, h, hresult] at herror
    simp [hpermission] at herror
    obtain ⟨found, hfound, hsome⟩ := herror
    obtain ⟨p, rfl⟩ := Option.ne_none_iff_exists'.mp hsome
    exact ⟨p, scalarOneOrNone_eq_some.mp hfound⟩
  · rintro ⟨p, hp⟩
    rw [createProtectionRequest, check_of hpermission, h]
    simp [bind, Except.bind, hp, scalarOneOrNone, check, alreadyProtectedError]

/-- A request for media in the library is answered for the protections as it should be: it is refused
exactly when an active one covers the media, no refusal is due to an expired one, and however many
are found, their number is not an exception. -/
structure RefusesCovered (db : Tables) (user : User) (data : CreateProtectionRequest)
    (scope : SeriesScope) (now : Nat) : Prop where
  refused : createProtectionRequest db user data now = .error alreadyProtectedError ↔
    ∃ p ∈ db.protectedMedia, p.isActive now ∧ db.Covers p.target (data.target scope)
  expired : createProtectionRequest db user data now = .error alreadyProtectedError →
    createProtectionRequest (withoutExpired db now) user data now = .error alreadyProtectedError
  counted : scalarOneOrNone (alreadyProtected db (data.target scope)) ≠ .error .multipleResultsFound

theorem activeCoverings_ne_nil_iff {target : MediaTarget} : activeCoverings db now target ≠ [] ↔
    ∃ p ∈ db.protectedMedia, p.isActive now ∧ db.Covers p.target target := by
  rw [Ne, activeCoverings, List.filter_eq_nil_iff]
  push Not
  simp only [decide_eq_true_iff]

theorem foundProtections_withoutExpired (target : MediaTarget) :
    foundProtections (withoutExpired db now) target =
      (foundProtections db target).filter (·.isActive now) := by
  rw [foundProtections, foundProtections, withoutExpired, List.filter_filter, List.filter_filter]
  exact List.filter_congr fun p _ => Bool.and_comm _ _

/-- A request is answered as it should be exactly when the handler finds at most one protection,
none that has expired, and one where an active protection covers the media. -/
theorem refusesCovered_iff (hpermission : user.request = true)
    (hscope : protectionScope db data = .ok scope) : RefusesCovered db user data scope now ↔
      (foundProtections db (data.target scope)).length ≤ 1 ∧
      (∀ p ∈ foundProtections db (data.target scope), p.isActive now) ∧
      (activeCoverings db now (data.target scope) ≠ [] → foundProtections db (data.target scope) ≠ []) := by
  have hrefused : createProtectionRequest db user data now = .error alreadyProtectedError ↔
      (foundProtections db (data.target scope)).length = 1 :=
    createProtectionRequest_eq_protected_iff hpermission hscope
  have hexpired : createProtectionRequest (withoutExpired db now) user data now =
      .error alreadyProtectedError ↔
        (foundProtections (withoutExpired db now) (data.target scope)).length = 1 :=
    createProtectionRequest_eq_protected_iff hpermission hscope
  rw [foundProtections_withoutExpired] at hexpired
  have hcounted : scalarOneOrNone (foundProtections db (data.target scope)) =
      .error .multipleResultsFound ↔ 1 < (foundProtections db (data.target scope)).length := by
    rw [scalarOneOrNone_eq_error, and_iff_left rfl]
  constructor
  · intro h
    have hle : (foundProtections db (data.target scope)).length ≤ 1 := by
      by_contra hlt
      refine h.counted ?_
      rw [alreadyProtected_eq hscope, hcounted]
      exact Nat.lt_of_not_le hlt
    refine ⟨hle, fun p hp => ?_, fun hsome hnone => ?_⟩
    · have hone : (foundProtections db (data.target scope)).length = 1 :=
        Nat.le_antisymm hle (List.length_pos_of_mem hp)
      have hactive := hexpired.mp (h.expired (hrefused.mpr hone))
      rw [← hone, List.length_filter_eq_length_iff] at hactive
      exact hactive p hp
    · have hone := hrefused.mp (h.refused.mpr (activeCoverings_ne_nil_iff.mp hsome))
      rw [hnone] at hone
      cases hone
  · rintro ⟨hle, hactive, hsome⟩
    refine ⟨?_, fun h => ?_, ?_⟩
    · rw [hrefused, ← activeCoverings_ne_nil_iff]
      constructor
      · intro hone
        obtain ⟨p, hp⟩ := List.length_eq_one_iff.mp hone
        have hmem : p ∈ foundProtections db (data.target scope) := hp ▸ List.mem_singleton_self p
        obtain ⟨hrow, hfound⟩ := List.mem_filter.mp hmem
        refine List.ne_nil_of_mem (List.mem_filter.mpr ⟨hrow, decide_eq_true ?_⟩)
        exact ⟨hactive p hmem, (of_decide_eq_true hfound).2.1⟩
      · exact fun h => Nat.le_antisymm hle (List.length_pos_iff.mpr (hsome h))
    · rw [hexpired, List.filter_eq_self.mpr hactive]
      exact hrefused.mp h
    · rw [alreadyProtected_eq hscope, Ne, hcounted]
      exact Nat.not_lt.mpr hle

end

/-- A movie with one version that is protected as a whole. -/
def protectedMovie : Tables where
  movies := [{ id := 1, tmdbId := 1, title := "Movie" }]
  movieVersions := [{ id := 1, movieId := 1, service := .plex, serviceItemId := "1", serviceMediaId := "1" }]
  protectedMedia := [{ id := 1, mediaType := .movie, movieId := some 1 }]

/-- A request for the movie itself is refused. -/
theorem refusesCovered_protectedMovie :
    RefusesCovered protectedMovie { id := 2 } { mediaType := .movie, mediaId := 1 } {} 5 := by
  have hscope : protectionScope protectedMovie { mediaType := .movie, mediaId := 1 } = .ok {} := rfl
  have hpermission : ({ id := 2 } : User).request = true := rfl
  exact (refusesCovered_iff hpermission hscope).mpr (by decide)

/-- A request for the version of the protected movie is accepted. -/
theorem not_refusesCovered :
    ¬∀ (db : Tables) (user : User) (data : CreateProtectionRequest) (scope : SeriesScope) (now : Nat),
      user.request = true → protectionScope db data = .ok scope → RefusesCovered db user data scope now := by
  intro h
  have hrefused := (h protectedMovie { id := 2 } { mediaType := .movie, mediaId := 1, movieVersionId := some 1 }
    {} 5 rfl rfl).refused.mpr ⟨_, List.mem_singleton_self _, by decide⟩
  have haccepted : (createProtectionRequest protectedMovie { id := 2 }
      { mediaType := .movie, mediaId := 1, movieVersionId := some 1 } 5).isOk := by decide
  rw [hrefused] at haccepted
  cases haccepted

end MediaMasterr.Requests
