import MediaMasterr.Candidates.ArrTags
import MediaMasterr.Candidates.Collectors
import MediaMasterr.Candidates.SeerrSnapshots
import MediaMasterr.RuleEngine.Agreement
import Mathlib.Data.List.Dedup

/-! # The resolver of requests

`_activate_seerr_request_resolver_for_rules` and `SeerrRequestResolver`: what the rules see
of a snapshot. The requesters of a season are those that name it, when some request of the
series names a season, and all requesters of the series when none does. -/

namespace MediaMasterr.Candidates

open MediaMasterr.Foundations MediaMasterr.Database MediaMasterr.RuleEngine

/-! ## Activation -/

/-- The target scope, the TMDB id and the season number. -/
abbrev RequestTargetKey := String × Nat × Option Int

/-- The dictionaries of the resolver that are about requests. -/
structure SeerrRequestResolver where
  requesterIdsByKey : Dict (MediaType × Nat) (List Nat)
  latestActiveRequestAtByKey : Dict (MediaType × Nat) PyDateTime
  requesterIdsByTarget : Dict RequestTargetKey (List Nat)
  latestActiveRequestAtByTarget : Dict RequestTargetKey PyDateTime

/-- The media in the library, and the known episodes of its series. -/
structure RequestScope where
  movieTmdbIds : List Nat
  seriesTmdbIds : List Nat
  expectedBySeries : Dict Nat (List EpisodeCoordinate)

section Activation

variable (snapshot : SeerrSnapshot) (scope : RequestScope)

def RequestScope.keys : List (MediaType × Nat) :=
  scope.movieTmdbIds.map (MediaType.movie, ·) ++ scope.seriesTmdbIds.map (MediaType.series, ·)

/-- `season_numbers` of a series. -/
def RequestScope.seasonNumbers (tmdbId : Nat) : List Int :=
  ((scope.expectedBySeries.setAt tmdbId).map Prod.fst).dedup

/-- One round of the loop over the requesters of the snapshot. -/
def mergeRequesterIds (ids : Dict (MediaType × Nat) (List Nat))
    (entry : (MediaType × Nat) × List Nat) : Dict (MediaType × Nat) (List Nat) :=
  if entry.1.1 = .movie ∧ entry.1.2 ∉ scope.movieTmdbIds then ids
  else if entry.1.1 = .series ∧ entry.1.2 ∉ scope.seriesTmdbIds then ids
  else if entry.1 ∉ ids.keys then ids
  else ids.set entry.1 (ids.setAt entry.1 ∪ entry.2)

/-- `requester_ids_by_key` of the media in the library. -/
def scopedRequesterIds : Dict (MediaType × Nat) (List Nat) :=
  let noRequesters : Dict (MediaType × Nat) (List Nat) :=
    scope.keys.foldl (fun ids key => ids.set key []) ∅
  snapshot.requesterIdsByKey.entries.foldl (mergeRequesterIds scope) noRequesters

def scopedActiveDates : Dict (MediaType × Nat) PyDateTime :=
  let ids := scopedRequesterIds snapshot scope
  Dict.build (fun e => if e.1 ∈ ids.keys then some e.1 else none) Prod.snd
    snapshot.latestActiveRequestAtByKey.entries

def hasSeasonRequestData (tmdbId : Nat) : Bool :=
  snapshot.requesterIdsBySeriesSeason.keys.any (·.1 = tmdbId)

/-- `user_ids` of a season. -/
def seasonRequesterIds (tmdbId : Nat) (seasonNumber : Int) : List Nat :=
  if hasSeasonRequestData snapshot tmdbId then
    snapshot.requesterIdsBySeriesSeason.setAt (tmdbId, seasonNumber)
  else (scopedRequesterIds snapshot scope).setAt (.series, tmdbId)

/-- `active_at` of a season. -/
def seasonActiveAt (tmdbId : Nat) (seasonNumber : Int) : Option PyDateTime :=
  (snapshot.latestActiveRequestAtBySeriesSeason.get? (tmdbId, seasonNumber)).or
    (if hasSeasonRequestData snapshot tmdbId then none
    else (scopedActiveDates snapshot scope).get? (.series, tmdbId))

/-- The targets of the loops over series, seasons and scopes. -/
def RequestScope.targets : List (String × Nat × Int) :=
  scope.seriesTmdbIds.flatMap fun tmdbId => (scope.seasonNumbers tmdbId).flatMap fun season =>
    [targetSeason, targetEpisode].map fun targetScope => (targetScope, tmdbId, season)

def RequestTargetKey.ofTarget (target : String × Nat × Int) : RequestTargetKey :=
  (target.1, target.2.1, some target.2.2)

/-- The resolver that `_activate_seerr_request_resolver_for_rules` installs. -/
def activateSeerrRequestResolver : SeerrRequestResolver where
  requesterIdsByKey := scopedRequesterIds snapshot scope
  latestActiveRequestAtByKey := scopedActiveDates snapshot scope
  requesterIdsByTarget := scope.targets.foldl (fun d target =>
    d.set (.ofTarget target) (seasonRequesterIds snapshot scope target.2.1 target.2.2)) ∅
  latestActiveRequestAtByTarget := scope.targets.foldl (fun d target =>
    match seasonActiveAt snapshot scope target.2.1 target.2.2 with
    | none => d
    | some activeAt => d.set (.ofTarget target) activeAt) ∅

end Activation

/-! ## Resolution -/

namespace SeerrRequestResolver

variable (resolver : SeerrRequestResolver) (mediaType : MediaType) (tmdbId : Option Nat)
  (targetScope : Option String) (seasonNumber : Option Int)

/-- The key of a season or an episode target that the resolver knows. -/
def targetKey? (tmdbId : Nat) : Option RequestTargetKey :=
  if mediaType = .series then
    match targetScope with
    | none => none
    | some targetScope =>
      if targetScope ∈ [targetSeason, targetEpisode] ∧
          (targetScope, tmdbId, seasonNumber) ∈ resolver.requesterIdsByTarget.keys then
        some (targetScope, tmdbId, seasonNumber)
      else none
  else none

/-- `resolve_requester_ids`. -/
def resolveRequesterIds : Option (List Nat) :=
  match tmdbId with
  | none => none
  | some tmdbId =>
    let ids := match resolver.targetKey? mediaType targetScope seasonNumber tmdbId with
      | some key => resolver.requesterIdsByTarget.get? key
      | none => resolver.requesterIdsByKey.get? (mediaType, tmdbId)
    ids.map fun ids => ids.mergeSort fun a b => decide (a ≤ b)

/-- `resolve`. -/
def resolve : Option Bool :=
  (resolver.resolveRequesterIds mediaType tmdbId targetScope seasonNumber).map fun ids =>
    !ids.isEmpty

/-- `resolve_latest_active_request_at`. -/
def resolveLatestActiveRequestAt : Option PyDateTime :=
  match tmdbId with
  | none => none
  | some tmdbId =>
    match resolver.targetKey? mediaType targetScope seasonNumber tmdbId with
    | some key => resolver.latestActiveRequestAtByTarget.get? key
    | none => resolver.latestActiveRequestAtByKey.get? (mediaType, tmdbId)

variable {resolver mediaType targetScope seasonNumber} in
theorem mem_of_targetKey? {tmdbId : Nat} {key : RequestTargetKey}
    (h : resolver.targetKey? mediaType targetScope seasonNumber tmdbId = some key) :
    key ∈ resolver.requesterIdsByTarget.keys := by
  unfold targetKey? at h
  split_ifs at h
  cases targetScope with
  | none => cases h
  | some targetScope =>
    simp only at h
    split_ifs at h with hknown
    obtain rfl := Option.some.inj h
    exact hknown.2

end SeerrRequestResolver

/-! ## What the resolver holds -/

section Holds

variable {snapshot : SeerrSnapshot} {scope : RequestScope} {key : MediaType × Nat} {u : Nat}

theorem mem_scope_keys : key ∈ scope.keys ↔
    (key.1 = .movie ∧ key.2 ∈ scope.movieTmdbIds) ∨
      (key.1 = .series ∧ key.2 ∈ scope.seriesTmdbIds) := by
  obtain ⟨mediaType, tmdbId⟩ := key
  cases mediaType <;> simp [RequestScope.keys]

/-- A round adds the requesters of a key in the library. -/
theorem mergeRequesterIds_spec {ids : Dict (MediaType × Nat) (List Nat)}
    (hkeys : ∀ key, key ∈ ids.keys ↔ key ∈ scope.keys) (entry : (MediaType × Nat) × List Nat) :
    (∀ key, key ∈ (mergeRequesterIds scope ids entry).keys ↔ key ∈ scope.keys) ∧
      ∀ key u, u ∈ (mergeRequesterIds scope ids entry).setAt key ↔
        u ∈ ids.setAt key ∨ (key ∈ scope.keys ∧ key = entry.1 ∧ u ∈ entry.2) := by
  by_cases hentry : entry.1 ∈ scope.keys
  · have hmerge : mergeRequesterIds scope ids entry =
        ids.set entry.1 (ids.setAt entry.1 ∪ entry.2) := by
      rw [mergeRequesterIds, if_neg, if_neg, if_neg]
      · exact not_not.mpr ((hkeys _).mpr hentry)
      · rintro ⟨hseries, hout⟩
        rcases mem_scope_keys.mp hentry with ⟨hmovie, -⟩ | ⟨-, hin⟩
        · cases hseries.symm.trans hmovie
        · exact hout hin
      · rintro ⟨hmovie, hout⟩
        rcases mem_scope_keys.mp hentry with ⟨-, hin⟩ | ⟨hseries, -⟩
        · exact hout hin
        · cases hseries.symm.trans hmovie
    refine ⟨fun key => ?_, fun key u => ?_⟩
    · rw [hmerge, Dict.mem_keys_set, hkeys]
      exact ⟨fun h => h.elim (fun heq => heq ▸ hentry) id, .inr⟩
    · rw [hmerge, Dict.setAt, Dict.get?_set]
      by_cases hkey : key = entry.1
      · simp [hkey, hentry, Dict.setAt]
      · simp [hkey, Dict.setAt]
  · have hmerge : mergeRequesterIds scope ids entry = ids := by
      unfold mergeRequesterIds
      split_ifs with _ _ hin
      · rfl
      · rfl
      · exact absurd ((hkeys _).mp hin) hentry
      · rfl
    rw [hmerge]
    refine ⟨hkeys, fun key u => ⟨.inl, ?_⟩⟩
    rintro (h | ⟨hkey, heq, -⟩)
    · exact h
    · exact absurd (heq ▸ hkey) hentry

theorem scopedRequesterIds_spec (snapshot : SeerrSnapshot) (scope : RequestScope) :
    (∀ key, key ∈ (scopedRequesterIds snapshot scope).keys ↔ key ∈ scope.keys) ∧
      ∀ key u, u ∈ (scopedRequesterIds snapshot scope).setAt key ↔
        key ∈ scope.keys ∧ u ∈ snapshot.requesterIdsByKey.setAt key := by
  have hempty : ∀ (keys : List (MediaType × Nat)) (k : MediaType × Nat),
      (k ∈ (keys.foldl (fun (ids : Dict (MediaType × Nat) (List Nat)) key => ids.set key [])
        ∅).keys ↔ k ∈ keys) ∧
      (keys.foldl (fun (ids : Dict (MediaType × Nat) (List Nat)) key => ids.set key [])
        ∅).setAt k = [] := by
    intro keys k
    induction keys using List.reverseRecOn with
    | nil => simp [Dict.mem_keys_iff, Dict.setAt]
    | append_singleton keys key ih =>
      rw [List.foldl_concat, Dict.mem_keys_set, ih.1, List.mem_append, List.mem_singleton, or_comm,
        Dict.setAt, Dict.get?_set]
      refine ⟨Iff.rfl, ?_⟩
      split_ifs
      · rfl
      · exact ih.2
  have hloop : ∀ entries : List ((MediaType × Nat) × List Nat),
      let ids := entries.foldl (mergeRequesterIds scope)
        (scope.keys.foldl (fun (ids : Dict (MediaType × Nat) (List Nat)) key => ids.set key []) ∅)
      (∀ key, key ∈ ids.keys ↔ key ∈ scope.keys) ∧
        ∀ key u, u ∈ ids.setAt key ↔ key ∈ scope.keys ∧ ∃ us, (key, us) ∈ entries ∧ u ∈ us := by
    intro entries
    induction entries using List.reverseRecOn with
    | nil => exact ⟨fun key => (hempty _ key).1, fun key u => by simp [(hempty _ key).2]⟩
    | append_singleton entries entry ih =>
      obtain ⟨hkeys, hmem⟩ := mergeRequesterIds_spec ih.1 entry
      rw [List.foldl_concat]
      refine ⟨hkeys, fun key u => ?_⟩
      rw [hmem, ih.2, ← and_or_left]
      refine and_congr_right fun _ => ?_
      simp only [List.mem_append, List.mem_singleton, or_and_right, exists_or]
      refine or_congr_right ⟨?_, ?_⟩
      · rintro ⟨hkey, hu⟩
        exact ⟨entry.2, Prod.ext hkey rfl, hu⟩
      · rintro ⟨us, rfl, hu⟩
        exact ⟨rfl, hu⟩
  refine ⟨(hloop _).1, fun key u => ((hloop _).2 key u).trans (and_congr_right fun _ => ?_)⟩
  simp only [← Dict.get?_eq_some_iff, Dict.setAt]
  cases snapshot.requesterIdsByKey.get? key <;> simp

/-! ### Seasons and episodes -/

variable {target : String × Nat × Int} {targetKey : RequestTargetKey} {activeAt : PyDateTime}

theorem mem_targets : target ∈ scope.targets ↔ target.1 ∈ [targetSeason, targetEpisode] ∧
    target.2.1 ∈ scope.seriesTmdbIds ∧ target.2.2 ∈ scope.seasonNumbers target.2.1 := by
  obtain ⟨targetScope, tmdbId, season⟩ := target
  simp only [RequestScope.targets, List.mem_flatMap, List.mem_map, Prod.mk.injEq]
  constructor
  · rintro ⟨_, hseries, _, hseason, _, hscope, rfl, rfl, rfl⟩
    exact ⟨hscope, hseries, hseason⟩
  · rintro ⟨hscope, hseries, hseason⟩
    exact ⟨tmdbId, hseries, season, hseason, targetScope, hscope, rfl, rfl, rfl⟩

theorem ofTarget_injective {target' : String × Nat × Int}
    (h : RequestTargetKey.ofTarget target = .ofTarget target') : target = target' := by
  obtain ⟨a, b, c⟩ := target
  obtain ⟨a', b', c'⟩ := target'
  simp only [RequestTargetKey.ofTarget, Prod.mk.injEq, Option.some.injEq] at h
  obtain ⟨rfl, rfl, rfl⟩ := h
  rfl

theorem get?_requesterIdsByTarget (h : target ∈ scope.targets) :
    (activateSeerrRequestResolver snapshot scope).requesterIdsByTarget.get? (.ofTarget target) =
      some (seasonRequesterIds snapshot scope target.2.1 target.2.2) :=
  Dict.get?_foldl_set_of_mem h rfl fun _ _ heq => by rw [ofTarget_injective heq]

theorem exists_target (h : targetKey ∈
      (activateSeerrRequestResolver snapshot scope).requesterIdsByTarget.keys) :
    ∃ target ∈ scope.targets, targetKey = .ofTarget target := by
  by_contra hnone
  obtain ⟨ids, hids⟩ := Dict.mem_keys_iff.mp h
  have hget : (activateSeerrRequestResolver snapshot scope).requesterIdsByTarget.get? targetKey =
      none :=
    Dict.get?_foldl_set_eq_none fun target htarget heq => hnone ⟨target, htarget, heq.symm⟩
  cases hget.symm.trans hids

/-- A date of a target is the one of its season. -/
theorem seasonActiveAt_of_get? (h :
      (activateSeerrRequestResolver snapshot scope).latestActiveRequestAtByTarget.get?
        (.ofTarget target) = some activeAt) :
    seasonActiveAt snapshot scope target.2.1 target.2.2 = some activeAt := by
  have hloop : ∀ (targets : List (String × Nat × Int)) (activeAt : PyDateTime),
      (targets.foldl (fun (d : Dict RequestTargetKey PyDateTime) target =>
        match seasonActiveAt snapshot scope target.2.1 target.2.2 with
        | none => d
        | some activeAt => d.set (.ofTarget target) activeAt) ∅).get? (.ofTarget target) =
          some activeAt → seasonActiveAt snapshot scope target.2.1 target.2.2 = some activeAt := by
    intro targets
    induction targets using List.reverseRecOn with
    | nil => exact fun _ h => by cases h
    | append_singleton targets target' ih =>
      intro activeAt h
      rw [List.foldl_concat] at h
      cases hactive : seasonActiveAt snapshot scope target'.2.1 target'.2.2 with
      | none =>
        simp only [hactive] at h
        exact ih activeAt h
      | some activeAt' =>
        simp only [hactive, Dict.get?_set] at h
        split_ifs at h with hkey
        · rw [ofTarget_injective hkey, hactive, h]
        · exact ih activeAt h
  exact hloop scope.targets activeAt h

theorem of_scopedActiveDates (h : (scopedActiveDates snapshot scope).get? key = some activeAt) :
    key ∈ scope.keys ∧ snapshot.latestActiveRequestAtByKey.get? key = some activeAt := by
  obtain ⟨entry, hentry, hkey, hvalue⟩ := Dict.of_get?_build h
  split_ifs at hkey with hmem
  obtain rfl := Option.some.inj hkey
  exact ⟨((scopedRequesterIds_spec snapshot scope).1 _).mp hmem,
    hvalue ▸ Dict.get?_eq_some_iff.mpr hentry⟩

end Holds

/-! ## Active requests -/

section Active

variable {py : PythonRuntime} {users : List SeerrUser} {requests : List SeerrRequest}
  {scope : RequestScope} {activeAt : PyDateTime}

/-- A key with an active request has a requester. -/
theorem exists_requester_of_active {key : MediaType × Nat}
    (h : (refreshRequestSnapshot py users requests).latestActiveRequestAtByKey.get? key =
      some activeAt) :
    ∃ u, u ∈ (refreshRequestSnapshot py users requests).requesterIdsByKey.setAt key := by
  have hsome := Option.isSome_of_eq_some h
  rw [latestActiveRequestAtByKey_refresh, Dict.isSome_get?_foldl_raiseBy] at hsome
  obtain ⟨date, hdate⟩ := hsome
  obtain ⟨req, hreq, hevent⟩ := List.mem_flatMap.mp hdate
  unfold activeKeyDates at hevent
  split_ifs at hevent with hactive
  · obtain ⟨rfl, -⟩ := Prod.mk.inj (List.mem_singleton.mp hevent)
    refine ⟨req.requestedById, mem_requesterIdsByKey.mpr (List.mem_flatMap.mpr ⟨req, hreq, ?_⟩)⟩
    rw [keyUsers, if_pos (SeerrRequestStatus.counted_of_active _ hactive)]
    exact List.mem_singleton_self _
  · exact absurd hevent List.not_mem_nil

theorem exists_requester_of_activeSeason {key : Nat × Int}
    (h : (refreshRequestSnapshot py users requests).latestActiveRequestAtBySeriesSeason.get? key =
      some activeAt) :
    ∃ u, u ∈ (refreshRequestSnapshot py users requests).requesterIdsBySeriesSeason.setAt key := by
  have hsome := Option.isSome_of_eq_some h
  rw [latestActiveRequestAtBySeriesSeason_refresh, Dict.isSome_get?_foldl_raiseBy] at hsome
  obtain ⟨date, hdate⟩ := hsome
  obtain ⟨req, hreq, hevent⟩ := List.mem_flatMap.mp hdate
  unfold activeSeasonDates at hevent
  split_ifs at hevent with hactive
  · obtain ⟨season, hseason, heq⟩ := List.mem_map.mp hevent
    obtain ⟨rfl, -⟩ := Prod.mk.inj heq
    refine ⟨req.requestedById,
      mem_requesterIdsBySeriesSeason.mpr (List.mem_flatMap.mpr ⟨req, hreq, ?_⟩)⟩
    rw [seasonUsers, if_pos (SeerrRequestStatus.counted_of_active _ hactive)]
    exact List.mem_map_of_mem hseason
  · exact absurd hevent List.not_mem_nil

theorem hasSeasonRequestData_iff {snapshot : SeerrSnapshot} {tmdbId : Nat} :
    hasSeasonRequestData snapshot tmdbId = true ↔
      ∃ season, (tmdbId, season) ∈ snapshot.requesterIdsBySeriesSeason.keys := by
  simp [hasSeasonRequestData]

/-- A season with an active request has a requester. -/
theorem exists_seasonRequester {tmdbId : Nat} {season : Int}
    (h : seasonActiveAt (refreshRequestSnapshot py users requests) scope tmdbId season =
      some activeAt) :
    ∃ u, u ∈ seasonRequesterIds (refreshRequestSnapshot py users requests) scope tmdbId season := by
  rw [seasonActiveAt, Option.or_eq_some_iff] at h
  rcases h with hseason | ⟨-, hseries⟩
  · obtain ⟨u, hu⟩ := exists_requester_of_activeSeason hseason
    rw [seasonRequesterIds, if_pos (hasSeasonRequestData_iff.mpr
      ⟨season, Dict.mem_keys_of_mem_setAt hu⟩)]
    exact ⟨u, hu⟩
  · split_ifs at hseries with hdata
    obtain ⟨hkey, hactive⟩ := of_scopedActiveDates hseries
    obtain ⟨u, hu⟩ := exists_requester_of_active hactive
    rw [seasonRequesterIds, if_neg hdata]
    exact ⟨u, ((scopedRequesterIds_spec _ scope).2 _ _).mpr ⟨hkey, hu⟩⟩

/-- A target with an active request is requested. -/
theorem resolve_of_resolveLatestActiveRequestAt {mediaType : MediaType} {tmdbId : Option Nat}
    {targetScope : Option String} {season : Option Int}
    (h : (activateSeerrRequestResolver (refreshRequestSnapshot py users requests)
      scope).resolveLatestActiveRequestAt mediaType tmdbId targetScope season = some activeAt) :
    (activateSeerrRequestResolver (refreshRequestSnapshot py users requests) scope).resolve
      mediaType tmdbId targetScope season = some true := by
  have hsorted (ids : List Nat) {u : Nat} (hu : u ∈ ids) :
      (!(ids.mergeSort fun a b => decide (a ≤ b)).isEmpty) = true := by
    rw [Bool.not_eq_true', List.isEmpty_eq_false_iff]
    exact List.ne_nil_of_mem (List.mem_mergeSort.mpr hu)
  cases tmdbId with
  | none => cases h
  | some tmdbId =>
    simp only [SeerrRequestResolver.resolveLatestActiveRequestAt] at h
    simp only [SeerrRequestResolver.resolve, SeerrRequestResolver.resolveRequesterIds]
    cases htarget : (activateSeerrRequestResolver (refreshRequestSnapshot py users requests)
        scope).targetKey? mediaType targetScope season tmdbId with
    | none =>
      rw [htarget] at h
      obtain ⟨hkey, hactive⟩ := of_scopedActiveDates h
      obtain ⟨u, hu⟩ := exists_requester_of_active hactive
      have hids := ((scopedRequesterIds_spec (refreshRequestSnapshot py users requests)
        scope).2 _ _).mpr ⟨hkey, hu⟩
      obtain ⟨ids, hget⟩ := Dict.mem_keys_iff.mp (Dict.mem_keys_of_mem_setAt hids)
      rw [Dict.setAt, hget] at hids
      have hget' : (activateSeerrRequestResolver (refreshRequestSnapshot py users requests)
          scope).requesterIdsByKey.get? (mediaType, tmdbId) = some ids := hget
      simp only [hget', Option.map_some, hsorted ids hids]
    | some key =>
      rw [htarget] at h
      obtain ⟨target, hmem, rfl⟩ := exists_target (SeerrRequestResolver.mem_of_targetKey? htarget)
      obtain ⟨u, hu⟩ := exists_seasonRequester (seasonActiveAt_of_get? h)
      simp only [get?_requesterIdsByTarget hmem, Option.map_some, hsorted _ hu]

/-- A snapshot does not depend on the order of the requests, lists the users that have dates, and
gives a resolver in which a target with an active request is requested. -/
structure SnapshotLaws (py : PythonRuntime) (users : List SeerrUser)
    (requests : List SeerrRequest) : Prop where
  order : ∀ requests', requests.Perm requests' →
    SameSnapshot (refreshRequestSnapshot py users requests)
      (refreshRequestSnapshot py users requests')
  coherent : Coherent (refreshRequestSnapshot py users requests)
  requested : ∀ scope mediaType tmdbId targetScope season activeAt,
    (activateSeerrRequestResolver (refreshRequestSnapshot py users requests)
        scope).resolveLatestActiveRequestAt mediaType tmdbId targetScope season = some activeAt →
      (activateSeerrRequestResolver (refreshRequestSnapshot py users requests) scope).resolve
        mediaType tmdbId targetScope season = some true

theorem snapshotLaws (py : PythonRuntime) (users : List SeerrUser) (requests : List SeerrRequest) :
    SnapshotLaws py users requests where
  order _ h := sameSnapshot_of_perm h
  coherent := coherent_refresh
  requested _ _ _ _ _ _ h := resolve_of_resolveLatestActiveRequestAt h

end Active

/-! ## Whole-series requests -/

section WholeSeries

variable (requests : List SeerrRequest) (tmdbId : Nat) (season : Int) (u : Nat)

/-- The user has a counted request of the series that satisfies the condition. -/
def HasSeriesRequest (asked : SeerrRequest → Prop) : Prop :=
  ∃ req ∈ requests, req.status.counted = true ∧ req.mediaType = .series ∧ req.tmdbId = tmdbId ∧
    req.requestedById = u ∧ asked req

/-- The request lists the season. -/
def Lists (req : SeerrRequest) : Prop := season ∈ req.requestedSeasons.map (·.seasonNumber)

/-- The user asked for the season, or for the whole series. -/
def AskedFor : Prop :=
  HasSeriesRequest requests tmdbId u fun req =>
    Lists season req ∨ req.requestedSeasons = []

/-- A counted request of the user under the TMDB id lists the season, whatever its media type. -/
def ListedFor : Prop :=
  ∃ req ∈ requests, req.status.counted = true ∧ req.tmdbId = tmdbId ∧ req.requestedById = u ∧
    Lists season req

/-- No counted request under the TMDB id lists a season, or those who asked for the whole series
are among those who listed the season, who all asked for it. -/
def SeasonsAgree : Prop :=
  (∀ req ∈ requests, req.status.counted = true → req.tmdbId = tmdbId →
    req.requestedSeasons = []) ∨
  ∀ u, (HasSeriesRequest requests tmdbId u (fun req => req.requestedSeasons = []) →
      ListedFor requests tmdbId season u) ∧
    (ListedFor requests tmdbId season u → AskedFor requests tmdbId season u)

/-- The requested seasons of a requester hold the season. -/
def WatchCovers (snapshot : SeerrSnapshot) (expected : List EpisodeCoordinate) : Prop :=
  ∃ requestedAt, (u, requestedAt) ∈
      (requesterTimes snapshot.toSeerrRequestSnapshot (.series, tmdbId)).entries ∧
    ((requestedSeasons snapshot.toSeerrRequestSnapshot (.series, tmdbId) expected
      (u, requestedAt)).get? season).isSome

end WholeSeries

section Coverage

variable {py : PythonRuntime} {users : List SeerrUser} {requests : List SeerrRequest}
  {scope : RequestScope} {tmdbId u : Nat} {season : Int}

variable (py users) in
theorem mem_requesterIdsBySeriesSeason_iff :
    u ∈ (refreshRequestSnapshot py users requests).requesterIdsBySeriesSeason.setAt
      (tmdbId, season) ↔ ListedFor requests tmdbId season u := by
  rw [mem_requesterIdsBySeriesSeason, List.mem_flatMap]
  constructor
  · rintro ⟨req, hreq, hevent⟩
    unfold seasonUsers at hevent
    split_ifs at hevent with hcounted
    · obtain ⟨listed, hlisted, heq⟩ := List.mem_map.mp hevent
      simp only [Prod.mk.injEq] at heq
      obtain ⟨⟨rfl, rfl⟩, rfl⟩ := heq
      exact ⟨req, hreq, hcounted, rfl, rfl, List.mem_map_of_mem hlisted⟩
    · exact absurd hevent List.not_mem_nil
  · rintro ⟨req, hreq, hcounted, rfl, rfl, hlists⟩
    obtain ⟨listed, hlisted, rfl⟩ := List.mem_map.mp hlists
    refine ⟨req, hreq, ?_⟩
    rw [seasonUsers, if_pos hcounted]
    exact List.mem_map_of_mem hlisted

variable (py users) in
theorem mem_requesterIdsByKey_iff :
    u ∈ (refreshRequestSnapshot py users requests).requesterIdsByKey.setAt (.series, tmdbId) ↔
      HasSeriesRequest requests tmdbId u fun _ => True := by
  rw [mem_requesterIdsByKey, List.mem_flatMap]
  constructor
  · rintro ⟨req, hreq, hevent⟩
    unfold keyUsers at hevent
    split_ifs at hevent with hcounted
    · simp only [List.mem_singleton, Prod.mk.injEq] at hevent
      obtain ⟨⟨hseries, rfl⟩, rfl⟩ := hevent
      exact ⟨req, hreq, hcounted, hseries.symm, rfl, rfl, trivial⟩
    · exact absurd hevent List.not_mem_nil
  · rintro ⟨req, hreq, hcounted, hseries, rfl, rfl, -⟩
    refine ⟨req, hreq, ?_⟩
    rw [keyUsers, if_pos hcounted, hseries]
    exact List.mem_singleton_self _

/-- Some counted request under the TMDB id lists a season. -/
theorem hasSeasonRequestData_refresh :
    hasSeasonRequestData (refreshRequestSnapshot py users requests) tmdbId = true ↔
      ∃ u season, ListedFor requests tmdbId season u := by
  rw [hasSeasonRequestData_iff]
  constructor
  · rintro ⟨season, hkey⟩
    rw [requesterIdsBySeriesSeason_refresh, Dict.mem_keys_foldl_addTo] at hkey
    rcases hkey with hkey | hkey
    · obtain ⟨e, he, heq⟩ := List.mem_map.mp hkey
      refine ⟨e.2, season, (mem_requesterIdsBySeriesSeason_iff py users).mp ?_⟩
      rw [mem_requesterIdsBySeriesSeason, ← heq]
      exact he
    · simp [Dict.mem_keys_iff] at hkey
  · rintro ⟨u, season, hlisted⟩
    have hmem := (mem_requesterIdsBySeriesSeason_iff py users).mpr hlisted
    exact ⟨season, Dict.mem_keys_of_mem_setAt hmem⟩

/-- The requesters of a season of a series in the library. -/
theorem mem_seasonRequesterIds (hseries : tmdbId ∈ scope.seriesTmdbIds) :
    u ∈ seasonRequesterIds (refreshRequestSnapshot py users requests) scope tmdbId season ↔
      ListedFor requests tmdbId season u ∨
        (¬∃ u season, ListedFor requests tmdbId season u) ∧
          HasSeriesRequest requests tmdbId u fun _ => True := by
  have hkey : (MediaType.series, tmdbId) ∈ scope.keys := mem_scope_keys.mpr (.inr ⟨rfl, hseries⟩)
  rw [seasonRequesterIds]
  split_ifs with hdata
  · rw [hasSeasonRequestData_refresh] at hdata
    rw [mem_requesterIdsBySeriesSeason_iff]
    exact ⟨.inl, fun h => h.elim id fun h => absurd hdata h.1⟩
  · rw [hasSeasonRequestData_refresh] at hdata
    rw [(scopedRequesterIds_spec _ scope).2, mem_requesterIdsByKey_iff py users]
    exact ⟨fun h => .inr ⟨hdata, h.2⟩, fun h => ⟨hkey, h.elim (fun h => absurd ⟨u, season, h⟩ hdata)
      fun h => h.2⟩⟩

/-- The requested seasons of a user hold what he listed, or all seasons when he listed none. -/
theorem isSome_requestedSeasons {expected : List EpisodeCoordinate}
    (hseason : season ∈ expected.map Prod.fst) (requestedAt : PyDateTime) :
    ((requestedSeasons (refreshRequestSnapshot py users requests).toSeerrRequestSnapshot
      (.series, tmdbId) expected (u, requestedAt)).get? season).isSome ↔
        ListedFor requests tmdbId season u ∨ ∀ season, ¬ListedFor requests tmdbId season u := by
  have hnamed (n : Int) : (∃ date, (n, date) ∈
      (refreshRequestSnapshot py users requests).latestRequestAtBySeriesSeasonUser.entries.filterMap
        fun e => if e.1.1 = tmdbId then (e.2.get? u).map (e.1.2, ·) else none) ↔
          ListedFor requests tmdbId n u := by
    rw [← mem_requesterIdsBySeriesSeason_iff py users, coherent_refresh.season_users, Dict.getIn,
      Option.isSome_iff_exists]
    refine exists_congr fun date => ?_
    rw [List.mem_filterMap]
    constructor
    · rintro ⟨⟨⟨t, m⟩, byUser⟩, hentry, hdate⟩
      split_ifs at hdate with ht
      · obtain ⟨date', hget, heq⟩ := Option.map_eq_some_iff.mp hdate
        simp only [Prod.mk.injEq] at heq ht
        obtain ⟨rfl, rfl⟩ := heq
        subst ht
        rw [Dict.get?_eq_some_iff.mpr hentry]
        exact hget
    · intro hget
      cases houter : (refreshRequestSnapshot py users
          requests).latestRequestAtBySeriesSeasonUser.get? (tmdbId, n) with
      | none =>
        rw [houter] at hget
        cases hget
      | some byUser =>
        rw [houter, Option.getD_some] at hget
        refine ⟨_, Dict.get?_eq_some_iff.mp houter, ?_⟩
        simp [hget]
  rw [requestedSeasons]
  dsimp only
  split_ifs with hempty
  · have hnone : ∀ n, ¬ListedFor requests tmdbId n u := by
      intro n hn
      obtain ⟨date, hdate⟩ := (hnamed n).mpr hn
      rw [hempty] at hdate
      exact absurd hdate List.not_mem_nil
    have hkey : season ∈ (expectedBySeason expected).keys := by
      rw [expectedBySeason, Dict.mem_keys_foldl_addTo, List.map_map]
      exact .inl hseason
    refine iff_of_true ?_ (.inr hnone)
    rw [Option.isSome_iff_exists, ← Dict.mem_keys_iff, Dict.mem_keys_build]
    exact ⟨season, hkey, rfl⟩
  · rw [Option.isSome_iff_exists, ← Dict.mem_keys_iff, Dict.mem_keys_build]
    constructor
    · rintro ⟨⟨n, date⟩, hmem, heq⟩
      obtain rfl := Option.some.inj heq
      exact .inl ((hnamed _).mp ⟨date, hmem⟩)
    · rintro (hlisted | hnone)
      · obtain ⟨date, hmem⟩ := (hnamed season).mpr hlisted
        exact ⟨_, hmem, rfl⟩
      · obtain ⟨⟨n, date⟩, hmem⟩ := List.exists_mem_of_ne_nil _ hempty
        exact absurd ((hnamed n).mp ⟨date, hmem⟩) (hnone n)

variable (py) in
theorem watchCovers_iff {expected : List EpisodeCoordinate}
    (hseason : season ∈ expected.map Prod.fst) :
    WatchCovers tmdbId season u (refreshRequestSnapshot py users requests) expected ↔
      HasSeriesRequest requests tmdbId u (fun _ => True) ∧
        (ListedFor requests tmdbId season u ∨ ∀ n, ¬ListedFor requests tmdbId n u) := by
  simp only [WatchCovers, isSome_requestedSeasons hseason, exists_and_right]
  refine and_congr_left fun _ => ?_
  rw [← mem_requesterIdsByKey_iff py users, coherent_refresh.key_users, Dict.getIn,
    Option.isSome_iff_exists]
  simp only [← Dict.get?_eq_some_iff]
  rfl

theorem HasSeriesRequest.imp {asked asked' : SeerrRequest → Prop}
    (h : HasSeriesRequest requests tmdbId u asked) (himp : ∀ req ∈ requests,
      req.status.counted = true → req.tmdbId = tmdbId → req.requestedById = u → asked req →
        asked' req) : HasSeriesRequest requests tmdbId u asked' := by
  obtain ⟨req, hreq, hcounted, hseries, htmdb, huser, hasked⟩ := h
  exact ⟨req, hreq, hcounted, hseries, htmdb, huser, himp req hreq hcounted htmdb huser hasked⟩

/-- A user who listed no season asked for the whole series. -/
theorem requestedSeasons_eq_nil (hnone : ∀ n, ¬ListedFor requests tmdbId n u) {req : SeerrRequest}
    (hreq : req ∈ requests) (hcounted : req.status.counted = true) (htmdb : req.tmdbId = tmdbId)
    (huser : req.requestedById = u) : req.requestedSeasons = [] := by
  cases hseasons : req.requestedSeasons with
  | nil => rfl
  | cons first rest =>
    refine absurd ⟨req, hreq, hcounted, htmdb, huser, ?_⟩ (hnone first.seasonNumber)
    rw [Lists, hseasons]
    exact List.mem_cons_self

theorem AskedFor.hasSeriesRequest (h : AskedFor requests tmdbId season u) :
    HasSeriesRequest requests tmdbId u fun _ => True :=
  HasSeriesRequest.imp h fun _ _ _ _ _ _ => trivial

/-- The requesters of a season and of its episodes are the users who asked for the season or for
the whole series, as in the watch state. -/
def RespectsWholeSeries (py : PythonRuntime) (users : List SeerrUser)
    (requests : List SeerrRequest) (scope : RequestScope) (tmdbId : Nat) (season : Int) : Prop :=
  ∀ targetScope ∈ [targetSeason, targetEpisode], ∃ ids,
    (activateSeerrRequestResolver (refreshRequestSnapshot py users requests)
      scope).resolveRequesterIds .series (some tmdbId) (some targetScope) (some season) =
        some ids ∧
    ∀ u, (u ∈ ids ↔ AskedFor requests tmdbId season u) ∧
      (AskedFor requests tmdbId season u ↔
        WatchCovers tmdbId season u (refreshRequestSnapshot py users requests)
          (scope.expectedBySeries.setAt tmdbId))

/-- The resolver finds a known season and its episodes under their own targets. -/
theorem resolveRequesterIds_season {targetScope : String} (hseries : tmdbId ∈ scope.seriesTmdbIds)
    (hseason : season ∈ scope.seasonNumbers tmdbId)
    (hscope : targetScope ∈ [targetSeason, targetEpisode]) :
    (activateSeerrRequestResolver (refreshRequestSnapshot py users requests)
      scope).resolveRequesterIds .series (some tmdbId) (some targetScope) (some season) =
        some ((seasonRequesterIds (refreshRequestSnapshot py users requests) scope tmdbId
          season).mergeSort fun a b => decide (a ≤ b)) := by
  have htarget : (targetScope, tmdbId, season) ∈ scope.targets :=
    mem_targets.mpr ⟨hscope, hseries, hseason⟩
  have hget : (activateSeerrRequestResolver (refreshRequestSnapshot py users requests)
      scope).requesterIdsByTarget.get? (.ofTarget (targetScope, tmdbId, season)) = _ :=
    get?_requesterIdsByTarget htarget
  have hknown : (targetScope, tmdbId, some season) ∈ (activateSeerrRequestResolver
      (refreshRequestSnapshot py users requests) scope).requesterIdsByTarget.keys :=
    Dict.mem_keys_iff.mpr ⟨_, hget⟩
  have hkey : (activateSeerrRequestResolver (refreshRequestSnapshot py users requests)
      scope).targetKey? .series (some targetScope) (some season) tmdbId =
        some (.ofTarget (targetScope, tmdbId, season)) := by
    rw [SeerrRequestResolver.targetKey?, if_pos rfl]
    exact if_pos ⟨hscope, hknown⟩
  simp only [SeerrRequestResolver.resolveRequesterIds, hkey, hget, Option.map_some]

/-- Nobody lists a season: the whole-series requests are all the requests of the series. -/
theorem askedFor_of_not_listed (hdata : ¬∃ u season, ListedFor requests tmdbId season u) :
    AskedFor requests tmdbId season u ↔ HasSeriesRequest requests tmdbId u fun _ => True := by
  refine ⟨AskedFor.hasSeriesRequest, fun h => ?_⟩
  refine h.imp fun req hreq hcounted htmdb huser _ => .inr ?_
  exact requestedSeasons_eq_nil (fun n hn => hdata ⟨u, n, hn⟩) hreq hcounted htmdb huser

/-- The requesters of a known season respect whole-series requests exactly when the users who
listed it are those who asked for it, or nobody lists a season. -/
theorem respectsWholeSeries_iff (hseries : tmdbId ∈ scope.seriesTmdbIds)
    (hseason : season ∈ scope.seasonNumbers tmdbId) :
    RespectsWholeSeries py users requests scope tmdbId season ↔
      SeasonsAgree requests tmdbId season := by
  have hexpected : season ∈ (scope.expectedBySeries.setAt tmdbId).map Prod.fst := by
    rw [RequestScope.seasonNumbers] at hseason
    exact List.mem_dedup.mp hseason
  -- Both scopes give the requesters of the season, and the watch state its own condition.
  have hiff : RespectsWholeSeries py users requests scope tmdbId season ↔
      ∀ u, ((ListedFor requests tmdbId season u ∨
          (¬∃ u season, ListedFor requests tmdbId season u) ∧
            HasSeriesRequest requests tmdbId u fun _ => True) ↔
          AskedFor requests tmdbId season u) ∧
        (AskedFor requests tmdbId season u ↔
          HasSeriesRequest requests tmdbId u (fun _ => True) ∧
            (ListedFor requests tmdbId season u ∨ ∀ n, ¬ListedFor requests tmdbId n u)) := by
    constructor
    · intro h u
      obtain ⟨ids, hids, hmem⟩ := h targetSeason (List.mem_cons_self)
      rw [resolveRequesterIds_season hseries hseason List.mem_cons_self] at hids
      obtain rfl := Option.some.inj hids
      rw [← watchCovers_iff py hexpected, ← mem_seasonRequesterIds hseries]
      simpa only [List.mem_mergeSort] using hmem u
    · intro h targetScope hscope
      refine ⟨_, resolveRequesterIds_season hseries hseason hscope, fun u => ?_⟩
      rw [List.mem_mergeSort, mem_seasonRequesterIds hseries, watchCovers_iff py hexpected]
      exact h u
  rw [hiff]
  by_cases hdata : ∃ u season, ListedFor requests tmdbId season u
  · constructor
    · intro h
      refine .inr fun u => ⟨fun hwhole => ?_, fun hlisted => (h u).1.mp (.inl hlisted)⟩
      refine ((h u).1.mpr (hwhole.imp fun _ _ _ _ _ hnil => .inr hnil)).elim id fun hnone => ?_
      exact absurd hdata hnone.1
    · rintro (hnil | hagree) u
      · obtain ⟨v, n, req, hreq, hcounted, htmdb, -, hlists⟩ := hdata
        rw [Lists, hnil req hreq hcounted htmdb] at hlists
        exact absurd hlists List.not_mem_nil
      · have hlisted : AskedFor requests tmdbId season u → ListedFor requests tmdbId season u := by
          rintro ⟨req, hreq, hcounted, hkind, htmdb, huser, hlists | hnil⟩
          · exact ⟨req, hreq, hcounted, htmdb, huser, hlists⟩
          · exact (hagree u).1 ⟨req, hreq, hcounted, hkind, htmdb, huser, hnil⟩
        refine ⟨⟨fun h => h.elim (hagree u).2 fun h => absurd hdata h.1, fun h => .inl (hlisted h)⟩,
          fun h => ⟨h.hasSeriesRequest, .inl (hlisted h)⟩, ?_⟩
        rintro ⟨hany, h⟩
        refine h.elim (hagree u).2 fun hnone => ?_
        exact hany.imp fun req hreq hcounted htmdb huser _ =>
          .inr (requestedSeasons_eq_nil hnone hreq hcounted htmdb huser)
  · have hnone (n : Int) (u : Nat) : ¬ListedFor requests tmdbId n u := fun h => hdata ⟨u, n, h⟩
    refine iff_of_true (fun u => ?_) (.inl fun req hreq hcounted htmdb => ?_)
    · rw [askedFor_of_not_listed hdata]
      exact ⟨⟨fun h => h.elim (absurd · (hnone season u)) And.right, fun h => .inr ⟨hdata, h⟩⟩,
        fun h => ⟨h, .inr fun n => hnone n u⟩, And.left⟩
    · exact requestedSeasons_eq_nil (fun n => hnone n _) hreq hcounted htmdb rfl

/-- Season 1 of a series with two seasons, that one user lists. -/
theorem respectsWholeSeries_iff_listed :
    RespectsWholeSeries PythonRuntime.plainRuntime []
        [{ status := .approved, mediaType := .series, tmdbId := 7, createdAt := ⟨10, some 0⟩,
           requestedById := 2, requestedSeasons := [⟨1, ⟨10, some 0⟩⟩] }]
        ⟨[], [7], Dict.set ∅ 7 [(1, 1), (2, 1)]⟩ 7 1 ↔
      SeasonsAgree
        [{ status := .approved, mediaType := .series, tmdbId := 7, createdAt := ⟨10, some 0⟩,
           requestedById := 2, requestedSeasons := [⟨1, ⟨10, some 0⟩⟩] }] 7 1 :=
  respectsWholeSeries_iff (by decide) (by decide)

/-- User 1 asked for the whole series and user 2 for its first season. -/
def mixedRequests : List SeerrRequest :=
  [{ status := .approved, mediaType := .series, tmdbId := 7, createdAt := ⟨10, some 0⟩,
     requestedById := 1 },
   { status := .approved, mediaType := .series, tmdbId := 7, createdAt := ⟨20, some 0⟩,
     requestedById := 2, requestedSeasons := [⟨1, ⟨20, some 0⟩⟩] }]

/-- The first season loses the user who asked for the whole series. -/
theorem not_respectsWholeSeries_mixed :
    ¬RespectsWholeSeries PythonRuntime.plainRuntime [] mixedRequests
      ⟨[], [7], Dict.set ∅ 7 [(1, 1), (2, 1)]⟩ 7 1 := by
  intro h
  obtain ⟨ids, hids, hmem⟩ := h targetSeason List.mem_cons_self
  have honly : (activateSeerrRequestResolver (refreshRequestSnapshot PythonRuntime.plainRuntime []
      mixedRequests) ⟨[], [7], Dict.set ∅ 7 [(1, 1), (2, 1)]⟩).resolveRequesterIds .series (some 7)
        (some targetSeason) (some 1) = some [2] := by
    decide +kernel
  obtain rfl := Option.some.inj (hids.symm.trans honly)
  have hasked : AskedFor mixedRequests 7 1 1 :=
    ⟨_, List.mem_cons_self, rfl, rfl, rfl, rfl, .inr rfl⟩
  exact absurd ((hmem 1).1.mpr hasked) (by decide)

end Coverage

end MediaMasterr.Candidates
