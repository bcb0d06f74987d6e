import MediaMasterr.Candidates.SonarrRuleData
import MediaMasterr.Foundations.Maxima

/-! # What requesters watched

`_compute_requester_tv_watch_targets_for_key`: which episodes of a series some
requester watched after his request, which seasons one requester watched whole, and
whether one requester watched all regular seasons that he asked for. -/

namespace MediaMasterr.Candidates

open MediaMasterr.Foundations MediaMasterr.Database MediaMasterr.RuleEngine

/-! ## Identities -/

structure SeerrRequestSnapshot where
  latestRequestAtByKeyUser : Dict (MediaType × Nat) (Dict Nat PyDateTime) := ∅
  requesterIdentityKeysByUserId : Dict Nat (List String) := ∅
  latestRequestAtBySeriesSeasonUser : Dict (Nat × Int) (Dict Nat PyDateTime) := ∅

inductive RawService where
  | member (service : Service)
  | text (value : String)
  deriving DecidableEq, Repr

/-- A mapping of the settings; an id is kept as `int` reads it, `none` where that raises. -/
structure RequesterMapping where
  seerrUserId : Option (Option Int) := none
  seerrUsername : Option String := none
  serviceType : Option RawService := none
  mediaUserKey : Option String := none
  deriving DecidableEq, Repr

/-- The members of the enumeration, for the lookup by value. -/
def serviceMembers : List Service :=
  [.sonarr, .radarr, .qbittorrent, .jellyfin, .emby, .plex, .seerr, .tautulli, .mdblist, .omdb]

/-- `_extract_mapping_service`. -/
def mappingService (mapping : RequesterMapping) : Option Service :=
  match mapping.serviceType with
  | none => none
  | some (.member service) => some service
  | some (.text value) => serviceMembers.find? (·.value = value)

section

variable (lower : String → String)

/-- `_normalize_watch_key`. -/
def normalizeWatchKey (value : Option String) : Option String :=
  let normalized := lower (PythonText.strip (value.getD ""))
  if normalized = "" then none else some normalized

/-- `_extract_requester_mapping_identity`. -/
def mappingIdentity (requesterId : Nat) (identityKeys : List String)
    (mapping : RequesterMapping) : Bool :=
  match mapping.seerrUserId with
  | some id => id = some (requesterId : Int)
  | none => (normalizeWatchKey lower mapping.seerrUsername).any (· ∈ identityKeys)

/-- `_build_watch_keys_for_requester`. -/
def buildWatchKeys (requesterId : Nat) (identityKeys : List String) (target : Service)
    (mappings : List RequesterMapping) : List String :=
  let matching := mappings.filter fun mapping =>
    mappingIdentity lower requesterId identityKeys mapping ∧
      (mappingService mapping).all (· = target)
  (matching.filterMap fun mapping => normalizeWatchKey lower mapping.mediaUserKey).foldl
    (fun keys key => keys.insert key) [] ∪ identityKeys

end

/-! ## Watched targets -/

/-- A season and an episode number. -/
abbrev EpisodeCoordinate := Int × Int

/-- The target type, the TMDB id, the season and the episode number. -/
abbrev WatchTargetKey := String × Nat × Option Int × Option Int

/-- The dates at which the users of a service watched the episodes of the series. -/
abbrev WatchData := Dict Service (Dict String (Dict EpisodeCoordinate PyDateTime))

section

variable (lower : String → String) (snapshot : SeerrRequestSnapshot) (watch : WatchData)
variable (mappings : List RequesterMapping) (mediaKey : MediaType × Nat)
variable (expected : List EpisodeCoordinate)

def episodeTarget (c : EpisodeCoordinate) : WatchTargetKey :=
  ("episode", mediaKey.2, some c.1, some c.2)

def seasonTarget (season : Int) : WatchTargetKey := ("season", mediaKey.2, some season, none)

def seriesTarget : WatchTargetKey := ("series", mediaKey.2, none, none)

/-- `expected_by_season`. -/
def expectedBySeason : Dict Int (List EpisodeCoordinate) :=
  (expected.map fun c => (c.1, c)).foldl (fun sets pair => sets.addTo pair.1 pair.2) ∅

/-- The requesters of the series, with the times of their requests. -/
def requesterTimes : Dict Nat PyDateTime := (snapshot.latestRequestAtByKeyUser.get? mediaKey).getD ∅

/-- `requested_seasons`: a requester who named no season asked for all of them. -/
def requestedSeasons (requester : Nat × PyDateTime) : Dict Int PyDateTime :=
  let named := snapshot.latestRequestAtBySeriesSeasonUser.entries.filterMap fun e =>
    if e.1.1 = mediaKey.2 then (e.2.get? requester.1).map (e.1.2, ·) else none
  if named = [] then
    Dict.build some (fun _ => requester.2) (expectedBySeason expected).keys
  else Dict.build (fun e : Int × PyDateTime => some e.1) Prod.snd named

/-- `requester_identity_keys`: without names the id stands for the requester. -/
def identityKeys (requesterId : Nat) : List String :=
  let keys := (snapshot.requesterIdentityKeysByUserId.get? requesterId).getD []
  if keys = [] then [toString requesterId] else keys

/-- The watch events under the keys of a requester, in the order in which they are read. -/
def watchEvents (requesterId : Nat) : List (EpisodeCoordinate × Int) :=
  watch.entries.flatMap fun byUser =>
    (buildWatchKeys lower requesterId (identityKeys snapshot requesterId) byUser.1 mappings).flatMap
      fun key => ((byUser.2.get? key).getD ∅).entries.map fun e => (e.1, utcMicros e.2)

/-- `watched_at_by_coordinate`. -/
def watchedAtByCoordinate (requesterId : Nat) : Dict EpisodeCoordinate Int :=
  (watchEvents lower snapshot watch mappings requesterId).foldl
    (fun d e => d.raiseAt e.1 e.2) ∅

/-- `watched`. -/
def watchedBy (requester : Nat × PyDateTime) : List EpisodeCoordinate :=
  ((watchedAtByCoordinate lower snapshot watch mappings requester.1).entries.filter fun e =>
    ((requestedSeasons snapshot mediaKey expected requester).get? e.1.1).any
      (utcMicros · < e.2)).map Prod.fst

/-- `regular_episodes`. -/
def regularEpisodes (requester : Nat × PyDateTime) : List EpisodeCoordinate :=
  expected.filter fun c =>
    0 < c.1 ∧ ((requestedSeasons snapshot mediaKey expected requester).get? c.1).isSome

/-- The targets that one requester makes true. -/
def trueTargets (requester : Nat × PyDateTime) : List WatchTargetKey :=
  let requested := requestedSeasons snapshot mediaKey expected requester
  let watched := watchedBy lower snapshot watch mappings mediaKey expected requester
  let regular := regularEpisodes snapshot mediaKey expected requester
  ((watched.filter (· ∈ expected)).map (episodeTarget mediaKey)) ++
    (((expectedBySeason expected).entries.filter fun e =>
      (requested.get? e.1).isSome ∧ e.2 ≠ [] ∧ ∀ c ∈ e.2, c ∈ watched).map
        fun e => seasonTarget mediaKey e.1) ++
    if regular ≠ [] ∧ ∀ c ∈ regular, c ∈ watched then [seriesTarget mediaKey] else []

/-- `_compute_requester_tv_watch_targets_for_key`. -/
def requesterTvWatchTargets : Dict WatchTargetKey Bool :=
  let initial : Dict WatchTargetKey Bool :=
    (expected.map (episodeTarget mediaKey) ++
      (expectedBySeason expected).keys.map (seasonTarget mediaKey) ++
      [seriesTarget mediaKey]).foldl (fun d key => d.set key false) ∅
  (requesterTimes snapshot mediaKey).entries.foldl (fun d requester =>
    (trueTargets lower snapshot watch mappings mediaKey expected requester).foldl
      (fun d key => d.set key true) d) initial

end

/-! ## The hierarchy -/

/-- The date that a watch data set has for an episode under a key of a service. -/
def watchDate (watch : WatchData) (service : Service) (key : String) (c : EpisodeCoordinate) :
    Option PyDateTime :=
  ((watch.get? service).bind (·.get? key)).bind (·.get? c)

/-- Every date of the one is in the other, or a later one in its place. -/
def WatchLe (watch watch' : WatchData) : Prop :=
  ∀ service key c t, watchDate watch service key c = some t →
    ∃ t', watchDate watch' service key c = some t' ∧ utcMicros t ≤ utcMicros t'

section

variable (lower : String → String) (snapshot : SeerrRequestSnapshot) (watch : WatchData)
variable (mappings : List RequesterMapping) (mediaKey : MediaType × Nat)
variable (expected : List EpisodeCoordinate)

/-- The requester watched the episode at this time, under one of his keys for the service. -/
def WatchedAt (requesterId : Nat) (c : EpisodeCoordinate) (t : PyDateTime) : Prop :=
  ∃ service, ∃ key ∈ buildWatchKeys lower requesterId (identityKeys snapshot requesterId) service
    mappings, watchDate watch service key c = some t

/-- The requester watched the episode later than he asked for its season. -/
def WatchedAfterRequest (requester : Nat × PyDateTime) (c : EpisodeCoordinate) : Prop :=
  ∃ requestedAt, (requestedSeasons snapshot mediaKey expected requester).get? c.1 =
    some requestedAt ∧ ∃ t, WatchedAt lower snapshot watch mappings requester.1 c t ∧
      utcMicros requestedAt < utcMicros t

/-- A target has the value true. -/
def IsTrue (key : WatchTargetKey) : Prop :=
  (requesterTvWatchTargets lower snapshot watch mappings mediaKey expected).get? key = some true

/-- What a true entry says about the entries below it, the requesters and more watch data. -/
structure WatchHierarchy : Prop where
  season : ∀ n, IsTrue lower snapshot watch mappings mediaKey expected (seasonTarget mediaKey n) →
    ∀ c ∈ expected, c.1 = n →
      IsTrue lower snapshot watch mappings mediaKey expected (episodeTarget mediaKey c)
  series : IsTrue lower snapshot watch mappings mediaKey expected (seriesTarget mediaKey) →
    ∃ requester ∈ (requesterTimes snapshot mediaKey).entries,
      ∀ n ∈ (requestedSeasons snapshot mediaKey expected requester).keys, 0 < n →
        ∀ c ∈ expected, c.1 = n →
          IsTrue lower snapshot watch mappings mediaKey expected (episodeTarget mediaKey c)
  episode : ∀ c, IsTrue lower snapshot watch mappings mediaKey expected
    (episodeTarget mediaKey c) → ∃ requester ∈ (requesterTimes snapshot mediaKey).entries,
      WatchedAfterRequest lower snapshot watch mappings mediaKey expected requester c
  monotone : ∀ watch', WatchLe watch watch' → ∀ key,
    IsTrue lower snapshot watch mappings mediaKey expected key →
      IsTrue lower snapshot watch' mappings mediaKey expected key

end

section

variable {lower : String → String} {snapshot : SeerrRequestSnapshot} {watch watch' : WatchData}
variable {mappings : List RequesterMapping} {mediaKey : MediaType × Nat}
variable {expected : List EpisodeCoordinate} {requester : Nat × PyDateTime}
variable {c : EpisodeCoordinate} {key : WatchTargetKey}

theorem mem_watchEvents {requesterId : Nat} {t : Int} :
    (c, t) ∈ watchEvents lower snapshot watch mappings requesterId ↔
      ∃ t', WatchedAt lower snapshot watch mappings requesterId c t' ∧ utcMicros t' = t := by
  simp only [watchEvents, List.mem_flatMap, List.mem_map, Prod.mk.injEq, Prod.exists,
    ← Dict.get?_eq_some_iff, WatchedAt, watchDate, Option.bind_eq_some_iff]
  constructor
  · rintro ⟨service, byUser, hservice, key, hkey, n, k, t', hdate, rfl, rfl⟩
    cases huser : byUser.get? key with
    | none => simp [huser] at hdate
    | some dates =>
      rw [huser, Option.getD_some] at hdate
      exact ⟨t', ⟨service, key, hkey, dates, ⟨byUser, hservice, huser⟩, hdate⟩, rfl⟩
  · rintro ⟨t', ⟨service, key, hkey, dates, ⟨byUser, hservice, huser⟩, hdate⟩, rfl⟩
    exact ⟨service, byUser, hservice, key, hkey, c.1, c.2, t', by rwa [huser], rfl, rfl⟩

/-- The time that is kept for an episode is the latest one. -/
theorem isMaxOf_watchedAtByCoordinate (requesterId : Nat) :
    IsMaxOf {t | (c, t) ∈ watchEvents lower snapshot watch mappings requesterId}
      ((watchedAtByCoordinate lower snapshot watch mappings requesterId).get? c) :=
  (Dict.isMaxOf_foldl_raiseAt (s := fun _ : EpisodeCoordinate => (∅ : Set Int)) (d := ∅)
    (fun _ => rfl) _ c).congr fun t => by simp

theorem mem_watchedBy : c ∈ watchedBy lower snapshot watch mappings mediaKey expected requester ↔
    WatchedAfterRequest lower snapshot watch mappings mediaKey expected requester c := by
  have hlatest : IsMaxOf {t | (c, t) ∈ watchEvents lower snapshot watch mappings requester.1}
      ((watchedAtByCoordinate lower snapshot watch mappings requester.1).get? c) :=
    isMaxOf_watchedAtByCoordinate requester.1
  simp only [watchedBy, List.mem_map, List.mem_filter, Prod.exists (α := EpisodeCoordinate),
    exists_and_right, exists_eq_right, ← Dict.get?_eq_some_iff, Option.any_eq_true,
    decide_eq_true_eq]
  constructor
  · rintro ⟨t, hget, requestedAt, hrequested, hlater⟩
    rw [hget] at hlatest
    obtain ⟨t', hwatched, rfl⟩ := mem_watchEvents.mp hlatest.1
    exact ⟨requestedAt, hrequested, t', hwatched, hlater⟩
  · rintro ⟨requestedAt, hrequested, t', hwatched, hlater⟩
    have hmem := mem_watchEvents.mpr ⟨t', hwatched, rfl⟩
    cases hget : (watchedAtByCoordinate lower snapshot watch mappings requester.1).get? c with
    | none =>
      rw [hget] at hlatest
      exact absurd hmem (Set.eq_empty_iff_forall_notMem.mp hlatest (utcMicros t'))
    | some t =>
      rw [hget] at hlatest
      exact ⟨t, rfl, requestedAt, hrequested, hlater.trans_le (hlatest.2 hmem)⟩

/-- An entry is true when some requester makes it true. -/
theorem isTrue_iff : IsTrue lower snapshot watch mappings mediaKey expected key ↔
    ∃ requester ∈ (requesterTimes snapshot mediaKey).entries,
      key ∈ trueTargets lower snapshot watch mappings mediaKey expected requester := by
  have hinitial (ks : List WatchTargetKey) :
      (ks.foldl (fun (d : Dict WatchTargetKey Bool) key => d.set key false) ∅).get? key ≠
        some true := by
    rw [Dict.get?_foldl_set (fun key => key) (fun _ => false), Dict.get?_empty, Option.or_none]
    cases ks.reverse.find? (· = key) <;> simp
  rw [IsTrue, requesterTvWatchTargets, ← List.foldl_flatMap, Dict.get?_foldl_set_true,
    or_iff_left (hinitial _), List.mem_flatMap]

/-! ## The true targets of one requester -/

theorem mem_trueTargets :
    key ∈ trueTargets lower snapshot watch mappings mediaKey expected requester ↔
      (∃ c ∈ expected, c ∈ watchedBy lower snapshot watch mappings mediaKey expected requester ∧
        episodeTarget mediaKey c = key) ∨
      (∃ e ∈ (expectedBySeason expected).entries,
        (((requestedSeasons snapshot mediaKey expected requester).get? e.1).isSome ∧ e.2 ≠ [] ∧
          ∀ c ∈ e.2, c ∈ watchedBy lower snapshot watch mappings mediaKey expected requester) ∧
        seasonTarget mediaKey e.1 = key) ∨
      (regularEpisodes snapshot mediaKey expected requester ≠ [] ∧
        ∀ c ∈ regularEpisodes snapshot mediaKey expected requester,
          c ∈ watchedBy lower snapshot watch mappings mediaKey expected requester) ∧
        seriesTarget mediaKey = key := by
  have hseries {p : Prop} [Decidable p] {k : WatchTargetKey} :
      key ∈ (if p then [k] else []) ↔ p ∧ k = key := by
    split_ifs with hp <;> simp [hp, eq_comm]
  simp only [trueTargets, List.mem_append, List.mem_map, List.mem_filter, decide_eq_true_eq,
    hseries, or_assoc]
  refine or_congr ⟨?_, ?_⟩ (or_congr ⟨?_, ?_⟩ Iff.rfl)
  · rintro ⟨c, ⟨hwatched, hexpected⟩, rfl⟩
    exact ⟨c, hexpected, hwatched, rfl⟩
  · rintro ⟨c, hexpected, hwatched, rfl⟩
    exact ⟨c, ⟨hwatched, hexpected⟩, rfl⟩
  · rintro ⟨e, ⟨he, hwhole⟩, rfl⟩
    exact ⟨e, he, hwhole, rfl⟩
  · rintro ⟨e, he, hwhole, rfl⟩
    exact ⟨e, ⟨he, hwhole⟩, rfl⟩

theorem episode_isTrue (hrequester : requester ∈ (requesterTimes snapshot mediaKey).entries)
    (hc : c ∈ expected)
    (hwatched : c ∈ watchedBy lower snapshot watch mappings mediaKey expected requester) :
    IsTrue lower snapshot watch mappings mediaKey expected (episodeTarget mediaKey c) :=
  isTrue_iff.mpr ⟨requester, hrequester, mem_trueTargets.mpr (.inl ⟨c, hc, hwatched, rfl⟩)⟩

theorem mem_expectedBySeason {n : Int} {coordinates : List EpisodeCoordinate}
    (h : (n, coordinates) ∈ (expectedBySeason expected).entries) (hc : c ∈ expected)
    (hseason : c.1 = n) : c ∈ coordinates := by
  have hmem : c ∈ (expectedBySeason expected).setAt n := by
    rw [expectedBySeason, Dict.mem_setAt_foldl_addTo]
    exact .inl (List.mem_map.mpr ⟨c, hc, Prod.ext hseason rfl⟩)
  rwa [Dict.setAt, Dict.get?_eq_some_iff.mpr h, Option.getD_some] at hmem

/-- More watch data makes no watched episode unwatched. -/
theorem WatchedAfterRequest.mono (hle : WatchLe watch watch')
    (h : WatchedAfterRequest lower snapshot watch mappings mediaKey expected requester c) :
    WatchedAfterRequest lower snapshot watch' mappings mediaKey expected requester c := by
  obtain ⟨requestedAt, hrequested, t, ⟨service, key, hkey, hdate⟩, hlater⟩ := h
  obtain ⟨t', hdate', hle⟩ := hle service key c t hdate
  exact ⟨requestedAt, hrequested, t', ⟨service, key, hkey, hdate'⟩, hlater.trans_le hle⟩

theorem mem_trueTargets_mono (hle : WatchLe watch watch')
    (h : key ∈ trueTargets lower snapshot watch mappings mediaKey expected requester) :
    key ∈ trueTargets lower snapshot watch' mappings mediaKey expected requester := by
  have hwatched {c : EpisodeCoordinate}
      (hc : c ∈ watchedBy lower snapshot watch mappings mediaKey expected requester) :
      c ∈ watchedBy lower snapshot watch' mappings mediaKey expected requester :=
    mem_watchedBy.mpr ((mem_watchedBy.mp hc).mono hle)
  rw [mem_trueTargets] at h ⊢
  rcases h with ⟨c, hc, hw, hkey⟩ | ⟨e, he, ⟨hrequested, hne, hall⟩, hkey⟩ | ⟨⟨hne, hall⟩, hkey⟩
  · exact .inl ⟨c, hc, hwatched hw, hkey⟩
  · exact .inr (.inl ⟨e, he, ⟨hrequested, hne, fun c hc => hwatched (hall c hc)⟩, hkey⟩)
  · exact .inr (.inr ⟨⟨hne, fun c hc => hwatched (hall c hc)⟩, hkey⟩)

theorem season_isTrue {n : Int}
    (h : IsTrue lower snapshot watch mappings mediaKey expected (seasonTarget mediaKey n))
    (hc : c ∈ expected) (hseason : c.1 = n) :
    IsTrue lower snapshot watch mappings mediaKey expected (episodeTarget mediaKey c) := by
  obtain ⟨requester, hrequester, htrue⟩ := isTrue_iff.mp h
  rcases mem_trueTargets.mp htrue with ⟨c', -, -, hkey⟩ | ⟨e, he, ⟨-, -, hall⟩, hkey⟩ | ⟨-, hkey⟩
  · simp [episodeTarget, seasonTarget] at hkey
  · obtain rfl : e.1 = n := by simpa [seasonTarget] using hkey
    exact episode_isTrue hrequester hc (hall c (mem_expectedBySeason he hc hseason))
  · simp [seriesTarget, seasonTarget] at hkey

theorem series_isTrue
    (h : IsTrue lower snapshot watch mappings mediaKey expected (seriesTarget mediaKey)) :
    ∃ requester ∈ (requesterTimes snapshot mediaKey).entries,
      ∀ n ∈ (requestedSeasons snapshot mediaKey expected requester).keys, 0 < n →
        ∀ c ∈ expected, c.1 = n →
          IsTrue lower snapshot watch mappings mediaKey expected (episodeTarget mediaKey c) := by
  obtain ⟨requester, hrequester, htrue⟩ := isTrue_iff.mp h
  rcases mem_trueTargets.mp htrue with ⟨c', -, -, hkey⟩ | ⟨e, -, -, hkey⟩ | ⟨⟨-, hall⟩, -⟩
  · simp [episodeTarget, seriesTarget] at hkey
  · simp [seasonTarget, seriesTarget] at hkey
  · refine ⟨requester, hrequester, ?_⟩
    rintro n hn hregular c hc rfl
    obtain ⟨requestedAt, hrequested⟩ := Dict.mem_keys_iff.mp hn
    refine episode_isTrue hrequester hc (hall c (List.mem_filter.mpr ⟨hc, decide_eq_true ?_⟩))
    exact ⟨hregular, Option.isSome_iff_exists.mpr ⟨requestedAt, hrequested⟩⟩

theorem watchedAfterRequest_of_isTrue
    (h : IsTrue lower snapshot watch mappings mediaKey expected (episodeTarget mediaKey c)) :
    ∃ requester ∈ (requesterTimes snapshot mediaKey).entries,
      WatchedAfterRequest lower snapshot watch mappings mediaKey expected requester c := by
  obtain ⟨requester, hrequester, htrue⟩ := isTrue_iff.mp h
  rcases mem_trueTargets.mp htrue with ⟨c', -, hwatched, hkey⟩ | ⟨e, -, -, hkey⟩ | ⟨-, hkey⟩
  · obtain rfl : c' = c := by simpa [episodeTarget, Prod.ext_iff] using hkey
    exact ⟨requester, hrequester, mem_watchedBy.mp hwatched⟩
  · simp [seasonTarget, episodeTarget] at hkey
  · simp [seriesTarget, episodeTarget] at hkey

end

/-- The watch state of requesters is hierarchical and monotone. -/
theorem requesterTvWatchTargets_hierarchy (lower : String → String)
    (snapshot : SeerrRequestSnapshot) (watch : WatchData) (mappings : List RequesterMapping)
    (mediaKey : MediaType × Nat) (expected : List EpisodeCoordinate) :
    WatchHierarchy lower snapshot watch mappings mediaKey expected := by
  constructor
  case season => exact fun n h c hc hseason => season_isTrue h hc hseason
  case series => exact series_isTrue
  case episode => exact fun c h => watchedAfterRequest_of_isTrue h
  case monotone =>
    intro watch' hle key h
    obtain ⟨requester, hrequester, htrue⟩ := isTrue_iff.mp h
    exact isTrue_iff.mpr ⟨requester, hrequester, mem_trueTargets_mono hle htrue⟩

/-- A request for a series, and one of its two episodes watched since. -/
example :
    let snapshot : SeerrRequestSnapshot :=
      { latestRequestAtByKeyUser :=
          Dict.set ∅ (.series, 10) (Dict.set ∅ 1 ⟨100, none⟩)
        requesterIdentityKeysByUserId := Dict.set ∅ 1 ["ann"] }
    let watch : WatchData := Dict.set ∅ .plex (Dict.set ∅ "ann" (Dict.set ∅ (1, 1) ⟨200, none⟩))
    (requesterTvWatchTargets PythonText.asciiLower snapshot watch [] (.series, 10)
      [(1, 1), (1, 2)]).entries =
      [(("episode", 10, some 1, some 1), true), (("episode", 10, some 1, some 2), false),
        (("season", 10, some 1, none), false), (("series", 10, none, none), false)] := by
  decide +kernel

end MediaMasterr.Candidates
