import MediaMasterr.Sync.Seasons

/-! # Episodes of several servers

An episode that some server reports survives a run exactly when the server that
owns the series lists its season, and lists the episode in every entry of that
season that has episodes. -/

namespace MediaMasterr.Sync

open MediaMasterr.Foundations MediaMasterr.Database

/-- The row of an episode of a season is there, and no row that named it was deleted. -/
structure Survives (db db' : Tables) (s : Season) (e : Episode) : Prop where
  season : s.place ∈ db'.seasons.map Season.place
  episode : EpisodeKept db db' e

/-- Some entry of the season reports the episode. -/
def Reported (seasonData : List AggregatedSeasonData)
    (supplemental : List (Service × List AggregatedSeasonData)) (s : Season) (e : Episode) : Prop :=
  ∃ sd ∈ seasonData ++ supplemental.flatMap Prod.snd, sd.seasonNumber = s.seasonNumber ∧
    e.episodeNumber ∈ sd.episodeData.map (·.episodeNumber)

/-- Every reported episode of the series survives in every state of the run. -/
def EpisodesSurvive (db : Tables) (seriesId : Nat) (service : Service)
    (seasonData : List AggregatedSeasonData)
    (supplemental : List (Service × List AggregatedSeasonData)) : Prop :=
  ∀ s ∈ db.seasons, s.seriesId = seriesId → ∀ e ∈ db.episodes, e.seasonId = s.id →
    Reported seasonData supplemental s e →
      ∀ db' ∈ syncStates db seriesId service seasonData supplemental, Survives db db' s e

/-! ## The condition -/

/-- The seasons that the rows of an episode name as well. -/
def seasonsNamedWith (db : Tables) (episodeId : Nat) : List Nat :=
  ((db.candidates.filter (·.episodeId = some episodeId)).filterMap (·.seasonId)) ++
  ((db.protectedMedia.filter (·.episodeId = some episodeId)).filterMap (·.seasonId)) ++
  ((db.protectionRequests.filter fun r =>
    r.episodeId = some episodeId ∧ r.status = .pending).filterMap (·.seasonId)) ++
  ((db.deleteRequests.filter fun r =>
    r.episodeId = some episodeId ∧ r.status = .pending).filterMap (·.seasonId))

/-- The entries list another number than that of this season of the series. -/
def IsDropped (db : Tables) (seriesId : Nat) (seasonData : List AggregatedSeasonData)
    (seasonId : Nat) : Prop :=
  ∃ s ∈ db.seasons, s.seriesId = seriesId ∧ s.id = seasonId ∧
    s.seasonNumber ∉ seasonData.map (·.seasonNumber)

/-- What the owning server lists keeps the episode. -/
structure Covered (db : Tables) (seriesId : Nat) (seasonData : List AggregatedSeasonData)
    (s : Season) (e : Episode) : Prop where
  season : seasonData = [] ∨ s.seasonNumber ∈ seasonData.map (·.seasonNumber) ∧
    ∀ id ∈ seasonsNamedWith db e.id, ¬IsDropped db seriesId seasonData id
  episode : ∀ sd ∈ seasonData, sd.seasonNumber = s.seasonNumber → sd.episodeData ≠ [] →
    e.episodeNumber ∈ sd.episodeData.map (·.episodeNumber)

section

variable {db db' : Tables} {seriesId : Nat} {service : Service}
variable {seasonData : List AggregatedSeasonData} {rows : List Season}
variable {supplemental : List (Service × List AggregatedSeasonData)}
variable {s : Season} {e : Episode}

theorem mem_seasonsNamedWith_iff {episodeId id : Nat} : id ∈ seasonsNamedWith db episodeId ↔
    (∃ c ∈ db.candidates, c.episodeId = some episodeId ∧ c.seasonId = some id) ∨
    (∃ p ∈ db.protectedMedia, p.episodeId = some episodeId ∧ p.seasonId = some id) ∨
    (∃ r ∈ db.protectionRequests, (r.episodeId = some episodeId ∧ r.status = .pending) ∧
      r.seasonId = some id) ∨
    (∃ r ∈ db.deleteRequests, (r.episodeId = some episodeId ∧ r.status = .pending) ∧
      r.seasonId = some id) := by
  simp only [seasonsNamedWith, List.mem_append, List.mem_filterMap, List.mem_filter,
    decide_eq_true_eq, and_assoc, or_assoc]

/-! ## The season rows -/

/-- The season has one row in a table, and the table has one row for its number. -/
structure Located (rows : List Season) (s : Season) : Prop where
  byId : ∀ row ∈ rows, row.id = s.id → row.place = s.place
  numbers : (rows.map fun s => (s.seriesId, s.seasonNumber)).Nodup

theorem located_of_keys (h : SeasonKeys rows) (hs : s ∈ rows) : Located rows s :=
  ⟨fun _ hrow hid => congrArg Season.place (List.inj_on_of_nodup_map h.ids hrow hs hid),
    h.numbers⟩

theorem located_upsertedSeasons (h : SeasonKeys db.seasons) (hs : s ∈ db.seasons)
    (hnumbers : ((upsertedSeasons db seriesId seasonData service).map
      fun s => (s.seriesId, s.seasonNumber)).Nodup) :
    Located (upsertedSeasons db seriesId seasonData service) s := by
  refine ⟨fun row hrow hid => ?_, hnumbers⟩
  obtain ⟨created, hplaces, hfresh, -⟩ := upsertedSeasons_places seriesId seasonData service h
  have hmem := List.mem_map_of_mem (f := Season.place) hrow
  rw [hplaces, List.mem_append] at hmem
  rcases hmem with hmem | hmem
  · obtain ⟨s', hs', hplace⟩ := List.mem_map.mp hmem
    have hid' : s'.id = s.id := (congrArg Prod.fst hplace).trans hid
    rw [← hplace, List.inj_on_of_nodup_map h.ids hs' hs hid']
  · obtain ⟨s', hs', hplace⟩ := List.mem_map.mp hmem
    have hid' : s'.id = s.id := (congrArg Prod.fst hplace).trans hid
    have hlt : s.id < Write.nextId Season.id db.seasons := Write.lt_nextId hs
    have := hfresh s' hs'
    omega

theorem Located.sublist {rows' : List Season} (h : Located rows s) (hsub : rows'.Sublist rows) :
    Located rows' s :=
  ⟨fun row hrow => h.byId row (hsub.subset hrow), h.numbers.sublist (hsub.map _)⟩

/-- The lookup of a number finds the season when it is the season's. -/
theorem find?_seasonId_eq_iff (hlocated : Located rows s)
    (hpresent : s.place ∈ rows.map Season.place) (number : Nat) :
    (rows.find? fun row => row.seriesId = s.seriesId ∧ row.seasonNumber = number).map Season.id =
      some s.id ↔ number = s.seasonNumber := by
  rw [Option.map_eq_some_iff]
  constructor
  · rintro ⟨row, hfind, hid⟩
    have hnumber := List.find?_some hfind
    simp only [decide_eq_true_eq] at hnumber
    have hplace := hlocated.byId row (List.mem_of_find?_eq_some hfind) hid
    exact hnumber.2.symm.trans (congrArg (·.2.2) hplace)
  · rintro rfl
    obtain ⟨row, hrow, hplace⟩ := List.mem_map.mp hpresent
    have hnumber : (row.seriesId, row.seasonNumber) = (s.seriesId, s.seasonNumber) :=
      congrArg Prod.snd hplace
    have hsome : (rows.find? fun row =>
        row.seriesId = s.seriesId ∧ row.seasonNumber = s.seasonNumber).isSome := by
      rw [List.find?_isSome]
      exact ⟨row, hrow, by simpa using hnumber⟩
    obtain ⟨row', hfind⟩ := Option.isSome_iff_exists.mp hsome
    have hnumber' := List.find?_some hfind
    simp only [decide_eq_true_eq] at hnumber'
    have hsame : row' = row := List.inj_on_of_nodup_map hlocated.numbers
      (List.mem_of_find?_eq_some hfind) hrow (hnumber.symm ▸ Prod.ext hnumber'.1 hnumber'.2)
    exact ⟨row', hfind, hsame ▸ congrArg Prod.fst hplace⟩

/-- A number leads to the season when it is the season's. -/
theorem seasonIdFor_eq_iff (hkeys : SeasonKeys db.seasons) (hs : s ∈ db.seasons)
    (hlocated : Located rows s) (hpresent : s.place ∈ rows.map Season.place)
    (removeStale : Bool) (number : Nat) :
    seasonIdFor (if removeStale then existingSeasons db.seasons s.seriesId else ∅) rows s.seriesId
      number = some s.id ↔ number = s.seasonNumber := by
  have hfind := find?_seasonId_eq_iff hlocated hpresent number
  cases removeStale with
  | false => exact hfind
  | true =>
    rw [if_pos rfl, seasonIdFor]
    cases hget : (existingSeasons db.seasons s.seriesId).get? number with
    | none => exact hfind
    | some s' =>
      obtain ⟨hs', hseries, rfl⟩ := (existingSeasons_get? hkeys).mp hget
      rw [Option.some.injEq]
      constructor
      · intro hid
        rw [List.inj_on_of_nodup_map hkeys.ids hs' hs hid]
      · intro hnumber
        rw [List.inj_on_of_nodup_map hkeys.numbers hs' hs (Prod.ext hseries hnumber)]

/-- The season rows of a run: the row of a season of the series is kept when an entry has its
number. -/
theorem survives_removeSeasons_iff (he : e ∈ db.episodes)
    (hpresent : s.place ∈ rows.map Season.place) (ids : List Nat) :
    Survives db (removeSeasons { db with seasons := rows } ids) s e ↔
      s.id ∉ ids ∧ ∀ id ∈ seasonsNamedWith db e.id, id ∉ ids := by
  have hnames : ∀ {seasonId : Option Nat}, namesOneOf ids seasonId = false ↔
      ∀ id, seasonId = some id → id ∉ ids := by
    rintro (_ | id) <;> simp [namesOneOf]
  simp only [mem_seasonsNamedWith_iff]
  constructor
  · intro h
    have hseason : s.id ∉ ids := by
      obtain ⟨row, hrow, hplace⟩ := List.mem_map.mp h.season
      have hid : row.id = s.id := congrArg Prod.fst hplace
      have hnot := (List.mem_filter.mp hrow).2
      rwa [decide_eq_true_eq, hid] at hnot
    refine ⟨hseason, ?_⟩
    rintro id (⟨c, hc, hepisode, hid⟩ | ⟨p, hp, hepisode, hid⟩ | ⟨r, hr, ⟨hepisode, hpending⟩, hid⟩ |
      ⟨r, hr, ⟨hepisode, hpending⟩, hid⟩) hmem
    · have hkept := (List.mem_filter.mp (h.episode.candidates c hc hepisode)).2
      simp [namesOneOf, hid, hmem] at hkept
    · have hkept := (List.mem_filter.mp (h.episode.protectedMedia p hp hepisode)).2
      simp [namesOneOf, hid, hmem] at hkept
    · exact Tables.notMem_settleRequests (fun _ => rfl) (by simp [namesOneOf, hid, hmem])
        (h.episode.protectionRequests r hr hepisode hpending)
    · exact Tables.notMem_settleRequests (fun _ => rfl) (by simp [namesOneOf, hid, hmem])
        (h.episode.deleteRequests r hr hepisode hpending)
  · rintro ⟨hseason, hnamed⟩
    refine ⟨?_, List.mem_map_of_mem he, ?_, ?_, ?_, ?_⟩
    · obtain ⟨row, hrow, hplace⟩ := List.mem_map.mp hpresent
      have hid : row.id = s.id := congrArg Prod.fst hplace
      exact List.mem_map.mpr ⟨row, List.mem_filter.mpr ⟨hrow, by simp [hid, hseason]⟩, hplace⟩
    · intro c hc hepisode
      refine List.mem_filter.mpr ⟨hc, ?_⟩
      rw [Bool.not_eq_true', hnames]
      exact fun id hid => hnamed id (.inl ⟨c, hc, hepisode, hid⟩)
    · intro p hp hepisode
      refine List.mem_filter.mpr ⟨hp, ?_⟩
      rw [Bool.not_eq_true', hnames]
      exact fun id hid => hnamed id (.inr (.inl ⟨p, hp, hepisode, hid⟩))
    · intro r hr hepisode hpending
      refine Tables.mem_settleRequests hr (hnames.mpr fun id hid => ?_)
      exact hnamed id (.inr (.inr (.inl ⟨r, hr, ⟨hepisode, hpending⟩, hid⟩)))
    · intro r hr hepisode hpending
      refine Tables.mem_settleRequests hr (hnames.mpr fun id hid => ?_)
      exact hnamed id (.inr (.inr (.inr ⟨r, hr, ⟨hepisode, hpending⟩, hid⟩)))

theorem mem_upsertedSeasons_place (h : SeasonKeys db.seasons) (hs : s ∈ db.seasons) :
    s.place ∈ (upsertedSeasons db seriesId seasonData service).map Season.place := by
  obtain ⟨created, hplaces, -⟩ := upsertedSeasons_places seriesId seasonData service h
  rw [hplaces]
  exact List.mem_append_left _ (List.mem_map_of_mem hs)

theorem survives_syncSeasonRows_iff (hkeys : SeasonKeys db.seasons) (hs : s ∈ db.seasons)
    (he : e ∈ db.episodes) (h : syncSeasonRows db s.seriesId seasonData service = some db') :
    Survives db db' s e ↔ seasonData = [] ∨ s.seasonNumber ∈ seasonData.map (·.seasonNumber) ∧
      ∀ id ∈ seasonsNamedWith db e.id, ¬IsDropped db s.seriesId seasonData id := by
  by_cases hempty : seasonData = []
  · subst hempty
    obtain rfl : db = db' := Option.some.inj h
    exact iff_of_true ⟨List.mem_map_of_mem hs, EpisodeKept.refl he⟩ (.inl rfl)
  obtain ⟨-, rfl⟩ := syncSeasonRows_eq_some hempty h
  have hdropped : ∀ id, id ∈ removedSeasonIds db s.seriesId seasonData ↔
      IsDropped db s.seriesId seasonData id := fun id => mem_removedSeasonIds_iff hkeys
  have hown : IsDropped db s.seriesId seasonData s.id ↔
      s.seasonNumber ∉ seasonData.map (·.seasonNumber) := by
    constructor
    · rintro ⟨s', hs', -, hid, hnumber⟩
      rwa [List.inj_on_of_nodup_map hkeys.ids hs' hs hid] at hnumber
    · exact fun hnumber => ⟨s, hs, rfl, rfl, hnumber⟩
  rw [survives_removeSeasons_iff he (mem_upsertedSeasons_place hkeys hs)]
  simp only [hdropped, hown, not_not, hempty, false_or]

theorem located_syncSeasonRows (hkeys : SeasonKeys db.seasons) (hs : s ∈ db.seasons)
    (h : syncSeasonRows db seriesId seasonData service = some db') : Located db'.seasons s := by
  by_cases hempty : seasonData = []
  · subst hempty
    obtain rfl : db = db' := Option.some.inj h
    exact located_of_keys hkeys hs
  · obtain ⟨hnumbers, rfl⟩ := syncSeasonRows_eq_some hempty h
    exact (located_upsertedSeasons hkeys hs hnumbers).sublist List.filter_sublist

theorem syncSeasonRows_episodes (h : syncSeasonRows db seriesId seasonData service = some db') :
    db'.episodes = db.episodes := by
  by_cases hempty : seasonData = []
  · subst hempty
    obtain rfl : db = db' := Option.some.inj h
    rfl
  · obtain ⟨-, rfl⟩ := syncSeasonRows_eq_some hempty h
    rfl

/-! ## The calls -/

/-- A call keeps an episode of the season, unless it prunes the season and does not list it. -/
theorem survives_run_iff (hkeys : SeasonKeys db.seasons) (hs : s ∈ db.seasons)
    (heq : e.seasonId = s.id) (hlocated : Located db'.seasons s)
    (hepisodes : EpisodeKeys db'.episodes) (h : Survives db db' s e) (call : EpisodeCall) :
    Survives db (call.run (existingSeasons db.seasons s.seriesId) s.seriesId db') s e ↔
      (call.removeStale = true → call.season.seasonNumber = s.seasonNumber →
        call.season.episodeData ≠ [] →
          e.episodeNumber ∈ call.season.episodeData.map (·.episodeNumber)) := by
  have hid := seasonIdFor_eq_iff hkeys hs hlocated h.season call.removeStale
    call.season.seasonNumber
  unfold EpisodeCall.run upsertSeasonEpisodes
  by_cases hempty : call.season.episodeData = []
  · simp [hempty, h]
  rw [if_neg hempty]
  cases hfound : seasonIdFor (if call.removeStale then existingSeasons db.seasons s.seriesId else ∅)
      db'.seasons s.seriesId call.season.seasonNumber with
  | none =>
    rw [hfound] at hid
    exact iff_of_true h fun _ hnumber => absurd (hid.mpr hnumber) (by simp)
  | some seasonId =>
    rw [hfound, Option.some.injEq] at hid
    have hkept := episodeKept_upsertEpisodes_iff seasonId call.season.episodeData call.service
      call.removeStale hepisodes h.episode
    dsimp only
    constructor
    · intro hsurvives hstale hnumber _
      exact hkept.mp hsurvives.episode hstale (heq.trans (hid.mpr hnumber).symm)
    · intro hlisted
      refine ⟨?_, hkept.mpr fun hstale hseason => ?_⟩
      · rw [upsertEpisodes_seasons]
        exact h.season
      · exact hlisted hstale (hid.mp (hseason.symm.trans heq)) hempty

theorem run_seasons (existing : Dict Nat Season) (call : EpisodeCall) :
    (call.run existing seriesId db).seasons = db.seasons := by
  unfold EpisodeCall.run upsertSeasonEpisodes
  split_ifs
  · rfl
  all_goals
    split
    · rfl
    · exact upsertEpisodes_seasons

theorem run_episodeKeys (existing : Dict Nat Season) (call : EpisodeCall)
    (h : EpisodeKeys db.episodes) : EpisodeKeys (call.run existing seriesId db).episodes := by
  unfold EpisodeCall.run upsertSeasonEpisodes
  split_ifs
  · exact h
  all_goals
    split
    · exact h
    · exact upsertEpisodes_episodeKeys h

theorem forall_mem_episodeCalls_iff {Q : EpisodeCall → Prop}
    (hsupplemental : ∀ call : EpisodeCall, call.removeStale = false → Q call) :
    (∀ call ∈ episodeCalls service seasonData supplemental, Q call) ↔
      ∀ sd ∈ seasonData, Q ⟨service, sd, true⟩ := by
  rw [episodeCalls, List.forall_mem_append, List.forall_mem_map]
  refine and_iff_left fun call hcall => hsupplemental call ?_
  obtain ⟨entry, -, hmem⟩ := List.mem_flatMap.mp hcall
  obtain ⟨sd, -, rfl⟩ := List.mem_map.mp hmem
  rfl

/-- An episode survives the whole run when the owning server covers it. -/
theorem survives_syncStates_iff (hseasons : SeasonKeys db.seasons)
    (hepisodes : EpisodeKeys db.episodes) (hs : s ∈ db.seasons) (he : e ∈ db.episodes)
    (heq : e.seasonId = s.id)
    (hnew : (newSeasonNumbers db.seasons s.seriesId seasonData).Nodup) :
    (∀ db' ∈ syncStates db s.seriesId service seasonData supplemental, Survives db db' s e) ↔
      Covered db s.seriesId seasonData s e := by
  unfold syncStates
  cases hrows : syncSeasonRows db s.seriesId seasonData service with
  | none => exact absurd hnew ((syncSeasonRows_eq_none_iff hseasons).mp hrows)
  | some db₁ =>
    have hlocated := located_syncSeasonRows hseasons hs hrows
    have hstart : db₁.seasons = db₁.seasons ∧ EpisodeKeys db₁.episodes :=
      ⟨rfl, syncSeasonRows_episodes hrows ▸ hepisodes⟩
    rw [Loops.forall_mem_scanl_iff
      (I := fun db' : Tables => db'.seasons = db₁.seasons ∧ EpisodeKeys db'.episodes)
      (fun call _ db' hI => ⟨(run_seasons _ call).trans hI.1, run_episodeKeys _ call hI.2⟩)
      (fun call _ db' hI hP => survives_run_iff hseasons hs heq (hI.1 ▸ hlocated) hI.2 hP call)
      hstart, survives_syncSeasonRows_iff hseasons hs he hrows, forall_mem_episodeCalls_iff]
    · constructor
      · rintro ⟨hseason, hepisode⟩
        exact ⟨hseason, fun sd hsd => hepisode sd hsd rfl⟩
      · rintro ⟨hseason, hepisode⟩
        exact ⟨hseason, fun sd hsd _ => hepisode sd hsd⟩
    · intro call hstale hcontra
      simp [hstale] at hcontra

/-- The episodes that some server reports survive a run exactly when the run raises, or the
server that owns the series covers each of them. -/
theorem episodesSurvive_iff (hseasons : SeasonKeys db.seasons)
    (hepisodes : EpisodeKeys db.episodes) :
    EpisodesSurvive db seriesId service seasonData supplemental ↔
      ¬(newSeasonNumbers db.seasons seriesId seasonData).Nodup ∨
      ∀ s ∈ db.seasons, s.seriesId = seriesId → ∀ e ∈ db.episodes, e.seasonId = s.id →
        Reported seasonData supplemental s e → Covered db seriesId seasonData s e := by
  by_cases hnew : (newSeasonNumbers db.seasons seriesId seasonData).Nodup
  · rw [or_iff_right (not_not.mpr hnew), EpisodesSurvive]
    constructor
    · rintro h s hs rfl e he heq hreported
      exact (survives_syncStates_iff hseasons hepisodes hs he heq hnew).mp
        (h s hs rfl e he heq hreported)
    · rintro h s hs rfl e he heq hreported
      exact (survives_syncStates_iff hseasons hepisodes hs he heq hnew).mpr
        (h s hs rfl e he heq hreported)
  · refine iff_of_true ?_ (.inl hnew)
    intro s hs _ e he _ _ db' hdb'
    have hnone : syncSeasonRows db seriesId seasonData service = none :=
      (syncSeasonRows_eq_none_iff hseasons).mpr hnew
    rw [syncStates, hnone, List.mem_singleton] at hdb'
    subst hdb'
    exact ⟨List.mem_map_of_mem hs, EpisodeKept.refl he⟩

end

instance {seasonData : List AggregatedSeasonData}
    {supplemental : List (Service × List AggregatedSeasonData)} {s : Season} {e : Episode} :
    Decidable (Reported seasonData supplemental s e) := by
  unfold Reported
  infer_instance

instance {db : Tables} {seriesId seasonId : Nat} {seasonData : List AggregatedSeasonData} :
    Decidable (IsDropped db seriesId seasonData seasonId) := by
  unfold IsDropped
  infer_instance

instance {db : Tables} {seriesId : Nat} {seasonData : List AggregatedSeasonData} {s : Season}
    {e : Episode} : Decidable (Covered db seriesId seasonData s e) :=
  decidable_of_iff
    ((seasonData = [] ∨ s.seasonNumber ∈ seasonData.map (·.seasonNumber) ∧
      ∀ id ∈ seasonsNamedWith db e.id, ¬IsDropped db seriesId seasonData id) ∧
    ∀ sd ∈ seasonData, sd.seasonNumber = s.seasonNumber → sd.episodeData ≠ [] →
      e.episodeNumber ∈ sd.episodeData.map (·.episodeNumber))
    ⟨fun h => ⟨h.1, h.2⟩, fun h => ⟨h.season, h.episode⟩⟩

/-- A season with two episodes, the second of which is protected. -/
def twoEpisodes : Tables where
  seasons := [{ id := 1, seriesId := 1, seasonNumber := 1 }]
  episodes := [{ id := 1, seasonId := 1, episodeNumber := 1 },
    { id := 2, seasonId := 1, episodeNumber := 2 }]
  protectedMedia :=
    [{ id := 1, mediaType := .series, seriesId := some 1, seasonId := some 1, episodeId := some 2 }]

/-- The entry of a season with these episodes. -/
def firstSeason (numbers : List Nat) : AggregatedSeasonData where
  seasonNumber := 1
  episodeData := numbers.map fun number => { episodeNumber := number }

theorem episodesSurvive_listedByBoth :
    EpisodesSurvive twoEpisodes 1 .plex [firstSeason [1, 2]] [(.jellyfin, [firstSeason [2]])] :=
  (episodesSurvive_iff ⟨by decide, by decide⟩ ⟨by decide, by decide⟩).mpr (by decide)

/-- The Plex server that owns the series does not have the episode that Jellyfin reports. -/
theorem not_episodesSurvive_otherServer :
    ¬EpisodesSurvive twoEpisodes 1 .plex [firstSeason [1]] [(.jellyfin, [firstSeason [1, 2]])] := by
  intro h
  have hprotected : ∀ db' ∈ syncStates twoEpisodes 1 .plex [firstSeason [1]]
      [(.jellyfin, [firstSeason [1, 2]])],
      ∀ p ∈ twoEpisodes.protectedMedia, p.episodeId = some 2 → p ∈ db'.protectedMedia :=
    fun db' hdb' => (h _ List.mem_cons_self rfl { id := 2, seasonId := 1, episodeNumber := 2 }
      (by decide) rfl (by decide) db' hdb').episode.protectedMedia
  revert hprotected
  decide

end MediaMasterr.Sync
