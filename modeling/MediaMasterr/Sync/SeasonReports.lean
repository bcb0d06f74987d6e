import Mathlib.Data.List.Dedup
import MediaMasterr.Sync.EpisodeSurvival

/-! # Entries of one season

A server can report a season in several entries. Each entry upserts the episodes
of the season and prunes the others, so that the season is left with the episodes
of its last entry. -/

namespace MediaMasterr.Sync

open MediaMasterr.Foundations MediaMasterr.Database

/-- The numbers of the episodes that a season has. -/
def episodeNumbers (rows : List Episode) (seasonId : Nat) : List Nat :=
  (rows.filter (·.seasonId = seasonId)).map (·.episodeNumber)

/-- The numbers of the episodes that the entries of a season report. -/
def reportedNumbers (seasonData : List AggregatedSeasonData) (number : Nat) : List Nat :=
  (seasonData.filter (·.seasonNumber = number)).flatMap fun sd =>
    sd.episodeData.map (·.episodeNumber)

/-- The numbers that the last entry of a season with episodes reports. -/
def lastReportedNumbers (seasonData : List AggregatedSeasonData) (number : Nat) : List Nat :=
  ((seasonData.filter fun sd => sd.seasonNumber = number ∧ sd.episodeData ≠ []).getLast?.map
    fun sd => sd.episodeData.map (·.episodeNumber)).getD []

/-- Each reported season has one row, and the episodes of all its entries. -/
structure SeasonsMerged (db' : Tables) (seriesId : Nat) (seasonData : List AggregatedSeasonData) :
    Prop where
  seasons : ∀ number ∈ seasonData.map (·.seasonNumber),
    (db'.seasons.filter fun s => s.seriesId = seriesId ∧ s.seasonNumber = number).length = 1
  episodes : ∀ s ∈ db'.seasons, s.seriesId = seriesId →
    reportedNumbers seasonData s.seasonNumber ≠ [] →
    (episodeNumbers db'.episodes s.id).Perm (reportedNumbers seasonData s.seasonNumber).dedup

/-- `_sync_seasons` returns, and has merged the entries. -/
def MergesSeasons (db : Tables) (seriesId : Nat) (service : Service)
    (seasonData : List AggregatedSeasonData) : Prop :=
  ∃ db', syncSeasons db seriesId service seasonData = some db' ∧
    SeasonsMerged db' seriesId seasonData

/-! ## The numbers that an upsert leaves -/

section Episodes

variable {db : Tables} {rows : List Episode} {seasonId seasonId' number : Nat}
variable {episodeData : List AggregatedEpisodeData} {service : Service}

theorem mem_episodeNumbers : number ∈ episodeNumbers rows seasonId ↔
    ∃ id, (id, seasonId, number) ∈ rows.map Episode.place := by
  simp only [episodeNumbers, List.mem_map, List.mem_filter, decide_eq_true_eq, Episode.place,
    Prod.mk.injEq]
  constructor
  · rintro ⟨e, ⟨he, hseason⟩, hnumber⟩
    exact ⟨e.id, e, he, rfl, hseason, hnumber⟩
  · rintro ⟨id, e, he, -, hseason, hnumber⟩
    exact ⟨e, ⟨he, hseason⟩, hnumber⟩

theorem nodup_episodeNumbers (h : EpisodeKeys rows) : (episodeNumbers rows seasonId).Nodup := by
  refine List.Nodup.map_on ?_ ((List.Nodup.of_map _ h.ids).filter _)
  intro e he e' he' hnumber
  simp only [List.mem_filter, decide_eq_true_eq] at he he'
  exact List.inj_on_of_nodup_map h.numbers he.1 he'.1
    (Prod.ext (he.2.trans he'.2.symm) hnumber)

theorem mem_episodeNumbers_upsertEpisode {state : EpisodeSync} (h : state.Indexed seasonId)
    (ep : AggregatedEpisodeData) :
    number ∈ episodeNumbers (upsertEpisode seasonId service state ep).rows seasonId' ↔
      number ∈ episodeNumbers state.rows seasonId' ∨
        seasonId' = seasonId ∧ number = ep.episodeNumber := by
  simp only [mem_episodeNumbers, upsertEpisode]
  cases hget : state.existing.get? ep.episodeNumber with
  | some id =>
    dsimp only
    rw [map_place_update]
    refine ⟨.inl, ?_⟩
    rintro (hmem | ⟨rfl, rfl⟩)
    · exact hmem
    · exact ⟨id, (h.index _ _).mp hget⟩
  | none =>
    dsimp only
    simp only [map_place_insert, List.mem_append, List.mem_singleton, Prod.mk.injEq, exists_or,
      exists_eq_left]

theorem mem_episodeNumbers_upsertedEpisodes (seasonId : Nat)
    (episodeData : List AggregatedEpisodeData) (service : Service) (h : EpisodeKeys db.episodes) :
    number ∈ episodeNumbers (upsertedEpisodes db seasonId episodeData service).rows seasonId' ↔
      number ∈ episodeNumbers db.episodes seasonId' ∨
        seasonId' = seasonId ∧ number ∈ episodeData.map (·.episodeNumber) := by
  induction episodeData using List.reverseRecOn with
  | nil => simp [upsertedEpisodes]
  | append_singleton episodeData ep ih =>
    have hindexed := upsertedEpisodes_indexed seasonId episodeData service h
    have hstep : upsertedEpisodes db seasonId (episodeData ++ [ep]) service =
        upsertEpisode seasonId service (upsertedEpisodes db seasonId episodeData service) ep :=
      List.foldl_concat _ _ _ _
    rw [hstep, mem_episodeNumbers_upsertEpisode hindexed, ih, List.map_append, List.map_singleton,
      List.mem_append, List.mem_singleton, and_or_left, or_assoc]

/-- A season is left with the numbers of the reported episodes; other seasons keep theirs. -/
theorem mem_episodeNumbers_upsertEpisodes (h : EpisodeKeys db.episodes) :
    number ∈ episodeNumbers (upsertEpisodes db seasonId episodeData service true).episodes
      seasonId' ↔
      if seasonId' = seasonId then number ∈ episodeData.map (·.episodeNumber)
      else number ∈ episodeNumbers db.episodes seasonId' := by
  have hupserted : number ∈
      episodeNumbers (upsertedEpisodes db seasonId episodeData service).rows seasonId' ↔
      number ∈ episodeNumbers db.episodes seasonId' ∨
        seasonId' = seasonId ∧ number ∈ episodeData.map (·.episodeNumber) :=
    mem_episodeNumbers_upsertedEpisodes seasonId episodeData service h
  have hkept : number ∈ episodeNumbers
      (upsertEpisodes db seasonId episodeData service true).episodes seasonId' ↔
      number ∈ episodeNumbers (upsertedEpisodes db seasonId episodeData service).rows seasonId' ∧
        (seasonId' = seasonId → number ∈ episodeData.map (·.episodeNumber)) := by
    dsimp only [upsertEpisodes]
    rw [if_pos rfl, foldl_pruneEpisode_episodes]
    simp only [episodeNumbers, List.filter_filter, List.mem_map (f := Episode.episodeNumber),
      List.mem_filter, Bool.and_eq_true, decide_eq_true_eq]
    constructor
    · rintro ⟨e, ⟨he, rfl, hstale⟩, rfl⟩
      refine ⟨⟨e, ⟨he, rfl⟩, rfl⟩, fun hseason => ?_⟩
      by_contra hnumber
      exact hstale ((mem_staleEpisodes_iff_of_upserted seasonId episodeData service h
        (List.mem_map_of_mem he)).mpr ⟨hseason, hnumber⟩)
    · rintro ⟨⟨e, ⟨he, rfl⟩, rfl⟩, hlisted⟩
      refine ⟨e, ⟨he, rfl, fun hstale => ?_⟩, rfl⟩
      obtain ⟨hseason, hnumber⟩ := (mem_staleEpisodes_iff_of_upserted seasonId episodeData service
        h (List.mem_map_of_mem he)).mp hstale
      exact hnumber (hlisted hseason)
  rw [hkept, hupserted]
  split_ifs with hseason
  · simp only [hseason, true_and, true_imp_iff]
    exact ⟨And.right, fun hnumber => ⟨.inr hnumber, hnumber⟩⟩
  · simp [hseason]

end Episodes

/-! ## The season rows -/

section Seasons

variable {db db' : Tables} {seriesId number : Nat} {service : Service}
variable {seasonData : List AggregatedSeasonData} {s s' : Season}

theorem seasonKeys_upsertedSeasons (hkeys : SeasonKeys db.seasons)
    (hnumbers : ((upsertedSeasons db seriesId seasonData service).map
      fun s => (s.seriesId, s.seasonNumber)).Nodup) :
    SeasonKeys (upsertedSeasons db seriesId seasonData service) :=
  ⟨Write.nodup_applyAll seasonWrites_keyed hkeys.ids, hnumbers⟩

theorem seasonKeys_syncSeasonRows (hkeys : SeasonKeys db.seasons)
    (h : syncSeasonRows db seriesId seasonData service = some db') : SeasonKeys db'.seasons := by
  by_cases hempty : seasonData = []
  · subst hempty
    obtain rfl : db = db' := Option.some.inj h
    exact hkeys
  · obtain ⟨hnumbers, rfl⟩ := syncSeasonRows_eq_some hempty h
    have hupserted := seasonKeys_upsertedSeasons hkeys hnumbers
    exact ⟨hupserted.ids.sublist (List.filter_sublist.map _),
      hupserted.numbers.sublist (List.filter_sublist.map _)⟩

/-- A stored season keeps its id. -/
theorem id_eq_of_stored (hkeys : SeasonKeys db.seasons)
    (h : syncSeasonRows db seriesId seasonData service = some db') (hs : s ∈ db.seasons)
    (hs' : s' ∈ db'.seasons) (hseries : s.seriesId = s'.seriesId)
    (hnumber : s.seasonNumber = s'.seasonNumber) : s.id = s'.id := by
  by_cases hempty : seasonData = []
  · subst hempty
    obtain rfl : db = db' := Option.some.inj h
    rw [List.inj_on_of_nodup_map hkeys.numbers hs hs' (Prod.ext hseries hnumber)]
  · obtain ⟨hnumbers, rfl⟩ := syncSeasonRows_eq_some hempty h
    have hplace : s.place ∈ (upsertedSeasons db seriesId seasonData service).map Season.place :=
      mem_upsertedSeasons_place hkeys hs
    obtain ⟨row, hrow, hplace⟩ := List.mem_map.mp hplace
    have hsame : (row.seriesId, row.seasonNumber) = (s'.seriesId, s'.seasonNumber) :=
      (congrArg Prod.snd hplace).trans (Prod.ext hseries hnumber)
    obtain rfl := List.inj_on_of_nodup_map hnumbers hrow (List.mem_filter.mp hs').1 hsame
    exact (congrArg Prod.fst hplace).symm

/-- Each number of an entry has a row. -/
theorem isStored_syncSeasonRows (hkeys : SeasonKeys db.seasons)
    (h : syncSeasonRows db seriesId seasonData service = some db')
    (hnumber : number ∈ seasonData.map (·.seasonNumber)) :
    IsStored db'.seasons seriesId number := by
  have hempty : seasonData ≠ [] := by
    rintro rfl
    simp at hnumber
  obtain ⟨hnumbers, rfl⟩ := syncSeasonRows_eq_some hempty h
  have hupserted := seasonKeys_upsertedSeasons hkeys hnumbers
  have hmem : (seriesId, number) ∈ (upsertedSeasons db seriesId seasonData service).map
      fun s => (s.seriesId, s.seasonNumber) := by
    rw [upsertedSeasons_numbers hkeys, List.mem_append]
    by_cases hstored : IsStored db.seasons seriesId number
    · obtain ⟨s, hs, rfl, rfl⟩ := hstored
      exact .inl (List.mem_map_of_mem hs)
    · refine .inr (List.mem_map_of_mem ?_)
      exact List.mem_filter.mpr ⟨hnumber, decide_eq_true hstored⟩
  obtain ⟨row, hrow, hplace⟩ := List.mem_map.mp hmem
  obtain ⟨hseries, hrowNumber⟩ := Prod.mk.inj hplace
  refine ⟨row, List.mem_filter.mpr ⟨hrow, decide_eq_true fun hremoved => ?_⟩, hseries, hrowNumber⟩
  -- a removed row is a stored one whose number no entry has
  obtain ⟨s, hs, -, hid, hother⟩ := (mem_removedSeasonIds_iff hkeys).mp hremoved
  have hplace : s.place ∈ (upsertedSeasons db seriesId seasonData service).map Season.place :=
    mem_upsertedSeasons_place hkeys hs
  obtain ⟨row', hrow', hplace'⟩ := List.mem_map.mp hplace
  have hid' : row'.id = row.id := (congrArg Prod.fst hplace').trans hid
  obtain rfl := List.inj_on_of_nodup_map hupserted.ids hrow' hrow hid'
  have hsame : row'.seasonNumber = s.seasonNumber := congrArg (·.2.2) hplace'
  rw [← hsame, hrowNumber] at hother
  exact hother hnumber

theorem length_filter_number (hkeys : SeasonKeys db.seasons) :
    (db.seasons.filter fun s => s.seriesId = seriesId ∧ s.seasonNumber = number).length = 1 ↔
      IsStored db.seasons seriesId number := by
  have hnodup : (db.seasons.filter
      fun s => s.seriesId = seriesId ∧ s.seasonNumber = number).Nodup :=
    (List.Nodup.of_map _ hkeys.ids).filter _
  rw [List.length_eq_one_iff]
  constructor
  · rintro ⟨s, hs⟩
    have hmem : s ∈ db.seasons.filter
        fun s => s.seriesId = seriesId ∧ s.seasonNumber = number := by
      rw [hs]
      exact List.mem_singleton_self s
    simp only [List.mem_filter, decide_eq_true_eq] at hmem
    exact ⟨s, hmem.1, hmem.2⟩
  · rintro ⟨s, hs, hseries, hnumber⟩
    refine ⟨s, List.perm_singleton.mp ((List.perm_ext_iff_of_nodup hnodup
      (List.nodup_singleton s)).mpr fun s' => ?_)⟩
    simp only [List.mem_filter, decide_eq_true_eq, List.mem_singleton]
    constructor
    · rintro ⟨hs', hseries', hnumber'⟩
      exact List.inj_on_of_nodup_map hkeys.numbers hs' hs
        (Prod.ext (hseries'.trans hseries.symm) (hnumber'.trans hnumber.symm))
    · rintro rfl
      exact ⟨hs, hseries, hnumber⟩

/-- The number of a season leads to its row. -/
theorem seasonIdFor_seasonNumber (hkeys : SeasonKeys db.seasons)
    (h : syncSeasonRows db s.seriesId seasonData service = some db') (hs : s ∈ db'.seasons) :
    seasonIdFor (existingSeasons db.seasons s.seriesId) db'.seasons s.seriesId s.seasonNumber =
      some s.id := by
  have hkeys' := seasonKeys_syncSeasonRows hkeys h
  unfold seasonIdFor
  cases hget : (existingSeasons db.seasons s.seriesId).get? s.seasonNumber with
  | some s₀ =>
    obtain ⟨hs₀, hseries, hnumber⟩ := (existingSeasons_get? hkeys).mp hget
    exact congrArg some (id_eq_of_stored hkeys h hs₀ hs hseries hnumber)
  | none =>
    exact (find?_seasonId_eq_iff (located_of_keys hkeys' hs) (List.mem_map_of_mem hs) _).mpr rfl

/-! ## The run over the entries -/

theorem reportedNumbers_concat (sd : AggregatedSeasonData) :
    reportedNumbers (seasonData ++ [sd]) number = reportedNumbers seasonData number ++
      if sd.seasonNumber = number then sd.episodeData.map (·.episodeNumber) else [] := by
  unfold reportedNumbers
  by_cases hnumber : sd.seasonNumber = number <;> simp [hnumber]

theorem lastReportedNumbers_concat (sd : AggregatedSeasonData) :
    lastReportedNumbers (seasonData ++ [sd]) number =
      if sd.seasonNumber = number ∧ sd.episodeData ≠ [] then
        sd.episodeData.map (·.episodeNumber)
      else lastReportedNumbers seasonData number := by
  unfold lastReportedNumbers
  split_ifs with hlast <;> simp [List.filter_append, hlast]

theorem lastReportedNumbers_subset (seasonData : List AggregatedSeasonData) (number : Nat) :
    lastReportedNumbers seasonData number ⊆ reportedNumbers seasonData number := by
  induction seasonData using List.reverseRecOn with
  | nil => exact List.Subset.refl _
  | append_singleton seasonData sd ih =>
    rw [lastReportedNumbers_concat, reportedNumbers_concat]
    by_cases hlast : sd.seasonNumber = number ∧ sd.episodeData ≠ []
    · rw [if_pos hlast, if_pos hlast.1]
      exact List.subset_append_right _ _
    · rw [if_neg hlast]
      exact List.Subset.trans ih (List.subset_append_left _ _)

/-- One entry: its season is left with the numbers that it reports. -/
theorem mem_episodeNumbers_upsertSeasonEpisodes {now : Tables} {k : Nat}
    (hkeys : SeasonKeys db.seasons)
    (h : syncSeasonRows db s.seriesId seasonData service = some db') (hs : s ∈ db'.seasons)
    (hnow : now.seasons = db'.seasons) (hepisodes : EpisodeKeys now.episodes)
    {sd : AggregatedSeasonData} (hsd : sd.seasonNumber ∈ seasonData.map (·.seasonNumber)) :
    k ∈ episodeNumbers (upsertSeasonEpisodes (existingSeasons db.seasons s.seriesId) s.seriesId
      true now service sd).episodes s.id ↔
      if sd.seasonNumber = s.seasonNumber ∧ sd.episodeData ≠ [] then
        k ∈ sd.episodeData.map (·.episodeNumber)
      else k ∈ episodeNumbers now.episodes s.id := by
  have hkeys' := seasonKeys_syncSeasonRows hkeys h
  unfold upsertSeasonEpisodes
  by_cases hempty : sd.episodeData = []
  · simp [hempty]
  obtain ⟨row, hrow, hseries, hnumber⟩ := isStored_syncSeasonRows hkeys h hsd
  have hfound := seasonIdFor_seasonNumber (s := row) hkeys (hseries ▸ h) hrow
  rw [hseries, hnumber] at hfound
  rw [if_neg hempty, hnow, hfound]
  dsimp only
  rw [mem_episodeNumbers_upsertEpisodes hepisodes]
  have hsame : s.id = row.id ↔ sd.seasonNumber = s.seasonNumber ∧ sd.episodeData ≠ [] := by
    rw [and_iff_left hempty, ← hnumber]
    constructor
    · intro hid
      rw [List.inj_on_of_nodup_map hkeys'.ids hs hrow hid]
    · intro hnumber'
      rw [List.inj_on_of_nodup_map hkeys'.numbers hs hrow
        (Prod.ext hseries.symm hnumber'.symm)]
  simp only [hsame]

theorem foldl_upsertSeasonEpisodes_keys (seriesId : Nat) (service : Service)
    (existing : Dict Nat Season) (entries : List AggregatedSeasonData)
    (hepisodes : EpisodeKeys db.episodes) :
    (entries.foldl (upsertSeasonEpisodes existing seriesId true · service) db).seasons =
      db.seasons ∧
    EpisodeKeys
      (entries.foldl (upsertSeasonEpisodes existing seriesId true · service) db).episodes := by
  refine Loops.foldl_invariant
    (P := fun now : Tables => now.seasons = db.seasons ∧ EpisodeKeys now.episodes)
    (fun sd _ now hnow => ?_) ⟨rfl, hepisodes⟩
  exact ⟨(run_seasons existing ⟨service, sd, true⟩).trans hnow.1,
    run_episodeKeys existing ⟨service, sd, true⟩ hnow.2⟩

/-- All entries: a season is left with the numbers of its last entry with episodes. -/
theorem mem_episodeNumbers_foldl {k : Nat} (hkeys : SeasonKeys db.seasons)
    (h : syncSeasonRows db s.seriesId seasonData service = some db') (hs : s ∈ db'.seasons)
    (hepisodes : EpisodeKeys db'.episodes) (entries : List AggregatedSeasonData)
    (hentries : ∀ sd ∈ entries, sd.seasonNumber ∈ seasonData.map (·.seasonNumber)) :
    k ∈ episodeNumbers (entries.foldl (upsertSeasonEpisodes
      (existingSeasons db.seasons s.seriesId) s.seriesId true · service) db').episodes s.id ↔
      if reportedNumbers entries s.seasonNumber = [] then k ∈ episodeNumbers db'.episodes s.id
      else k ∈ lastReportedNumbers entries s.seasonNumber := by
  induction entries using List.reverseRecOn with
  | nil => simp [reportedNumbers]
  | append_singleton entries sd ih =>
    have hrun := foldl_upsertSeasonEpisodes_keys s.seriesId service
      (existingSeasons db.seasons s.seriesId) entries hepisodes
    have hsd := hentries sd (List.mem_append_right _ (List.mem_singleton_self sd))
    rw [List.foldl_concat, mem_episodeNumbers_upsertSeasonEpisodes hkeys h hs hrun.1 hrun.2 hsd,
      ih fun sd' hsd' => hentries sd' (List.mem_append_left _ hsd'), reportedNumbers_concat,
      lastReportedNumbers_concat]
    by_cases hlast : sd.seasonNumber = s.seasonNumber ∧ sd.episodeData ≠ []
    · simp [hlast]
    · have hnone : (if sd.seasonNumber = s.seasonNumber then
          sd.episodeData.map (·.episodeNumber) else []) = [] := by
        simpa using hlast
      rw [if_neg hlast, if_neg hlast, hnone, List.append_nil]

/-- The entries of a series are merged exactly when no number without a row is repeated and the
last entry of every season reports all its episodes. -/
theorem mergesSeasons_iff (hseasons : SeasonKeys db.seasons)
    (hepisodes : EpisodeKeys db.episodes) :
    MergesSeasons db seriesId service seasonData ↔
      (newSeasonNumbers db.seasons seriesId seasonData).Nodup ∧
      ∀ number, reportedNumbers seasonData number ⊆ lastReportedNumbers seasonData number := by
  cases hrows : syncSeasonRows db seriesId seasonData service with
  | none =>
    have hnew := (syncSeasonRows_eq_none_iff hseasons).mp hrows
    refine iff_of_false ?_ fun h => hnew h.1
    rintro ⟨db', hrun, -⟩
    simp [syncSeasons, hrows] at hrun
  | some rows =>
    have hnew : (newSeasonNumbers db.seasons seriesId seasonData).Nodup := by
      by_contra hnot
      rw [(syncSeasonRows_eq_none_iff hseasons).mpr hnot] at hrows
      cases hrows
    have hrowEpisodes : EpisodeKeys rows.episodes := by
      rw [syncSeasonRows_episodes hrows]
      exact hepisodes
    have hkeys := seasonKeys_syncSeasonRows hseasons hrows
    obtain ⟨hrunSeasons, hrunKeys⟩ := foldl_upsertSeasonEpisodes_keys seriesId
      service (existingSeasons db.seasons seriesId) seasonData hrowEpisodes
    have hleft {s : Season} (hs : s ∈ rows.seasons) (hseries : s.seriesId = seriesId) (k : Nat) :
        reportedNumbers seasonData s.seasonNumber ≠ [] →
        (k ∈ episodeNumbers (seasonData.foldl (upsertSeasonEpisodes
          (existingSeasons db.seasons seriesId) seriesId true · service) rows).episodes s.id ↔
          k ∈ lastReportedNumbers seasonData s.seasonNumber) := by
      subst hseries
      intro hreported
      rw [mem_episodeNumbers_foldl hseasons hrows hs hrowEpisodes seasonData
        fun sd hsd => List.mem_map_of_mem hsd, if_neg hreported]
    simp only [MergesSeasons, syncSeasons, hrows, Option.map_some, Option.some.injEq,
      exists_eq_left', hnew, true_and]
    constructor
    · intro hmerged number k hk
      have hreported : reportedNumbers seasonData number ≠ [] := List.ne_nil_of_mem hk
      have hnumber : number ∈ seasonData.map (·.seasonNumber) := by
        obtain ⟨sd, hsd, -⟩ := List.mem_flatMap.mp hk
        obtain ⟨hsd, hnumber⟩ := List.mem_filter.mp hsd
        exact List.mem_map.mpr ⟨sd, hsd, of_decide_eq_true hnumber⟩
      obtain ⟨s, hs, hseries, rfl⟩ := isStored_syncSeasonRows hseasons hrows hnumber
      have hperm := hmerged.episodes s (hrunSeasons ▸ hs) hseries hreported
      exact (hleft hs hseries k hreported).mp (hperm.mem_iff.mpr (List.mem_dedup.mpr hk))
    · intro hcovered
      constructor
      case seasons =>
        intro number hnumber
        rw [hrunSeasons, length_filter_number hkeys]
        exact isStored_syncSeasonRows hseasons hrows hnumber
      case episodes =>
        intro s hs hseries hreported
        rw [hrunSeasons] at hs
        refine (List.perm_ext_iff_of_nodup (nodup_episodeNumbers hrunKeys)
          (List.nodup_dedup _)).mpr fun k => ?_
        rw [hleft hs hseries k hreported, List.mem_dedup]
        exact ⟨fun hk => lastReportedNumbers_subset _ _ hk, fun hk => hcovered _ hk⟩

end Seasons

theorem mergesSeasons_twoEntries :
    MergesSeasons twoEpisodes 1 .plex [firstSeason [1], firstSeason [1, 2]] := by
  refine (mergesSeasons_iff ⟨by decide, by decide⟩ ⟨by decide, by decide⟩).mpr
    ⟨by decide, fun number => ?_⟩
  by_cases hnumber : number = 1
  · subst hnumber
    decide
  · have hother : ¬1 = number := fun heq => hnumber heq.symm
    simp [reportedNumbers, firstSeason, hother]

/-- The second entry of the season prunes the episode of the first. -/
theorem not_mergesSeasons_twoEntries :
    ¬MergesSeasons twoEpisodes 1 .plex [firstSeason [1], firstSeason [2]] := by
  rintro ⟨db', hrun, hmerged⟩
  have hepisodes : ∀ s ∈ db'.seasons, s.seriesId = 1 →
      reportedNumbers [firstSeason [1], firstSeason [2]] s.seasonNumber ≠ [] →
      (episodeNumbers db'.episodes s.id).Perm
        (reportedNumbers [firstSeason [1], firstSeason [2]] s.seasonNumber).dedup :=
    hmerged.episodes
  obtain rfl := Option.some.inj hrun
  revert hepisodes
  decide

end MediaMasterr.Sync
