import MediaMasterr.Candidates.Collectors
import MediaMasterr.Foundations.Joins

/-! # Scans and protections

Which records of a scan conflict with an active protection: two targets conflict when
they have an episode or a version in common. Only the seasons can, since their collector
does not read the protections of episodes. -/

namespace MediaMasterr.Candidates

open MediaMasterr.Database MediaMasterr.Foundations

/-! ## Conflicts -/

section Conflicts

variable (db : Tables)

/-- The versions that a target of a movie covers. -/
def coveredVersions (target : MediaTarget) : Set MovieVersion :=
  {v | v ∈ db.movieVersions ∧
    match target.movieVersionId with
    | some versionId => v.id = versionId
    | none => target.movieId = some v.movieId}

/-- The episodes that a target of a series covers. -/
def coveredEpisodes (target : MediaTarget) : Set Episode :=
  {e | e ∈ db.episodes ∧
    match target.episodeId, target.seasonId with
    | some episodeId, _ => e.id = episodeId
    | none, some seasonId => e.seasonId = seasonId
    | none, none => ∃ s ∈ db.seasons, s.id = e.seasonId ∧ target.seriesId = some s.seriesId}

/-- Two targets have a version or an episode in common. -/
def Conflicts (target target' : MediaTarget) : Prop :=
  target.mediaType = target'.mediaType ∧
    match target.mediaType with
    | .movie => (coveredVersions db target ∩ coveredVersions db target').Nonempty
    | .series => (coveredEpisodes db target ∩ coveredEpisodes db target').Nonempty

/-- Primary keys, and protections that name what their media belong to. -/
structure ProtectionsPlaced : Prop where
  versionIds : (db.movieVersions.map MovieVersion.id).Nodup
  seasonIds : (db.seasons.map Season.id).Nodup
  episodeIds : (db.episodes.map Episode.id).Nodup
  versions : ∀ p ∈ db.protectedMedia, p.mediaType = .movie → p.movieVersionId.isSome →
    p.movieId.isSome
  seasons : ∀ p ∈ db.protectedMedia, p.mediaType = .series → p.episodeId = none →
    ∀ s ∈ db.seasons, p.seasonId = some s.id → p.seriesId = some s.seriesId
  episodes : ∀ p ∈ db.protectedMedia, p.mediaType = .series → ∀ e ∈ db.episodes,
    p.episodeId = some e.id → ∀ s ∈ db.seasons, s.id = e.seasonId → p.seriesId = some s.seriesId

end Conflicts

section Scans

variable (tables : PythonText.CaseTables) (evaluate : ReclaimRule → RuleItem → Option RuleMatch)
  (texts : RecordTexts) (db : Tables) (now : Nat) (rules : List ReclaimRule)
  (excludeFavorites : Bool)

/-- The records of the four collectors. -/
def scanRecords : List MatchedCandidateRecord :=
  collectMovieVersionCandidateRecords tables evaluate texts db now rules excludeFavorites true ++
    collectSeriesCandidateRecords tables evaluate texts db now rules excludeFavorites true ++
    collectSeasonCandidateRecords tables evaluate texts db now rules excludeFavorites true ++
    collectEpisodeCandidateRecords tables evaluate texts db now rules excludeFavorites true

/-- No record of a scan conflicts with an active protection. -/
def NeverProposesProtected : Prop :=
  ∀ record ∈ scanRecords tables evaluate texts db now rules excludeFavorites,
    ∀ p ∈ db.protectedMedia, p.isActive now → ¬Conflicts db record.target p.target

/-- The season is in the library and no favorite, neither it nor its series is protected, and a
rule of its scope matches it. -/
structure SeasonMatched (series : Series) (season : Season) : Prop where
  series_mem : series ∈ db.series
  season_mem : season ∈ db.seasons
  ofSeries : season.seriesId = series.id
  inLibrary : series.removedAt = none
  favorite : series.tmdbId ∉ skippedFavorites db tables excludeFavorites .series
  unprotectedSeries : series.id ∉ protectedSeriesIds db now
  unprotectedSeason : season.id ∉ protectedSeasonIds db now
  rule : ∃ rule ∈ rules, (evaluateRuleForSeason evaluate series season rule).isSome

/-- A matched season has no episode that is protected by itself. -/
def NoEpisodeProtected : Prop :=
  ∀ series season, SeasonMatched tables evaluate db now rules excludeFavorites series season →
    ∀ e ∈ db.episodes, e.seasonId = season.id → e.id ∉ protectedEpisodeIds db now

end Scans

/-! ## What the collectors return -/

section Records

variable {tables : PythonText.CaseTables} {evaluate : ReclaimRule → RuleItem → Option RuleMatch}
  {texts : RecordTexts} {db : Tables} {now : Nat} {rules : List ReclaimRule}
  {excludeFavorites : Bool} {record : MatchedCandidateRecord}

theorem of_mem_collectSeries (h : record ∈
    collectSeriesCandidateRecords tables evaluate texts db now rules excludeFavorites true) :
    ∃ item : Series, item.id ∉ (activeProtectionsOf db now .series).filterMap (·.seriesId) ∧
      record.target = { mediaType := .series, seriesId := some item.id } := by
  simp only [collectSeriesCandidateRecords, if_true] at h
  obtain ⟨item, -, hrecord⟩ := List.mem_filterMap.mp h
  split_ifs at hrecord with hfavorite hprotected
  exact ⟨item, hprotected, (matchedRecord_eq_some hrecord).1⟩

theorem of_mem_collectMovieVersions (h : record ∈
    collectMovieVersionCandidateRecords tables evaluate texts db now rules excludeFavorites true) :
    ∃ v ∈ db.movieVersions, v.movieId ∉ protectedMovieIds db now ∧
      v.id ∉ protectedVersionIds db now ∧
      record.target =
        { mediaType := .movie, movieId := some v.movieId, movieVersionId := some v.id } := by
  simp only [collectMovieVersionCandidateRecords, if_true] at h
  obtain ⟨movie, -, hrecord⟩ := List.mem_flatMap.mp h
  split_ifs at hrecord with hfavorite hmovie
  · exact absurd hrecord List.not_mem_nil
  · exact absurd hrecord List.not_mem_nil
  · obtain ⟨v, hv, hrecord⟩ := List.mem_filterMap.mp hrecord
    obtain ⟨hv, hid⟩ := List.mem_filter.mp hv
    have hid := of_decide_eq_true hid
    split_ifs at hrecord with hversion
    refine ⟨v, hv, by rwa [hid], hversion, ?_⟩
    rw [(matchedRecord_eq_some hrecord).1, hid]

/-- The season records are those of the matched seasons. -/
theorem target_mem_collectSeasons_iff (target : MediaTarget) : (∃ record ∈
    collectSeasonCandidateRecords tables evaluate texts db now rules excludeFavorites true,
      record.target = target) ↔
    ∃ series season, SeasonMatched tables evaluate db now rules excludeFavorites series season ∧
      target =
        { mediaType := .series, seriesId := some series.id, seasonId := some season.id } := by
  simp only [collectSeasonCandidateRecords, if_true]
  constructor
  · rintro ⟨record, h, rfl⟩
    obtain ⟨series, hseries, hrecord⟩ := List.mem_flatMap.mp h
    obtain ⟨hseries, hlibrary⟩ := List.mem_filter.mp hseries
    split_ifs at hrecord with hfavorite hprotected
    · exact absurd hrecord List.not_mem_nil
    · exact absurd hrecord List.not_mem_nil
    · obtain ⟨season, hseason, hrecord⟩ := List.mem_filterMap.mp hrecord
      obtain ⟨hseason, hid⟩ := List.mem_filter.mp hseason
      split_ifs at hrecord with hprotectedSeason
      obtain ⟨htarget, hrule⟩ := matchedRecord_eq_some hrecord
      exact ⟨series, season, ⟨hseries, hseason, of_decide_eq_true hid,
        Option.isNone_iff_eq_none.mp hlibrary, hfavorite, hprotected, hprotectedSeason, hrule⟩,
        htarget⟩
  · rintro ⟨series, season, h, rfl⟩
    obtain ⟨record, hrecord⟩ : ∃ record, matchedRecord texts rules
        { mediaType := .series, seriesId := some series.id, seasonId := some season.id }
        targetSeason (some (seasonLabel season)) season.size
        (evaluateRuleForSeason evaluate series season) = some record := exists_matchedRecord h.rule
    refine ⟨record, List.mem_flatMap.mpr ⟨series, ?_, ?_⟩, (matchedRecord_eq_some hrecord).1⟩
    · exact List.mem_filter.mpr ⟨h.series_mem, Option.isNone_iff_eq_none.mpr h.inLibrary⟩
    · rw [if_neg h.favorite, if_neg h.unprotectedSeries]
      refine List.mem_filterMap.mpr ⟨season, ?_, ?_⟩
      · exact List.mem_filter.mpr ⟨h.season_mem, decide_eq_true h.ofSeries⟩
      · rw [if_neg h.unprotectedSeason]
        exact hrecord

theorem of_mem_collectEpisodes (h : record ∈
    collectEpisodeCandidateRecords tables evaluate texts db now rules excludeFavorites true) :
    ∃ s ∈ db.seasons, ∃ e ∈ db.episodes, e.seasonId = s.id ∧
      s.seriesId ∉ protectedSeriesIds db now ∧ s.id ∉ protectedSeasonIds db now ∧
      e.id ∉ protectedEpisodeIds db now ∧
      record.target = { mediaType := .series, seriesId := some s.seriesId, seasonId := some s.id,
                        episodeId := some e.id } := by
  simp only [collectEpisodeCandidateRecords, if_true] at h
  obtain ⟨series, -, hrecord⟩ := List.mem_flatMap.mp h
  split_ifs at hrecord with hfavorite hprotected
  · exact absurd hrecord List.not_mem_nil
  · exact absurd hrecord List.not_mem_nil
  · obtain ⟨season, hseason, hrecord⟩ := List.mem_flatMap.mp hrecord
    obtain ⟨hseason, hid⟩ := List.mem_filter.mp hseason
    have hid := of_decide_eq_true hid
    split_ifs at hrecord with hprotectedSeason
    · exact absurd hrecord List.not_mem_nil
    · obtain ⟨episode, hepisode, hrecord⟩ := List.mem_filterMap.mp hrecord
      obtain ⟨hepisode, hseasonId⟩ := List.mem_filter.mp hepisode
      split_ifs at hrecord with hprotectedEpisode
      refine ⟨season, hseason, episode, hepisode, of_decide_eq_true hseasonId, by rwa [hid],
        hprotectedSeason, hprotectedEpisode, ?_⟩
      rw [(matchedRecord_eq_some hrecord).1, hid]

end Records

/-! ## Conflicts with active protections -/

section Protections

variable {db : Tables} {now : Nat} {p : ProtectedMedia}

theorem mem_protectedIds_iff {mediaType : MediaType} {scope : ProtectedMedia → Bool}
    {column : ProtectedMedia → Option Nat} {id : Nat} :
    id ∈ ((activeProtectionsOf db now mediaType).filter scope).filterMap column ↔
      ∃ p ∈ db.protectedMedia, (p.mediaType = mediaType ∧ p.isActive now) ∧ scope p ∧
        column p = some id := by
  simp only [activeProtectionsOf, List.mem_filterMap, List.mem_filter, decide_eq_true_eq, and_assoc]

/-- A protection that covers an episode names its series, and is found for the episode, its season
or its series. -/
theorem protected_of_covered (h : ProtectionsPlaced db) (hp : p ∈ db.protectedMedia)
    (htype : p.mediaType = .series) (hactive : p.isActive now) {e : Episode}
    (he : e ∈ coveredEpisodes db p.target) {s : Season} (hs : s ∈ db.seasons)
    (hseason : s.id = e.seasonId) : p.seriesId = some s.seriesId ∧
      (e.id ∈ protectedEpisodeIds db now ∨ s.id ∈ protectedSeasonIds db now ∨
        s.seriesId ∈ protectedSeriesIds db now) := by
  obtain ⟨he, hcovers⟩ := he
  have htarget : p.target.episodeId = p.episodeId ∧ p.target.seasonId = p.seasonId ∧
      p.target.seriesId = p.seriesId := ⟨rfl, rfl, rfl⟩
  rw [htarget.1, htarget.2.1, htarget.2.2] at hcovers
  cases hepisode : p.episodeId with
  | some episodeId =>
    rw [hepisode] at hcovers
    obtain rfl : e.id = episodeId := hcovers
    refine ⟨h.episodes p hp htype e he hepisode s hs hseason, .inl ?_⟩
    exact mem_protectedIds_iff.mpr ⟨p, hp, ⟨htype, hactive⟩, by simp [isEpisodeScope, hepisode],
      hepisode⟩
  | none =>
    cases hseasonId : p.seasonId with
    | some seasonId =>
      rw [hepisode, hseasonId] at hcovers
      obtain rfl : e.seasonId = seasonId := hcovers
      rw [← hseason] at hseasonId
      refine ⟨h.seasons p hp htype hepisode s hs hseasonId, .inr (.inl ?_)⟩
      exact mem_protectedIds_iff.mpr ⟨p, hp, ⟨htype, hactive⟩,
        by simp [isSeasonScope, hepisode, hseasonId], hseasonId⟩
    | none =>
      rw [hepisode, hseasonId] at hcovers
      obtain ⟨s', hs', hid, hseries⟩ := hcovers
      obtain rfl := List.inj_on_of_nodup_map h.seasonIds hs' hs (hid.trans hseason.symm)
      refine ⟨hseries, .inr (.inr ?_)⟩
      exact mem_protectedIds_iff.mpr ⟨p, hp, ⟨htype, hactive⟩,
        by simp [isSeriesScope, hepisode, hseasonId], hseries⟩

/-- A protection that covers a version is found for it or for its movie. -/
theorem protected_of_coveredVersion (h : ProtectionsPlaced db) (hp : p ∈ db.protectedMedia)
    (htype : p.mediaType = .movie) (hactive : p.isActive now) {v : MovieVersion}
    (hv : v ∈ coveredVersions db p.target) :
    v.id ∈ protectedVersionIds db now ∨ v.movieId ∈ protectedMovieIds db now := by
  obtain ⟨hv, hcovers⟩ := hv
  have htarget : p.target.movieVersionId = p.movieVersionId ∧ p.target.movieId = p.movieId :=
    ⟨rfl, rfl⟩
  rw [htarget.1, htarget.2] at hcovers
  cases hversion : p.movieVersionId with
  | some versionId =>
    rw [hversion] at hcovers
    obtain rfl : v.id = versionId := hcovers
    have hmovie := h.versions p hp htype (by rw [hversion]; rfl)
    exact .inl (mem_protectedIds_iff.mpr ⟨p, hp, ⟨htype, hactive⟩, by simp [hmovie], hversion⟩)
  | none =>
    rw [hversion] at hcovers
    have hmovie : p.movieId = some v.movieId := hcovers
    exact .inr (mem_protectedIds_iff.mpr ⟨p, hp, ⟨htype, hactive⟩, by simp [hmovie, hversion],
      hmovie⟩)

end Protections

/-- A scan never proposes protected media exactly when no season that it matches has an episode
that is protected by itself. -/
theorem neverProposesProtected_iff (tables : PythonText.CaseTables)
    (evaluate : ReclaimRule → RuleItem → Option RuleMatch) (texts : RecordTexts) {db : Tables}
    (now : Nat) (rules : List ReclaimRule) (excludeFavorites : Bool) (h : ProtectionsPlaced db) :
    NeverProposesProtected tables evaluate texts db now rules excludeFavorites ↔
      NoEpisodeProtected tables evaluate db now rules excludeFavorites := by
  constructor
  · intro hnever series season hmatched e he hseason hmem
    obtain ⟨p, hp, ⟨htype, hactive⟩, -, hepisode⟩ := mem_protectedIds_iff.mp hmem
    obtain ⟨record, hrecord, htarget⟩ : ∃ record ∈
        collectSeasonCandidateRecords tables evaluate texts db now rules excludeFavorites true,
        record.target =
          { mediaType := .series, seriesId := some series.id, seasonId := some season.id } :=
      (target_mem_collectSeasons_iff _).mpr ⟨series, season, hmatched, rfl⟩
    refine hnever record ?_ p hp hactive ?_
    · rw [scanRecords, List.mem_append, List.mem_append]
      exact .inl (.inr hrecord)
    · rw [htarget]
      refine ⟨htype.symm, e, ⟨he, hseason⟩, he, ?_⟩
      change match p.episodeId, p.seasonId with
        | some episodeId, _ => e.id = episodeId
        | none, some seasonId => e.seasonId = seasonId
        | none, none => ∃ s ∈ db.seasons, s.id = e.seasonId ∧ p.seriesId = some s.seriesId
      rw [hepisode]
  · intro hnone record hrecord p hp hactive hconflict
    rw [scanRecords, List.mem_append, List.mem_append, List.mem_append] at hrecord
    rcases hrecord with ((hversion | hseries) | hseason) | hepisode
    · obtain ⟨v, hv, hmovie, hid, htarget⟩ := of_mem_collectMovieVersions hversion
      rw [htarget] at hconflict
      obtain ⟨htype, w, ⟨hw, hwid⟩, hcovered⟩ := hconflict
      obtain rfl := List.inj_on_of_nodup_map h.versionIds hw hv hwid
      rcases protected_of_coveredVersion h hp htype.symm hactive hcovered with hmem | hmem
      · exact hid hmem
      · exact hmovie hmem
    · obtain ⟨item, hprotected, htarget⟩ := of_mem_collectSeries hseries
      rw [htarget] at hconflict
      obtain ⟨htype, e, ⟨-, s, hs, hid, hitem⟩, hcovered⟩ := hconflict
      obtain ⟨hnamed, -⟩ := protected_of_covered h hp htype.symm hactive hcovered hs hid
      rw [← hitem] at hnamed
      refine hprotected (List.mem_filterMap.mpr ⟨p, ?_, hnamed⟩)
      exact List.mem_filter.mpr ⟨hp, decide_eq_true ⟨htype.symm, hactive⟩⟩
    · obtain ⟨series, season, hmatched, htarget⟩ :=
        (target_mem_collectSeasons_iff record.target).mp ⟨record, hseason, rfl⟩
      rw [htarget] at hconflict
      obtain ⟨htype, e, ⟨he, hid⟩, hcovered⟩ := hconflict
      obtain ⟨-, hmem | hmem | hmem⟩ := protected_of_covered h hp htype.symm hactive hcovered
        hmatched.season_mem hid.symm
      · exact hnone series season hmatched e he hid hmem
      · exact hmatched.unprotectedSeason hmem
      · exact hmatched.unprotectedSeries (hmatched.ofSeries ▸ hmem)
    · obtain ⟨s, hs, e, he, hid, hseries, hseason, hepisode, htarget⟩ :=
        of_mem_collectEpisodes hepisode
      rw [htarget] at hconflict
      obtain ⟨htype, e', ⟨he', heid⟩, hcovered⟩ := hconflict
      obtain rfl := List.inj_on_of_nodup_map h.episodeIds he' he heid
      obtain ⟨-, hmem | hmem | hmem⟩ := protected_of_covered h hp htype.symm hactive hcovered hs
        hid.symm
      · exact hepisode hmem
      · exact hseason hmem
      · exact hseries hmem

/-- One episode of a season of one series is protected by itself. -/
def protectedEpisodeLibrary : Tables where
  series := [{ id := 1, tmdbId := 100, title := "Show" }]
  seasons := [{ id := 1, seriesId := 1, seasonNumber := 1, size := some 1000 }]
  episodes := [{ id := 1, seasonId := 1, episodeNumber := 1 }]
  protectedMedia := [{ id := 1, mediaType := .series, seriesId := some 1, seasonId := some 1,
                       episodeId := some 1 }]

def seasonRule : ReclaimRule where
  id := 1
  mediaType := .series
  targetScope := some "season"

def plainTexts : RecordTexts := ⟨fun _ => "{}", fun _ => "Matched cleanup rule", fun _ => none⟩

/-- The season of the protected episode is proposed. -/
theorem not_neverProposesProtected_episode : ¬NeverProposesProtected ⟨id, id⟩
    (fun _ _ => some ⟨∅, []⟩) plainTexts protectedEpisodeLibrary 0 [seasonRule] true := by
  intro hnever
  have hmatched : SeasonMatched ⟨id, id⟩ (fun _ _ => some ⟨∅, []⟩) protectedEpisodeLibrary 0
      [seasonRule] true { id := 1, tmdbId := 100, title := "Show" }
      { id := 1, seriesId := 1, seasonNumber := 1, size := some 1000 } :=
    { series_mem := by decide
      season_mem := by decide
      ofSeries := rfl
      inLibrary := rfl
      favorite := by decide
      unprotectedSeries := by decide
      unprotectedSeason := by decide
      rule := ⟨seasonRule, List.mem_singleton.mpr rfl, by decide⟩ }
  obtain ⟨record, hrecord, htarget⟩ :
      ∃ record ∈ collectSeasonCandidateRecords ⟨id, id⟩ (fun _ _ => some ⟨∅, []⟩) plainTexts
          protectedEpisodeLibrary 0 [seasonRule] true true,
        record.target = { mediaType := .series, seriesId := some 1, seasonId := some 1 } :=
    (target_mem_collectSeasons_iff _).mpr ⟨_, _, hmatched, rfl⟩
  refine hnever record ?_ _ (List.mem_singleton.mpr rfl) (by decide) ?_
  · rw [scanRecords, List.mem_append, List.mem_append]
    exact .inl (.inr hrecord)
  · rw [htarget]
    have hcovered : ({ id := 1, seasonId := 1, episodeNumber := 1 } : Episode) ∈
        protectedEpisodeLibrary.episodes := List.mem_singleton.mpr rfl
    exact ⟨rfl, _, ⟨hcovered, rfl⟩, hcovered, rfl⟩

/-- Its first season is protected, and its second one is proposed. -/
def protectedSeasonLibrary : Tables where
  series := [{ id := 1, tmdbId := 100, title := "Show" }]
  seasons := [{ id := 1, seriesId := 1, seasonNumber := 1, size := some 1000 },
              { id := 2, seriesId := 1, seasonNumber := 2, size := some 1000 }]
  episodes := [{ id := 1, seasonId := 1, episodeNumber := 1 },
               { id := 2, seasonId := 2, episodeNumber := 1 }]
  protectedMedia := [{ id := 1, mediaType := .series, seriesId := some 1, seasonId := some 1 }]

theorem neverProposesProtected_season : NeverProposesProtected ⟨id, id⟩
    (fun _ _ => some ⟨∅, []⟩) plainTexts protectedSeasonLibrary 0 [seasonRule] true := by
  have hplaced : ProtectionsPlaced protectedSeasonLibrary :=
    { versionIds := by decide
      seasonIds := by decide
      episodeIds := by decide
      versions := by decide
      seasons := by decide
      episodes := by decide }
  have hnone : protectedEpisodeIds protectedSeasonLibrary 0 = [] := by decide
  refine (neverProposesProtected_iff ⟨id, id⟩ (fun _ _ => some ⟨∅, []⟩) plainTexts 0 [seasonRule]
    true hplaced).mpr fun series season hmatched e he hid => ?_
  rw [hnone]
  exact List.not_mem_nil

end MediaMasterr.Candidates
