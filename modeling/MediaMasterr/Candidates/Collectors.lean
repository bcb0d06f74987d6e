import MediaMasterr.Candidates.ArrTags
import MediaMasterr.Candidates.Reconcile

/-! # The collectors of a candidate scan

`_collect_series_candidate_records`, `_collect_movie_version_candidate_records`,
`_collect_season_candidate_records` and `_collect_episode_candidate_records`: the media in
the library that are neither favorites nor protected, and that a rule matches. What
`evaluate_advanced_rule` answers is a parameter, and so are the texts of a record. -/

namespace MediaMasterr.Candidates

open MediaMasterr.Database MediaMasterr.Foundations MediaMasterr.Deletion

def targetSeason : String := "season"

def targetEpisode : String := "episode"

/-- What a rule is evaluated on. -/
inductive RuleItem where
  | movieVersion (movie : Movie) (version : MovieVersion)
  | series (series : Series)
  | season (series : Series) (season : Season)
  | episode (series : Series) (season : Season) (episode : Episode)

/-- The criteria and the conditions of a rule that matches; JSON values are kept as text. -/
structure RuleMatch where
  criteria : Dict String String
  conditions : List String

structure RuleReason where
  ruleId : Nat
  targetScope : String
  seasonLabel : Option String
  conditions : List String
  deriving DecidableEq, Repr

/-- How the columns of a record are written. -/
structure RecordTexts where
  criteria : Dict String String → String
  reason : List RuleReason → String
  reasonData : List RuleReason → Option String

def seasonLabel (season : Season) : String := "S" ++ twoDigits season.seasonNumber

def episodeLabel (season : Season) (episode : Episode) : String :=
  seasonLabel season ++ "E" ++ twoDigits episode.episodeNumber

/-! ## Rules on items -/

section Evaluation

variable (evaluate : ReclaimRule → RuleItem → Option RuleMatch)

/-- A rule of the scope on an item that counts. -/
def evaluateRuleFor (scope : String) (counts : Bool) (item : RuleItem) (rule : ReclaimRule) :
    Option RuleMatch :=
  if normalizeRuleTarget rule ≠ scope then none
  else if !counts then none
  else evaluate rule item

/-- `_evaluate_movie_rule` on a series. -/
def evaluateSeriesRule (item : Series) : ReclaimRule → Option RuleMatch :=
  evaluateRuleFor evaluate targetSeries true (.series item)

/-- The size of the version, or else the one of the movie. -/
def versionSize (movie : Movie) (version : MovieVersion) : Option Nat :=
  (if 0 < version.size then some version.size else movie.size).filter (· ≠ 0)

/-- `_evaluate_movie_version_rule`. -/
def evaluateMovieVersionRule (movie : Movie) (version : MovieVersion) (rule : ReclaimRule) :
    Option RuleMatch :=
  (evaluateRuleFor evaluate targetMovieVersion (versionSize movie version).isSome
    (.movieVersion movie version) rule).map fun m =>
      { m with criteria := (m.criteria.set "media_version_id" (toString version.id)).set "movie_id"
                (toString movie.id) }

/-- `_evaluate_rule_for_season`. -/
def evaluateRuleForSeason (series : Series) (season : Season) : ReclaimRule → Option RuleMatch :=
  evaluateRuleFor evaluate targetSeason (season.size.filter (· ≠ 0)).isSome (.season series season)

/-- `_evaluate_rule_for_episode`. -/
def evaluateRuleForEpisode (series : Series) (season : Season) (episode : Episode) :
    ReclaimRule → Option RuleMatch :=
  evaluateRuleFor evaluate targetEpisode true (.episode series season episode)

end Evaluation

/-- The record of an item, when a rule matches. -/
def matchedRecord (texts : RecordTexts) (rules : List ReclaimRule) (target : MediaTarget)
    (scope : String) (label : Option String) (size : Option Nat)
    (evaluateRule : ReclaimRule → Option RuleMatch) : Option MatchedCandidateRecord :=
  let matched := rules.filterMap fun rule => (evaluateRule rule).map (rule, ·)
  if matched.isEmpty then none
  else
    let criteria := matched.foldl
      (fun d m => m.2.criteria.entries.foldl (fun d e => d.set e.1 e.2) d) ∅
    -- a match without conditions leaves no reason
    let reasons := (matched.filter (!·.2.conditions.isEmpty)).map fun m =>
      ⟨m.1.id, scope, label, m.2.conditions⟩
    some {
      target := target
      matchedRuleIds := matched.map (·.1.id)
      matchedCriteria := texts.criteria criteria
      reason := texts.reason reasons
      reasonData := texts.reasonData reasons
      estimatedSpaceBytes := size.filter (· ≠ 0) }

theorem matchedRecord_eq_some {texts : RecordTexts} {rules : List ReclaimRule}
    {target : MediaTarget} {scope : String} {label : Option String} {size : Option Nat}
    {evaluateRule : ReclaimRule → Option RuleMatch} {record : MatchedCandidateRecord}
    (h : matchedRecord texts rules target scope label size evaluateRule = some record) :
    record.target = target ∧ ∃ rule ∈ rules, (evaluateRule rule).isSome := by
  rw [matchedRecord] at h
  dsimp only at h
  split_ifs at h with hempty
  obtain rfl := Option.some.inj h
  refine ⟨rfl, ?_⟩
  by_contra hnone
  push Not at hnone
  refine hempty (List.isEmpty_iff.mpr (List.filterMap_eq_nil_iff.mpr fun rule hrule => ?_))
  rw [Option.map_eq_none_iff, ← Option.not_isSome_iff_eq_none]
  exact hnone rule hrule

theorem exists_matchedRecord {texts : RecordTexts} {rules : List ReclaimRule}
    {target : MediaTarget} {scope : String} {label : Option String} {size : Option Nat}
    {evaluateRule : ReclaimRule → Option RuleMatch}
    (h : ∃ rule ∈ rules, (evaluateRule rule).isSome) :
    ∃ record, matchedRecord texts rules target scope label size evaluateRule = some record := by
  obtain ⟨rule, hrule, hsome⟩ := h
  obtain ⟨m, hm⟩ := Option.isSome_iff_exists.mp hsome
  rw [matchedRecord]
  dsimp only
  rw [if_neg]
  · exact ⟨_, rfl⟩
  · rw [List.isEmpty_iff]
    exact List.ne_nil_of_mem (List.mem_filterMap.mpr ⟨rule, hrule, by rw [hm]; rfl⟩)

/-! ## What is skipped -/

section Skipped

variable (db : Tables) (now : Nat)

/-- The active protections of one media type. -/
def activeProtectionsOf (mediaType : MediaType) : List ProtectedMedia :=
  db.protectedMedia.filter fun p => p.mediaType = mediaType ∧ p.isActive now

/-- `protected_series_ids`: the series that are protected as a whole. -/
def protectedSeriesIds : List Nat :=
  ((activeProtectionsOf db now .series).filter fun p =>
    isSeriesScope p.seasonId p.episodeId).filterMap (·.seriesId)

/-- `protected_season_ids`. -/
def protectedSeasonIds : List Nat :=
  ((activeProtectionsOf db now .series).filter fun p =>
    isSeasonScope p.seasonId p.episodeId).filterMap (·.seasonId)

/-- `protected_episode_ids`. -/
def protectedEpisodeIds : List Nat :=
  ((activeProtectionsOf db now .series).filter fun p =>
    isEpisodeScope p.episodeId).filterMap (·.episodeId)

/-- `protected_movie_ids`: the movies that are protected as a whole. -/
def protectedMovieIds : List Nat :=
  ((activeProtectionsOf db now .movie).filter fun p =>
    p.movieId.isSome ∧ p.movieVersionId.isNone).filterMap (·.movieId)

/-- `protected_version_ids`. -/
def protectedVersionIds : List Nat :=
  ((activeProtectionsOf db now .movie).filter (·.movieId.isSome)).filterMap (·.movieVersionId)

/-- `favorite_tmdb_ids`. -/
def skippedFavorites (tables : PythonText.CaseTables) (excludeFavorites : Bool)
    (mediaType : MediaType) : List Nat :=
  if db.effectiveSettings.favoritesIgnoreEnabled && excludeFavorites then
    loadFavoriteTmdbIds tables db mediaType
  else []

end Skipped

/-! ## The collectors -/

section Collectors

variable (tables : PythonText.CaseTables) (evaluate : ReclaimRule → RuleItem → Option RuleMatch)
  (texts : RecordTexts) (db : Tables) (now : Nat) (rules : List ReclaimRule)
  (excludeFavorites excludeProtected : Bool)

/-- `_collect_series_candidate_records`: any protection inside a series protects it. -/
def collectSeriesCandidateRecords : List MatchedCandidateRecord :=
  let favorites := skippedFavorites db tables excludeFavorites .series
  let protectedIds : List Nat := if excludeProtected then
    (activeProtectionsOf db now .series).filterMap (·.seriesId) else []
  (db.series.filter (·.removedAt.isNone)).filterMap fun item =>
    if item.tmdbId ∈ favorites then none
    else if item.id ∈ protectedIds then none
    else matchedRecord texts rules { mediaType := .series, seriesId := some item.id } targetSeries
      none item.size (evaluateSeriesRule evaluate item)

/-- `_collect_movie_version_candidate_records`. -/
def collectMovieVersionCandidateRecords : List MatchedCandidateRecord :=
  let favorites := skippedFavorites db tables excludeFavorites .movie
  let protectedMovies := if excludeProtected then protectedMovieIds db now else []
  let protectedVersions := if excludeProtected then protectedVersionIds db now else []
  (db.movies.filter (·.removedAt.isNone)).flatMap fun movie =>
    if movie.tmdbId ∈ favorites then []
    else if movie.id ∈ protectedMovies then []
    else (db.movieVersions.filter (·.movieId = movie.id)).filterMap fun version =>
      if version.id ∈ protectedVersions then none
      else matchedRecord texts rules
        { mediaType := .movie, movieId := some movie.id, movieVersionId := some version.id }
        targetMovieVersion none (versionSize movie version)
        (evaluateMovieVersionRule evaluate movie version)

/-- `_collect_season_candidate_records`. -/
def collectSeasonCandidateRecords : List MatchedCandidateRecord :=
  let favorites := skippedFavorites db tables excludeFavorites .series
  let protectedSeries := if excludeProtected then protectedSeriesIds db now else []
  let protectedSeasons := if excludeProtected then protectedSeasonIds db now else []
  (db.series.filter (·.removedAt.isNone)).flatMap fun series =>
    if series.tmdbId ∈ favorites then []
    else if series.id ∈ protectedSeries then []
    else (db.seasons.filter (·.seriesId = series.id)).filterMap fun season =>
      if season.id ∈ protectedSeasons then none
      else matchedRecord texts rules
        { mediaType := .series, seriesId := some series.id, seasonId := some season.id }
        targetSeason (some (seasonLabel season)) season.size
        (evaluateRuleForSeason evaluate series season)

/-- `_collect_episode_candidate_records`. -/
def collectEpisodeCandidateRecords : List MatchedCandidateRecord :=
  let favorites := skippedFavorites db tables excludeFavorites .series
  let protectedSeries := if excludeProtected then protectedSeriesIds db now else []
  let protectedSeasons := if excludeProtected then protectedSeasonIds db now else []
  let protectedEpisodes := if excludeProtected then protectedEpisodeIds db now else []
  (db.series.filter (·.removedAt.isNone)).flatMap fun series =>
    if series.tmdbId ∈ favorites then []
    else if series.id ∈ protectedSeries then []
    else (db.seasons.filter (·.seriesId = series.id)).flatMap fun season =>
      if season.id ∈ protectedSeasons then []
      else (db.episodes.filter (·.seasonId = season.id)).filterMap fun episode =>
        if episode.id ∈ protectedEpisodes then none
        else matchedRecord texts rules
          { mediaType := .series, seriesId := some series.id, seasonId := some season.id,
            episodeId := some episode.id }
          targetEpisode (some (episodeLabel season episode)) episode.size
          (evaluateRuleForEpisode evaluate series season episode)

end Collectors

end MediaMasterr.Candidates
