import MediaMasterr.Correlation.TorrentNames
import MediaMasterr.Filesystem.Paths
import MediaMasterr.Foundations.BestScore
import MediaMasterr.Media.FilterMeaning

/-! # Best matches of a torrent

The searches of the correlation for the movie version and the episode that fit a torrent
best. A statement with `LIKE` patterns and a limit fetches rows, and the scores of these
rows are compared; so the result is the best of the library only where no better row is
left out. -/

namespace MediaMasterr.Correlation

open MediaMasterr.Foundations MediaMasterr.Database MediaMasterr.Filesystem

structure CatalogMovie extends Database.Movie where
  year : Option Nat := none
  viewCount : Nat := 0
  posterUrl : Option String := none
  backdropUrl : Option String := none
  deriving DecidableEq, Repr

structure CatalogSeries extends Database.Series where
  year : Option Nat := none
  posterUrl : Option String := none
  backdropUrl : Option String := none
  deriving DecidableEq, Repr

/-- The tables of the library. -/
structure Library where
  movies : List CatalogMovie := []
  movieVersions : List MovieVersion := []
  series : List CatalogSeries := []
  seasons : List Season := []
  episodes : List Episode := []

structure MovieRow where
  version : MovieVersion
  movie : CatalogMovie
  deriving DecidableEq

structure EpisodeRow where
  episode : Episode
  season : Season
  series : CatalogSeries
  deriving DecidableEq

/-- `select(MovieVersion, Movie).join(Movie, …)` -/
def Library.movieRows (library : Library) : List MovieRow :=
  library.movieVersions.flatMap fun version =>
    (library.movies.filter (·.id = version.movieId)).map (⟨version, ·⟩)

/-- `select(Episode, Season, Series).join(Season, …).join(Series, …)` -/
def Library.episodeRows (library : Library) : List EpisodeRow :=
  library.episodes.flatMap fun episode =>
    (library.seasons.filter (·.id = episode.seasonId)).flatMap fun season =>
      (library.series.filter (·.id = season.seriesId)).map (⟨episode, season, ·⟩)

/-- The joined rows in the order in which the database visits them. -/
structure RowVisits (library : Library) where
  movieRows : List MovieRow
  episodeRows : List EpisodeRow
  movieRows_perm : movieRows.Perm library.movieRows
  episodeRows_perm : episodeRows.Perm library.episodeRows

/-- What the searches know of a torrent. -/
structure TorrentEvidence where
  savePath : Option String
  token : String
  category : Option String
  deriving DecidableEq, Repr

/-- `"movie" in category or "radarr" in category` -/
def TorrentEvidence.isMovie (e : TorrentEvidence) : Bool :=
  e.category.any fun category =>
    PythonText.contains category "movie" || PythonText.contains category "radarr"

/-- `"series" in category or "sonarr" in category or "tv" in category` -/
def TorrentEvidence.isSeries (e : TorrentEvidence) : Bool :=
  e.category.any fun category => PythonText.contains category "series" ||
    PythonText.contains category "sonarr" || PythonText.contains category "tv"

section Scores

variable (t : PythonText.CaseTables)

/-- `normalize_fpath(path, strip_ending_slash=True, lower=True)` -/
def lowerFpath (path : String) : String :=
  if PythonText.strip path = "" then "" else t.lower (normalizeFpath path true)

def pathParts (path : String) : List String :=
  (((lowerFpath t path).toList.splitOn '/').map String.ofList).filter (· ≠ "")

/-- The number of equal parts at the start. -/
def commonDepth : List String → List String → Nat
  | left :: lefts, right :: rights => if left ≠ right then 0 else commonDepth lefts rights + 1
  | _, _ => 0

/-- `_path_overlap_depth`. -/
def pathOverlapDepth (left right : Option String) : Nat :=
  match left, right with
  | some left, some right =>
    if left = "" ∨ right = "" then 0 else commonDepth (pathParts t left) (pathParts t right)
  | _, _ => 0

def overlapScore (depth : Nat) : Int :=
  if 3 ≤ depth then 110 else if depth = 2 then 70 else if depth = 1 then 30 else 0

/-- What both scores give for the normalized path. -/
def pathScore (e : TorrentEvidence) (normalizedPath : String) : Int :=
  overlapScore (pathOverlapDepth t e.savePath (some normalizedPath)) +
    (if normalizedPath ≠ "" ∧ (e.savePath.any fun savePath =>
        savePath ≠ "" && PythonText.startsWith normalizedPath savePath) then 75 else 0) +
    if e.token ≠ "" ∧ normalizedPath ≠ "" ∧ PythonText.contains normalizedPath e.token then 45
    else 0

/-- `_movie_match_score`. -/
def movieMatchScore (versionPath : Option String) (movieTitle : String) (e : TorrentEvidence) :
    Int :=
  pathScore t e (lowerFpath t (versionPath.getD "")) +
    (if e.token ≠ "" ∧ PythonText.contains (t.lower movieTitle) e.token then 30 else 0) +
    (if e.isMovie then 10 else 0) - if e.isSeries then 5 else 0

/-- `_episode_match_score`. -/
def episodeMatchScore (episodePath : Option String) (seriesTitle : String)
    (episodeName : Option String) (e : TorrentEvidence) : Int :=
  pathScore t e (lowerFpath t (episodePath.getD "")) +
    (if e.token ≠ "" ∧ PythonText.contains (t.lower seriesTitle) e.token then 20 else 0) +
    (if e.token ≠ "" ∧ (episodeName.any fun name =>
        name ≠ "" && PythonText.contains (t.lower name) e.token) then 20 else 0) +
    (if e.isSeries then 10 else 0) - if e.isMovie then 5 else 0

end Scores

/-! ## The searches -/

/-- `func.lower(column).like(pattern)`; nothing is true of `NULL`. -/
def columnLike (column : Option String) (pattern : String) : Bool :=
  column.any fun text => Media.likeText (PythonText.asciiLower text) pattern

/-- The filters of a search: one for the path under the save path, and those for the columns that
may contain the token. -/
def searchFilters {Row : Type} (path : Row → Option String) (columns : List (Row → Option String))
    (e : TorrentEvidence) : List (Row → Bool) :=
  ((e.savePath.filter (· ≠ "")).toList.map fun savePath row =>
      columnLike (path row) (savePath ++ "%")) ++
    if e.token = "" then []
    else columns.map fun column row => columnLike (column row) ("%" ++ e.token ++ "%")

/-- The rows that the statement of a search fetches: nothing without a filter, else the first ones
with a path that a filter lets pass. -/
def fetchedRows {Row : Type} (path : Row → Option String) (filters : List (Row → Bool))
    (limit : Nat) (rows : List Row) : List Row :=
  if filters.isEmpty then []
  else (rows.filter fun row => (path row).isSome && filters.any (· row)).take limit

/-- A row with its score. -/
structure Match (Row : Type) where
  score : Int
  row : Row

def MovieRow.path (row : MovieRow) : Option String := row.version.path

def EpisodeRow.path (row : EpisodeRow) : Option String := row.episode.path

def MovieRow.toMatch (t : PythonText.CaseTables) (e : TorrentEvidence) (row : MovieRow) :
    Match MovieRow :=
  ⟨movieMatchScore t row.version.path row.movie.title e, row⟩

def EpisodeRow.toMatch (t : PythonText.CaseTables) (e : TorrentEvidence) (row : EpisodeRow) :
    Match EpisodeRow :=
  ⟨episodeMatchScore t row.episode.path row.series.title row.episode.name e, row⟩

section Searches

variable (t : PythonText.CaseTables) {library : Library} (visits : RowVisits library)
  (e : TorrentEvidence)

def movieFilters : List (MovieRow → Bool) :=
  searchFilters MovieRow.path [MovieRow.path, fun row => some row.movie.title] e

def episodeFilters : List (EpisodeRow → Bool) :=
  searchFilters EpisodeRow.path
    [EpisodeRow.path, fun row => some row.series.title, fun row => row.episode.name] e

def RowVisits.fetchedMovies : List MovieRow :=
  fetchedRows MovieRow.path (movieFilters e) 120 visits.movieRows

def RowVisits.fetchedEpisodes : List EpisodeRow :=
  fetchedRows EpisodeRow.path (episodeFilters e) 150 visits.episodeRows

/-- `_find_best_movie_match`. -/
def findBestMovieMatch : Option (Match MovieRow) :=
  ((visits.fetchedMovies e).map (MovieRow.toMatch t e)).foldl (keepBetter Match.score 80) none

/-- `_find_best_episode_match`. -/
def findBestEpisodeMatch : Option (Match EpisodeRow) :=
  ((visits.fetchedEpisodes e).map (EpisodeRow.toMatch t e)).foldl (keepBetter Match.score 70) none

end Searches

/-! ## True maxima -/

/-- The visit in the order of the tables. -/
def Library.visits (library : Library) : RowVisits library :=
  ⟨library.movieRows, library.episodeRows, .refl _, .refl _⟩

section Maxima

variable (t : PythonText.CaseTables) {library : Library} (visits : RowVisits library)
  (e : TorrentEvidence)

/-- The rows of the library with a path. -/
def Library.movieMatches (library : Library) : List (Match MovieRow) :=
  (library.movieRows.filter (·.path.isSome)).map (MovieRow.toMatch t e)

def Library.episodeMatches (library : Library) : List (Match EpisodeRow) :=
  (library.episodeRows.filter (·.path.isSome)).map (EpisodeRow.toMatch t e)

/-- The searches find the best of all rows with a path that reach the threshold. -/
structure TrueMaxima : Prop where
  movie : IsBest Match.score 80 (library.movieMatches t e) (findBestMovieMatch t visits e)
  episode : IsBest Match.score 70 (library.episodeMatches t e) (findBestEpisodeMatch t visits e)

/-- No row that the filters drop or the limit cuts off reaches the threshold, unless one of the
fetched rows is as good. -/
def LeavesOutNone {Row : Type} (toMatch : Row → Match Row) (threshold : Int)
    (rows fetched : List Row) : Prop :=
  ∀ row ∈ rows, row ∉ fetched → threshold ≤ (toMatch row).score →
    ∃ found ∈ fetched, (toMatch row).score ≤ (toMatch found).score

variable {t visits e} {Row : Type}

theorem isBest_search_iff {toMatch : Row → Match Row} (hrow : ∀ row, (toMatch row).row = row)
    {threshold : Int} {rows fetched : List Row} (hsub : fetched ⊆ rows) :
    IsBest Match.score threshold (rows.map toMatch)
        ((fetched.map toMatch).foldl (keepBetter Match.score threshold) none) ↔
      LeavesOutNone toMatch threshold rows fetched := by
  have hmem (row : Row) : toMatch row ∈ fetched.map toMatch ↔ row ∈ fetched := by
    constructor
    · intro h
      obtain ⟨found, hfound, heq⟩ := List.mem_map.mp h
      have hsame := congrArg Match.row heq
      rw [hrow, hrow] at hsame
      exact hsame ▸ hfound
    · exact List.mem_map_of_mem
  rw [isBest_iff_of_subset (isBest_foldl_keepBetter _) (List.map_subset _ hsub)]
  constructor
  · intro h row hrow hnot hreached
    obtain ⟨_, hfound, hle⟩ :=
      h _ (List.mem_map_of_mem hrow) (fun hin => hnot ((hmem row).mp hin)) hreached
    obtain ⟨found, hfetched, rfl⟩ := List.mem_map.mp hfound
    exact ⟨found, hfetched, hle⟩
  · intro h item hitem hnot hreached
    obtain ⟨row, hrow, rfl⟩ := List.mem_map.mp hitem
    obtain ⟨found, hfound, hle⟩ := h row hrow (fun hin => hnot (List.mem_map_of_mem hin)) hreached
    exact ⟨_, List.mem_map_of_mem hfound, hle⟩

theorem mem_fetchedRows {path : Row → Option String} {filters : List (Row → Bool)} {limit : Nat}
    {rows : List Row} {row : Row} (h : row ∈ fetchedRows path filters limit rows) :
    row ∈ rows.filter fun row => (path row).isSome := by
  unfold fetchedRows at h
  split_ifs at h
  · cases h
  · obtain ⟨hrow, hfound⟩ := List.mem_filter.mp (List.mem_of_mem_take h)
    exact List.mem_filter.mpr ⟨hrow, (Bool.and_eq_true_iff.mp hfound).1⟩

/-- The searches find true maxima exactly when they leave out no better row. -/
theorem trueMaxima_iff (t : PythonText.CaseTables) {library : Library} (visits : RowVisits library)
    (e : TorrentEvidence) :
    TrueMaxima t visits e ↔
      LeavesOutNone (MovieRow.toMatch t e) 80 (library.movieRows.filter (·.path.isSome))
          (visits.fetchedMovies e) ∧
        LeavesOutNone (EpisodeRow.toMatch t e) 70 (library.episodeRows.filter (·.path.isSome))
          (visits.fetchedEpisodes e) := by
  have hmovies : visits.fetchedMovies e ⊆ library.movieRows.filter (·.path.isSome) :=
    fun row hrow => (visits.movieRows_perm.filter _).subset (mem_fetchedRows hrow)
  have hepisodes : visits.fetchedEpisodes e ⊆ library.episodeRows.filter (·.path.isSome) :=
    fun row hrow => (visits.episodeRows_perm.filter _).subset (mem_fetchedRows hrow)
  rw [← isBest_search_iff (fun _ => rfl) hmovies, ← isBest_search_iff (fun _ => rfl) hepisodes]
  exact ⟨fun h => ⟨h.movie, h.episode⟩, fun h => ⟨h.1, h.2⟩⟩

def siblingVersion : MovieVersion where
  id := 1
  movieId := 1
  service := .plex
  serviceItemId := "9001"
  serviceMediaId := "9001-1"
  path := some "/d/films/hd/heat.mkv"

/-- A movie in the folder beside the save path. -/
def siblingFolder : Library where
  movies := [{ id := 1, tmdbId := 949, title := "Heat" }]
  movieVersions := [siblingVersion]

def siblingEvidence : TorrentEvidence := ⟨some "/d/films/hd/dune", "dune", none⟩

/-- Three shared folders score 110, but no pattern of the statement lets the row pass. -/
theorem not_trueMaxima_siblingFolder :
    ¬TrueMaxima asciiNames.toCaseTables siblingFolder.visits siblingEvidence := by
  intro h
  have hnone : (findBestMovieMatch asciiNames.toCaseTables siblingFolder.visits
      siblingEvidence).isNone = true := by decide +kernel
  have hbest := h.movie
  rw [Option.isNone_iff_eq_none.mp hnone] at hbest
  have hscores : (siblingFolder.movieMatches asciiNames.toCaseTables siblingEvidence).map
      Match.score = [110] := by decide +kernel
  obtain ⟨best, hmem, hscore⟩ := List.mem_map.mp (hscores ▸ List.mem_singleton_self 110)
  exact absurd (hscore ▸ hbest best hmem) (by decide)

end Maxima

/-! ## What the filters drop -/

section Dropped

variable {t : PythonText.CaseTables} {e : TorrentEvidence} {text : String}

theorem toList_asciiLower (s : String) :
    (PythonText.asciiLower s).toList = s.toList.map Char.toLower :=
  String.toList_ofList

theorem columnLike_of_startsWith {savePath : String}
    (h : PythonText.startsWith (PythonText.asciiLower text) savePath = true) :
    columnLike (some text) (savePath ++ "%") = true := by
  rw [columnLike, Option.any_some]
  have hstarts := (List.isPrefixOf_iff_prefix.mp h).map Char.toLower
  rw [← toList_asciiLower, ← toList_asciiLower] at hstarts
  have hstart : Media.TextComparison.startsWith = .contains ∨
      Media.TextComparison.startsWith = .startsWith ∨ Media.TextComparison.startsWith = .endsWith :=
    Or.inr (Or.inl rfl)
  have hlike := Media.likeText_of_holds hstart
    ((Media.TextComparison.holds_iff hstart (PythonText.asciiLower text) savePath).mpr hstarts)
  rw [Media.TextComparison.likePattern] at hlike
  exact hlike

theorem columnLike_of_contains {token : String}
    (h : PythonText.contains (PythonText.asciiLower text) token = true) :
    columnLike (some text) ("%" ++ token ++ "%") = true := by
  rw [columnLike, Option.any_some]
  obtain ⟨rest, hrest, hstarts⟩ := List.any_eq_true.mp h
  have hinfix := (List.isPrefixOf_iff_prefix.mp hstarts).isInfix.trans
    ((List.mem_tails _ _).mp hrest).isInfix
  have hlower := hinfix.map Char.toLower
  rw [← toList_asciiLower, ← toList_asciiLower] at hlower
  have hpart : Media.TextComparison.contains = .contains ∨
      Media.TextComparison.contains = .startsWith ∨ Media.TextComparison.contains = .endsWith :=
    Or.inl rfl
  have hlike := Media.likeText_of_holds hpart
    ((Media.TextComparison.holds_iff hpart (PythonText.asciiLower text) token).mpr hlower)
  have hpattern : Media.TextComparison.contains.likePattern token = "%" ++ token ++ "%" := rfl
  rw [hpattern] at hlike
  exact hlike

/-- In a dropped row neither does the path start with the save path nor does a text have the token,
as far as small and capital letters of ASCII go. -/
theorem searchFilters_dropped {Row : Type} {path : Row → Option String}
    {columns : List (Row → Option String)} {row : Row}
    (h : (searchFilters path columns e).any (· row) = false) :
    (∀ text ∈ path row, (e.savePath.any fun savePath => decide (savePath ≠ "") &&
        PythonText.startsWith (PythonText.asciiLower text) savePath) = false) ∧
      ∀ column ∈ columns, ∀ text ∈ column row,
        ¬(e.token ≠ "" ∧ PythonText.contains (PythonText.asciiLower text) e.token = true) := by
  rw [searchFilters, List.any_append, Bool.or_eq_false_iff] at h
  obtain ⟨hpath, hcolumns⟩ := h
  constructor
  · intro text htext
    cases hsave : e.savePath with
    | none => rfl
    | some savePath =>
      by_contra hstarts
      obtain ⟨hne, hstarts⟩ : savePath ≠ "" ∧
          PythonText.startsWith (PythonText.asciiLower text) savePath = true := by
        simpa using hstarts
      have hlike := columnLike_of_startsWith hstarts
      simp [hsave, Option.filter, hne, htext.symm ▸ hlike] at hpath
  · rintro column hcolumn text htext ⟨hne, hcontains⟩
    have hlike := columnLike_of_contains hcontains
    rw [if_neg hne, List.any_map, List.any_eq_false] at hcolumns
    have hnot := hcolumns column hcolumn
    simp only [Function.comp_apply, show column row = some text from htext] at hnot
    exact hnot hlike

/-- The texts are the same without normalization, but for capital letters of ASCII. -/
structure IsPlain (t : PythonText.CaseTables) (path : String) (texts : List String) : Prop where
  path : lowerFpath t path = PythonText.asciiLower path
  texts : ∀ text ∈ texts, t.lower text = PythonText.asciiLower text

/-- What is left of the evidence of a dropped row's path. -/
theorem pathScore_dropped {path : String}
    (hsave : (e.savePath.any fun savePath => decide (savePath ≠ "") &&
      PythonText.startsWith path savePath) = false)
    (htoken : ¬(e.token ≠ "" ∧ PythonText.contains path e.token = true)) :
    pathScore t e path = overlapScore (pathOverlapDepth t e.savePath (some path)) := by
  rw [pathScore, if_neg fun h => Bool.false_ne_true (hsave.symm.trans h.2),
    if_neg fun h => htoken ⟨h.1, h.2.2⟩, Int.add_zero, Int.add_zero]

/-- Shared parts alone reach a threshold when there are three of them, or two and the rest is
enough. -/
theorem reaches_overlapScore_iff {depth : Nat} {rest threshold : Int} (hleast : -5 ≤ rest)
    (hmost : rest ≤ 10) (hlow : 40 < threshold) (hhigh : threshold ≤ 105) :
    threshold ≤ overlapScore depth + rest ↔ 3 ≤ depth ∨ depth = 2 ∧ threshold ≤ 70 + rest := by
  unfold overlapScore
  split_ifs <;> omega

/-- A movie version that the filters drop reaches the threshold by the parts that its path shares
with the save path: three of them, or two in a category of movies only. -/
theorem reaches_of_dropped_movie {row : MovieRow} {path : String} (hpath : row.path = some path)
    (hplain : IsPlain t path [row.movie.title])
    (hdropped : (movieFilters e).any (· row) = false) :
    80 ≤ (row.toMatch t e).score ↔
      3 ≤ pathOverlapDepth t e.savePath (some (lowerFpath t path)) ∨
        pathOverlapDepth t e.savePath (some (lowerFpath t path)) = 2 ∧ e.isMovie ∧
          e.isSeries = false := by
  obtain ⟨hsave, hcolumns⟩ := searchFilters_dropped hdropped
  have htoken := hcolumns MovieRow.path (by simp) path hpath
  have htitle := hcolumns (fun row => some row.movie.title) (by simp) row.movie.title rfl
  rw [← hplain.path] at htoken
  rw [← hplain.texts _ (by simp)] at htitle
  have hscore : (row.toMatch t e).score =
      overlapScore (pathOverlapDepth t e.savePath (some (lowerFpath t path))) +
        ((if e.isMovie then 10 else 0) - if e.isSeries then 5 else 0) := by
    rw [← pathScore_dropped (hplain.path ▸ hsave path hpath) htoken, MovieRow.toMatch,
      movieMatchScore, show row.version.path = some path from hpath, Option.getD_some,
      if_neg htitle, Int.add_zero, Int.add_sub_assoc]
  rw [hscore, reaches_overlapScore_iff (by split_ifs <;> decide) (by split_ifs <;> decide)
    (by decide) (by decide)]
  cases e.isMovie <;> cases e.isSeries <;> simp

def siblingRow : MovieRow := ⟨siblingVersion, { id := 1, tmdbId := 949, title := "Heat" }⟩

/-- The movie beside the save path reaches the threshold, by three shared folders. -/
theorem reaches_of_dropped_movie_sibling :
    (movieFilters siblingEvidence).any (· siblingRow) = false ∧
      80 ≤ (siblingRow.toMatch asciiNames.toCaseTables siblingEvidence).score := by
  have hdropped : (movieFilters siblingEvidence).any (· siblingRow) = false := by decide +kernel
  have hplain : IsPlain asciiNames.toCaseTables "/d/films/hd/heat.mkv" ["Heat"] :=
    ⟨by decide +kernel, by decide +kernel⟩
  exact ⟨hdropped, (reaches_of_dropped_movie rfl hplain hdropped).mpr (.inl (by decide +kernel))⟩

end Dropped

end MediaMasterr.Correlation
