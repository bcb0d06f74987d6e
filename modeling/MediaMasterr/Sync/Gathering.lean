import Mathlib.Data.Prod.Lex
import Mathlib.Order.WithBot
import MediaMasterr.Foundations.BestScore
import MediaMasterr.Foundations.Maxima
import MediaMasterr.Foundations.Upserts
import MediaMasterr.Sync.Library

/-! # Gathering

`gather_movies` and `gather_series`: the entries that the servers report, with one entry for each
TMDB id. The entries of a movie are merged; of the entries of a series one wins, and the season
data of the others are kept beside it. -/

namespace MediaMasterr.Sync

open MediaMasterr.Foundations MediaMasterr.Database

local instance lawfulBEq_versionKey : LawfulBEq VersionKey := inferInstance

/-! ## Movies -/

/-- What a server reports of a movie, with its watch data. -/
structure GatheredMovie (ρ : Type*) extends AggregatedMovieData where
  year : Option Int := none
  viewCount : Int := 0
  lastViewedAt : Option Nat := none
  playedByUserCount : Option Int := none
  mediaServerUserRating : Option ρ := none
  deriving DecidableEq

section Movies

variable {ρ : Type*} [LinearOrder ρ]

/-- `merged_versions`. -/
def mergeVersions (existing versions : List MovieVersionData) : List MovieVersionData :=
  existing ++ versions.filter fun v => v.key ∉ existing.map MovieVersionData.key

def GatheredMovie.merge (existing movie : GatheredMovie ρ) : GatheredMovie ρ :=
  { existing with
    versions := mergeVersions existing.versions movie.versions
    viewCount := max existing.viewCount movie.viewCount
    lastViewedAt := maxOfPresent existing.lastViewedAt movie.lastViewedAt
    playedByUserCount := maxOfPresent existing.playedByUserCount movie.playedByUserCount
    mediaServerUserRating :=
      maxOfPresent existing.mediaServerUserRating movie.mediaServerUserRating }

/-- One round of the loop; a movie without a TMDB id is skipped. -/
def gatherMovie (uniqueMovies : Dict Nat (GatheredMovie ρ)) (movie : GatheredMovie ρ) :
    Dict Nat (GatheredMovie ρ) :=
  let tmdbId := movie.externalIds.tmdb
  if tmdbId = 0 then uniqueMovies
  else
    match uniqueMovies.get? tmdbId with
    | none => uniqueMovies.set tmdbId movie
    | some existing => uniqueMovies.set tmdbId (existing.merge movie)

/-- `gather_movies`, on what the servers report. -/
def gatherMovies (movies : List (GatheredMovie ρ)) : Dict Nat (GatheredMovie ρ) :=
  movies.foldl gatherMovie ∅

end Movies

/-! ## Series -/

structure GatheredSeries extends AggregatedSeriesData where
  lastViewedAt : Option Nat := none
  deriving DecidableEq

/-- `unique_series` and `supplemental`. -/
structure SeriesGathering where
  uniqueSeries : Dict Nat GatheredSeries := ∅
  supplemental : Dict Nat (List (Service × List AggregatedSeasonData)) := ∅

/-- `new and (not old or new > old)`. -/
def later (new old : Option Nat) : Bool := new.any fun date => old.all (· < date)

/-- The entry loses. -/
def GatheredSeries.stash (series : GatheredSeries) : Service × List AggregatedSeasonData :=
  (series.service, series.seasonData)

/-- One round of the loop. -/
def SeriesGathering.add (g : SeriesGathering) (series : GatheredSeries) : SeriesGathering :=
  let tmdbId := series.externalIds.tmdb
  if tmdbId = 0 then g
  else
    match g.uniqueSeries.get? tmdbId with
    | none => { g with uniqueSeries := g.uniqueSeries.set tmdbId series }
    | some existing =>
      if later series.lastViewedAt existing.lastViewedAt then
        { supplemental := g.supplemental.appendTo tmdbId existing.stash
          uniqueSeries := g.uniqueSeries.set tmdbId series }
      else if series.lastViewedAt = existing.lastViewedAt ∧
          later series.addedAt existing.addedAt then
        { supplemental := g.supplemental.appendTo tmdbId existing.stash
          uniqueSeries := g.uniqueSeries.set tmdbId series }
      else { g with supplemental := g.supplemental.appendTo tmdbId series.stash }

/-- `gather_series`, on what the servers report. -/
def gatherSeries (series : List GatheredSeries) : SeriesGathering :=
  series.foldl SeriesGathering.add {}

/-! ## What is kept of the series -/

/-- The dates that decide between two entries, a missing one before all others. -/
def GatheredSeries.rank (series : GatheredSeries) : Lex (WithBot Nat × WithBot Nat) :=
  toLex (series.lastViewedAt, series.addedAt)

theorem later_iff {new old : Option Nat} :
    later new old = true ↔ (show WithBot Nat from old) < (show WithBot Nat from new) := by
  cases new with
  | none => exact iff_of_false (Bool.false_ne_true) (WithBot.not_lt_bot _)
  | some date =>
    cases old with
    | none => exact iff_of_true rfl (WithBot.bot_lt_coe date)
    | some date' => exact decide_eq_true_iff.trans WithBot.coe_lt_coe.symm

theorem rank_lt_rank {existing series : GatheredSeries} : existing.rank < series.rank ↔
    later series.lastViewedAt existing.lastViewedAt ∨
      series.lastViewedAt = existing.lastViewedAt ∧ later series.addedAt existing.addedAt := by
  rw [later_iff, later_iff]
  refine Prod.Lex.toLex_lt_toLex.trans (or_congr_right (and_congr_left fun _ => ?_))
  exact eq_comm

/-- The entries of a TMDB id. -/
def entriesOf (series : List GatheredSeries) (tmdbId : Nat) : List GatheredSeries :=
  series.filter (·.externalIds.tmdb = tmdbId)

section Contest

variable {g : SeriesGathering} {next : GatheredSeries} {tmdbId : Nat}

/-- A round is a round of the contest under the TMDB id. -/
theorem add_contest {c : Option GatheredSeries × List GatheredSeries}
    (hid : next.externalIds.tmdb ≠ 0)
    (hwinner : g.uniqueSeries.get? next.externalIds.tmdb = c.1)
    (hothers : g.supplemental.listAt next.externalIds.tmdb = c.2.map GatheredSeries.stash) :
    (g.add next).uniqueSeries.get? next.externalIds.tmdb =
        (contest GatheredSeries.rank c next).1 ∧
      (g.add next).supplemental.listAt next.externalIds.tmdb =
        (contest GatheredSeries.rank c next).2.map GatheredSeries.stash := by
  rw [SeriesGathering.add, if_neg hid, hwinner, contest]
  cases hbest : c.1 with
  | none => exact ⟨by simp, hothers⟩
  | some existing =>
    dsimp only
    by_cases hviewed : later next.lastViewedAt existing.lastViewedAt = true
    · rw [if_pos hviewed, if_pos (rank_lt_rank.mpr (.inl hviewed))]
      simp [Dict.listAt_appendTo, hothers]
    · rw [if_neg hviewed]
      by_cases hadded : next.lastViewedAt = existing.lastViewedAt ∧
          later next.addedAt existing.addedAt
      · rw [if_pos hadded, if_pos (rank_lt_rank.mpr (.inr hadded))]
        simp [Dict.listAt_appendTo, hothers]
      · rw [if_neg hadded, if_neg fun h => (rank_lt_rank.mp h).elim hviewed hadded]
        exact ⟨hwinner.trans hbest, by simp [Dict.listAt_appendTo, hothers]⟩

/-- A round changes nothing under other TMDB ids. -/
theorem add_of_ne (hne : tmdbId ≠ next.externalIds.tmdb) :
    (g.add next).uniqueSeries.get? tmdbId = g.uniqueSeries.get? tmdbId ∧
      (g.add next).supplemental.listAt tmdbId = g.supplemental.listAt tmdbId := by
  unfold SeriesGathering.add
  dsimp only
  split_ifs
  · exact ⟨rfl, rfl⟩
  · cases g.uniqueSeries.get? next.externalIds.tmdb with
    | none => simp [hne]
    | some existing =>
      dsimp only
      split_ifs <;> simp [Dict.listAt_appendTo, hne]

end Contest

/-- The loop is a contest of the entries of every TMDB id. -/
theorem gatherSeries_contest (series : List GatheredSeries) {tmdbId : Nat} (hid : tmdbId ≠ 0) :
    let ended := (entriesOf series tmdbId).foldl (contest GatheredSeries.rank) (none, [])
    (gatherSeries series).uniqueSeries.get? tmdbId = ended.1 ∧
      (gatherSeries series).supplemental.listAt tmdbId = ended.2.map GatheredSeries.stash := by
  induction series using List.reverseRecOn with
  | nil => exact ⟨rfl, rfl⟩
  | append_singleton series next ih =>
    obtain ⟨hwinner, hothers⟩ := ih
    dsimp only
    rw [gatherSeries, List.foldl_concat, entriesOf, List.filter_append, List.foldl_append]
    change ((gatherSeries series).add next).uniqueSeries.get? tmdbId = _ ∧
      ((gatherSeries series).add next).supplemental.listAt tmdbId = _
    by_cases hsame : next.externalIds.tmdb = tmdbId
    · subst hsame
      have hlast : [next].filter (·.externalIds.tmdb = next.externalIds.tmdb) = [next] := by simp
      rw [hlast, List.foldl_cons, List.foldl_nil]
      exact add_contest hid hwinner hothers
    · have hlast : [next].filter (·.externalIds.tmdb = tmdbId) = [] := by simp [hsame]
      obtain ⟨hget, hlist⟩ := add_of_ne (g := gatherSeries series) (Ne.symm hsame)
      rw [hlast, List.foldl_nil, hget, hlist]
      exact ⟨hwinner, hothers⟩

/-- Of the entries of a TMDB id the first one with the latest dates is kept, and the others are
its supplements. -/
structure SeriesCopiesKept (series : List GatheredSeries) (tmdbId : Nat) : Prop where
  winner : ∀ winner, (gatherSeries series).uniqueSeries.get? tmdbId = some winner →
    ∃ others, FirstBest GatheredSeries.rank (entriesOf series tmdbId) winner others ∧
      (gatherSeries series).supplemental.listAt tmdbId = others.map GatheredSeries.stash
  none_iff : (gatherSeries series).uniqueSeries.get? tmdbId = none ↔ entriesOf series tmdbId = []
  no_others : entriesOf series tmdbId = [] →
    (gatherSeries series).supplemental.listAt tmdbId = []

theorem seriesCopiesKept (series : List GatheredSeries) {tmdbId : Nat} (hid : tmdbId ≠ 0) :
    SeriesCopiesKept series tmdbId := by
  obtain ⟨hwinner, hothers⟩ := gatherSeries_contest series hid
  rcases foldl_contest GatheredSeries.rank (entriesOf series tmdbId) with
    ⟨hended, hnil⟩ | ⟨best, others, hended, hbest⟩
  · rw [hended] at hwinner hothers
    refine ⟨fun winner h => ?_, iff_of_true hwinner hnil, fun _ => hothers⟩
    rw [hwinner] at h
    cases h
  · rw [hended] at hwinner hothers
    have hne : entriesOf series tmdbId ≠ [] := by
      intro hnil
      have hperm := hbest.perm
      rw [hnil] at hperm
      exact absurd hperm.symm.eq_nil (List.cons_ne_nil _ _)
    refine ⟨fun winner h => ?_, iff_of_false (by rw [hwinner]; simp) hne, fun h => absurd h hne⟩
    rw [hwinner] at h
    obtain rfl := Option.some.inj h
    exact ⟨others, hbest, hothers⟩

/-! ## What is kept of the movies -/

section Movies

variable {ρ : Type*} [LinearOrder ρ] {movies : List (GatheredMovie ρ)} {tmdbId : Nat}

def moviesOf (movies : List (GatheredMovie ρ)) (tmdbId : Nat) : List (GatheredMovie ρ) :=
  movies.filter (·.externalIds.tmdb = tmdbId)

/-- The version keys of entries. -/
def versionKeys (movies : List (GatheredMovie ρ)) : List VersionKey :=
  movies.flatMap fun movie => movie.versions.map MovieVersionData.key

/-- No entry has two versions with one key that the entries before it do not have. -/
def OwnKeysDistinct : List (GatheredMovie ρ) → Prop := fun movies =>
  ∀ before movie after, movies = before ++ movie :: after →
    ((movie.versions.map MovieVersionData.key).filter (· ∉ versionKeys before)).Nodup

/-- The entries of a TMDB id are merged into one: its versions are those of the entries, and its
watch data the latest and largest of theirs. -/
structure Merged (movies : List (GatheredMovie ρ)) (merged : GatheredMovie ρ) : Prop where
  keys : ∀ key, key ∈ merged.versions.map MovieVersionData.key ↔ key ∈ versionKeys movies
  versions : ∀ v ∈ merged.versions, ∃ movie ∈ movies, v ∈ movie.versions
  distinct : OwnKeysDistinct movies → (merged.versions.map MovieVersionData.key).Nodup
  viewCount : IsGreatest {n | ∃ movie ∈ movies, movie.viewCount = n} merged.viewCount
  lastViewedAt : IsMaxOf {t | ∃ movie ∈ movies, movie.lastViewedAt = some t} merged.lastViewedAt
  playedByUserCount :
    IsMaxOf {n | ∃ movie ∈ movies, movie.playedByUserCount = some n} merged.playedByUserCount
  mediaServerUserRating :
    IsMaxOf {r | ∃ movie ∈ movies, movie.mediaServerUserRating = some r}
      merged.mediaServerUserRating

theorem gatherMovie_eq (uniqueMovies : Dict Nat (GatheredMovie ρ)) (movie : GatheredMovie ρ) :
    gatherMovie uniqueMovies movie =
      if movie.externalIds.tmdb = 0 then uniqueMovies
      else uniqueMovies.set movie.externalIds.tmdb (Dict.upserted GatheredMovie.merge id
        (uniqueMovies.get? movie.externalIds.tmdb) movie) := by
  unfold gatherMovie
  dsimp only
  split_ifs
  · rfl
  · cases uniqueMovies.get? movie.externalIds.tmdb <;> rfl

/-- Under a TMDB id are its entries, merged from the first one on. -/
theorem get?_gatherMovies (hid : tmdbId ≠ 0) : (gatherMovies movies).get? tmdbId =
    (moviesOf movies tmdbId).foldl
      (fun merged movie => some (Dict.upserted GatheredMovie.merge id merged movie)) none := by
  induction movies using List.reverseRecOn with
  | nil => rfl
  | append_singleton movies movie ih =>
    rw [gatherMovies, List.foldl_concat, moviesOf, List.filter_append, List.foldl_append]
    change (gatherMovie (gatherMovies movies) movie).get? tmdbId = _
    rw [gatherMovie_eq]
    by_cases hsame : movie.externalIds.tmdb = tmdbId
    · subst hsame
      have hlast : [movie].filter (·.externalIds.tmdb = movie.externalIds.tmdb) = [movie] := by simp
      rw [hlast, if_neg hid, Dict.get?_set, if_pos rfl, ih]
      rfl
    · have hlast : [movie].filter (·.externalIds.tmdb = tmdbId) = [] := by simp [hsame]
      rw [hlast, List.foldl_nil]
      split_ifs
      · exact ih
      · rw [Dict.get?_set, if_neg (Ne.symm hsame)]
        exact ih

theorem keys_mergeVersions (existing versions : List MovieVersionData) :
    (mergeVersions existing versions).map MovieVersionData.key =
      existing.map MovieVersionData.key ++ (versions.map MovieVersionData.key).filter
        (· ∉ existing.map MovieVersionData.key) := by
  rw [mergeVersions, List.map_append, List.filter_map]
  rfl

theorem merged_singleton (movie : GatheredMovie ρ) : Merged [movie] movie where
  keys key := by simp [versionKeys]
  versions v hv := ⟨movie, List.mem_singleton_self _, hv⟩
  distinct h := by simpa [versionKeys] using h [] movie [] rfl
  viewCount := ⟨⟨movie, List.mem_singleton_self _, rfl⟩, by
    rintro n ⟨movie', hmem, rfl⟩
    rw [List.mem_singleton.mp hmem]⟩
  lastViewedAt := (isMaxOf_self _).congr fun x => by simp
  playedByUserCount := (isMaxOf_self _).congr fun x => by simp
  mediaServerUserRating := (isMaxOf_self _).congr fun x => by simp

omit [LinearOrder ρ] in
/-- A column whose maximum over the entries is kept. -/
theorem isMaxOf_concat {β : Type*} [LinearOrder β] {column : GatheredMovie ρ → Option β}
    {movies : List (GatheredMovie ρ)} {movie : GatheredMovie ρ} {o : Option β}
    (h : IsMaxOf {x | ∃ movie ∈ movies, column movie = some x} o) :
    IsMaxOf {x | ∃ m ∈ movies ++ [movie], column m = some x} (maxOfPresent o (column movie)) := by
  refine (h.union (isMaxOf_self (column movie))).congr fun x => ?_
  simp only [Set.mem_union, Set.mem_ofPred_eq, List.mem_append, List.mem_singleton, or_and_right,
    exists_or, exists_eq_left]

theorem Merged.concat {movies : List (GatheredMovie ρ)} {merged : GatheredMovie ρ}
    (h : Merged movies merged) (movie : GatheredMovie ρ) :
    Merged (movies ++ [movie]) (merged.merge movie) where
  keys key := by
    have hkeys : versionKeys (movies ++ [movie]) =
        versionKeys movies ++ movie.versions.map MovieVersionData.key := by simp [versionKeys]
    rw [GatheredMovie.merge, keys_mergeVersions, hkeys, List.mem_append, List.mem_append,
      List.mem_filter, decide_eq_true_iff, h.keys]
    by_cases hold : key ∈ versionKeys movies <;> simp [hold]
  versions v hv := by
    rcases List.mem_append.mp hv with hold | hnew
    · obtain ⟨movie', hmem, hv⟩ := h.versions v hold
      exact ⟨movie', List.mem_append_left _ hmem, hv⟩
    · exact ⟨movie, by simp, List.mem_of_mem_filter hnew⟩
  distinct hown := by
    have hbefore : OwnKeysDistinct movies := by
      rintro before movie' after rfl
      exact hown before movie' (after ++ [movie]) (by simp)
    have hlast := hown movies movie [] rfl
    rw [GatheredMovie.merge, keys_mergeVersions]
    have hsame : (movie.versions.map MovieVersionData.key).filter
        (· ∉ merged.versions.map MovieVersionData.key) =
          (movie.versions.map MovieVersionData.key).filter (· ∉ versionKeys movies) :=
      List.filter_congr fun key _ => decide_eq_decide.mpr (not_congr (h.keys key))
    refine (h.distinct hbefore).append (hsame ▸ hlast) fun key hkey hkey' => ?_
    exact of_decide_eq_true (List.mem_filter.mp hkey').2 hkey
  viewCount := by
    have hlast : IsGreatest {n | movie.viewCount = n} movie.viewCount :=
      ⟨rfl, fun n hn => (show movie.viewCount = n from hn).ge⟩
    have hset : {n | ∃ m ∈ movies ++ [movie], m.viewCount = n} =
        {n | ∃ m ∈ movies, m.viewCount = n} ∪ {n | movie.viewCount = n} := by
      ext n
      simp only [Set.mem_union, Set.mem_ofPred_eq, List.mem_append, List.mem_singleton,
        or_and_right, exists_or, exists_eq_left]
    rw [hset]
    exact h.viewCount.union hlast
  lastViewedAt := isMaxOf_concat h.lastViewedAt
  playedByUserCount := isMaxOf_concat h.playedByUserCount
  mediaServerUserRating := isMaxOf_concat h.mediaServerUserRating

/-- Under a TMDB id with entries stands what they are merged to. -/
structure MovieCopiesKept (movies : List (GatheredMovie ρ)) (tmdbId : Nat) : Prop where
  merged : ∀ movie, (gatherMovies movies).get? tmdbId = some movie →
    Merged (moviesOf movies tmdbId) movie
  none_iff : (gatherMovies movies).get? tmdbId = none ↔ moviesOf movies tmdbId = []

theorem movieCopiesKept (movies : List (GatheredMovie ρ)) (hid : tmdbId ≠ 0) :
    MovieCopiesKept movies tmdbId := by
  have hfold (movies : List (GatheredMovie ρ)) :
      movies.foldl (fun merged movie =>
        some (Dict.upserted GatheredMovie.merge id merged movie)) none = none ∧ movies = [] ∨
      ∃ movie, movies.foldl (fun merged movie =>
        some (Dict.upserted GatheredMovie.merge id merged movie)) none = some movie ∧
          movies ≠ [] ∧ Merged movies movie := by
    induction movies using List.reverseRecOn with
    | nil => exact .inl ⟨rfl, rfl⟩
    | append_singleton movies movie ih =>
      right
      rw [List.foldl_concat]
      rcases ih with ⟨hnone, rfl⟩ | ⟨merged, hsome, -, hmerged⟩
      · rw [hnone]
        exact ⟨movie, rfl, by simp, merged_singleton movie⟩
      · rw [hsome]
        exact ⟨merged.merge movie, rfl, by simp, hmerged.concat movie⟩
  have hget : (gatherMovies movies).get? tmdbId = _ := get?_gatherMovies hid
  rcases hfold (moviesOf movies tmdbId) with ⟨hnone, hnil⟩ | ⟨merged, hsome, hne, hmerged⟩
  · rw [hnone] at hget
    refine ⟨fun movie h => ?_, iff_of_true hget hnil⟩
    rw [hget] at h
    cases h
  · rw [hsome] at hget
    refine ⟨fun movie h => ?_, iff_of_false (by rw [hget]; simp) hne⟩
    rw [hget] at h
    exact Option.some.inj h ▸ hmerged

/-- For every TMDB id the entries that the servers report are all kept. -/
structure LosesNoCopy (series : List GatheredSeries) (movies : List (GatheredMovie ρ)) : Prop where
  series : ∀ tmdbId, tmdbId ≠ 0 → SeriesCopiesKept series tmdbId
  movies : ∀ tmdbId, tmdbId ≠ 0 → MovieCopiesKept movies tmdbId

theorem gathering_losesNoCopy (series : List GatheredSeries) (movies : List (GatheredMovie ρ)) :
    LosesNoCopy series movies :=
  ⟨fun _ hid => seriesCopiesKept series hid, fun _ hid => movieCopiesKept movies hid⟩

end Movies

/-- A movie that lists one file twice. -/
def listedTwice : GatheredMovie Nat :=
  { externalIds := ⟨603, none, none⟩
    versions := [⟨.plex, "10", "77", "", none, 0, none, none, none, none, none, none, none⟩,
      ⟨.plex, "10", "77", "", none, 0, none, none, none, none, none, none, none⟩] }

/-- The keys of a movie that is reported once are not made distinct. -/
theorem not_distinct_listedTwice : ¬∀ movie, (gatherMovies [listedTwice]).get? 603 = some movie →
    (movie.versions.map MovieVersionData.key).Nodup := by
  intro h
  exact absurd (h listedTwice rfl) (by decide)

end MediaMasterr.Sync
