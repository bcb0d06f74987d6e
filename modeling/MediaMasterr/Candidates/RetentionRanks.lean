import Mathlib.Data.Prod.Lex
import MediaMasterr.Candidates.SonarrRuleData
import MediaMasterr.Foundations.Joins
import MediaMasterr.Foundations.Ranks
import MediaMasterr.RuleEngine.Complements

/-! # Retention ranks

`_activate_rank_rule_data_for_rules`: the regular seasons of a series that have a
date are ranked from the newest on, and so are their episodes. Retention rules
read the ranks through the resolver. -/

namespace MediaMasterr.Candidates

open MediaMasterr.Foundations MediaMasterr.RuleEngine

/-! ## The rows -/

/-- The columns of a season that are read. -/
structure DatedSeason where
  id : Nat
  seriesId : Nat
  seasonNumber : Int
  airDate : Option PyDateTime := none
  arrAddedAt : Option PyDateTime := none

/-- The columns of an episode that are read. -/
structure DatedEpisode where
  id : Nat
  seasonId : Nat
  episodeNumber : Int
  airDate : Option PyDateTime := none
  arrAddedAt : Option PyDateTime := none

/-- `rank_date`, in UTC. -/
def rankDate (airDate arrAddedAt : Option PyDateTime) : Option Int :=
  (airDate <|> arrAddedAt).map utcMicros

def DatedSeason.rankDate (s : DatedSeason) : Option Int :=
  Candidates.rankDate s.airDate s.arrAddedAt

def DatedEpisode.rankDate (e : DatedEpisode) : Option Int :=
  Candidates.rankDate e.airDate e.arrAddedAt

/-- The rows that have a date, with it. -/
def withDates {α : Type*} (date : α → Option Int) (rows : List α) : List (α × Int) :=
  rows.filterMap fun row => (date row).map (row, ·)

/-- The regular seasons with a date. -/
def rankedSeasons (seasons : List DatedSeason) : List (DatedSeason × Int) :=
  withDates DatedSeason.rankDate (seasons.filter (0 < ·.seasonNumber))

/-- The episodes of regular seasons with a date, each with its season. -/
def rankedEpisodes (seasons : List DatedSeason) (episodes : List DatedEpisode) :
    List ((DatedEpisode × DatedSeason) × Int) :=
  withDates (DatedEpisode.rankDate ·.1)
    ((joinOn DatedEpisode.seasonId DatedSeason.id episodes seasons).filter (0 < ·.2.seasonNumber))

/-! ## The resolver -/

structure RankRuleDataResolver where
  seasonRankById : Dict Nat Nat := ∅
  episodeRankById : Dict Nat Nat := ∅

namespace RankRuleDataResolver

variable (resolver : RankRuleDataResolver)

/-- `season_rank`; `none` is the unavailable value. -/
def seasonRank (seasonId : Option Nat) : Option Nat := seasonId.bind resolver.seasonRankById.get?

/-- `episode_rank`; `none` is the unavailable value. -/
def episodeRank (episodeId : Option Nat) : Option Nat :=
  episodeId.bind resolver.episodeRankById.get?

end RankRuleDataResolver

section Activate

variable (py : PythonRuntime) (rules : List DefinedRule)

/-- `_rules_use_field`. -/
def rulesUseField (field : String) : Bool :=
  rules.any fun rule => !(collectRuleConditions py field rule).isEmpty

/-- `_rules_use_any_field`. -/
def rulesUseAnyField (fields : List String) : Bool := fields.any (rulesUseField py rules)

def seasonPositionField : String := "season.position_by_air_date"

def episodePositionField : String := "episode.position_by_air_date"

/-- `RANK_RULE_FIELDS`. -/
def rankRuleFields : List String := [episodePositionField, seasonPositionField]

/-- The sort key of a season. -/
def seasonKey (s : DatedSeason × Int) : Int ×ₗ Int := toLex (s.2, s.1.seasonNumber)

/-- The sort key of an episode. -/
def episodeKey (e : (DatedEpisode × DatedSeason) × Int) : Int ×ₗ Int ×ₗ Int :=
  toLex (e.2, toLex (e.1.2.seasonNumber, e.1.1.episodeNumber))

def seasonRanks (seasons : List DatedSeason) : Dict Nat Nat :=
  Ranks.ranks (·.1.seriesId) (·.1.id) seasonKey (rankedSeasons seasons)

def episodeRanks (seasons : List DatedSeason) (episodes : List DatedEpisode) : Dict Nat Nat :=
  Ranks.ranks (·.1.2.seriesId) (·.1.1.id) episodeKey (rankedEpisodes seasons episodes)

/-- `_activate_rank_rule_data_for_rules`: the resolver that it activates. -/
def activateRankRuleDataForRules (seasons : List DatedSeason) (episodes : List DatedEpisode) :
    RankRuleDataResolver :=
  if !rulesUseAnyField py rules rankRuleFields then {}
  else
    { seasonRankById :=
        if rulesUseField py rules seasonPositionField then seasonRanks seasons else ∅
      episodeRankById :=
        if rulesUseField py rules episodePositionField then episodeRanks seasons episodes
        else ∅ }

end Activate

/-! ## Ranked rows -/

section Rows

variable {α : Type*} {date : α → Option Int} {rows : List α} {row : α} {t : Int}

theorem mem_withDates_iff : (row, t) ∈ withDates date rows ↔ row ∈ rows ∧ date row = some t := by
  simp [withDates, Prod.ext_iff]

theorem map_fst_withDates (date : α → Option Int) (rows : List α) :
    ((withDates date rows).map Prod.fst).Sublist rows := by
  induction rows with
  | nil => exact List.Sublist.slnil
  | cons row rows ih =>
    unfold withDates at ih ⊢
    cases hdate : date row with
    | none =>
      rw [List.filterMap_cons_none (by rw [hdate]; rfl)]
      exact ih.cons row
    | some t =>
      rw [List.filterMap_cons_some (by rw [hdate]; rfl)]
      exact ih.cons_cons row

end Rows

/-- The primary and the unique keys of the two tables. -/
structure RankRowKeys (seasons : List DatedSeason) (episodes : List DatedEpisode) : Prop where
  seasonIds : (seasons.map DatedSeason.id).Nodup
  seasonNumbers : (seasons.map fun s => (s.seriesId, s.seasonNumber)).Nodup
  episodeIds : (episodes.map DatedEpisode.id).Nodup
  episodeNumbers : (episodes.map fun e => (e.seasonId, e.episodeNumber)).Nodup

section Keys

variable {seasons : List DatedSeason} {episodes : List DatedEpisode}

theorem mem_rankedSeasons_iff {s : DatedSeason} {t : Int} :
    (s, t) ∈ rankedSeasons seasons ↔ s ∈ seasons ∧ 0 < s.seasonNumber ∧ s.rankDate = some t := by
  simp [rankedSeasons, mem_withDates_iff, and_assoc]

theorem mem_rankedEpisodes_iff {e : DatedEpisode} {s : DatedSeason} {t : Int} :
    ((e, s), t) ∈ rankedEpisodes seasons episodes ↔
      e ∈ episodes ∧ s ∈ seasons ∧ s.id = e.seasonId ∧ 0 < s.seasonNumber ∧ e.rankDate = some t := by
  simp [rankedEpisodes, mem_withDates_iff, and_assoc]

theorem rankedSeasons_sublist (seasons : List DatedSeason) :
    ((rankedSeasons seasons).map Prod.fst).Sublist seasons :=
  (map_fst_withDates _ _).trans List.filter_sublist

theorem rankedEpisodes_sublist (h : RankRowKeys seasons episodes) :
    ((rankedEpisodes seasons episodes).map fun e => e.1.1).Sublist episodes := by
  have hdated := (map_fst_withDates (DatedEpisode.rankDate ·.1)
    ((joinOn DatedEpisode.seasonId DatedSeason.id episodes seasons).filter
      (0 < ·.2.seasonNumber))).trans List.filter_sublist
  have hjoined := (hdated.map Prod.fst).trans (map_fst_joinOn_sublist h.seasonIds episodes)
  rwa [List.map_map] at hjoined

theorem seasonIds_nodup (h : RankRowKeys seasons episodes) :
    ((rankedSeasons seasons).map (·.1.id)).Nodup := by
  have hids := h.seasonIds.sublist ((rankedSeasons_sublist seasons).map DatedSeason.id)
  rwa [List.map_map] at hids

theorem episodeIds_nodup (h : RankRowKeys seasons episodes) :
    ((rankedEpisodes seasons episodes).map (·.1.1.id)).Nodup := by
  have hids := h.episodeIds.sublist ((rankedEpisodes_sublist h).map DatedEpisode.id)
  rwa [List.map_map] at hids

/-- A season number settles a tie of the dates. -/
theorem seasonKeys_distinct (h : RankRowKeys seasons episodes) :
    Ranks.KeysDistinct (·.1.seriesId) seasonKey (rankedSeasons seasons) := by
  refine Ranks.KeysDistinct.of_injOn (seasonIds_nodup h).of_map ?_
  rintro ⟨s, t⟩ hs ⟨s', t'⟩ hs' hseries hkey
  obtain ⟨ht, hnumber⟩ := Prod.mk.inj (toLex_inj.mp hkey)
  have hrow : s = s' := List.inj_on_of_nodup_map h.seasonNumbers (mem_rankedSeasons_iff.mp hs).1
    (mem_rankedSeasons_iff.mp hs').1 (Prod.ext hseries hnumber)
  exact Prod.ext hrow ht

/-- The season and episode numbers settle a tie of the dates. -/
theorem episodeKeys_distinct (h : RankRowKeys seasons episodes) :
    Ranks.KeysDistinct (·.1.2.seriesId) episodeKey (rankedEpisodes seasons episodes) := by
  refine Ranks.KeysDistinct.of_injOn (episodeIds_nodup h).of_map ?_
  rintro ⟨⟨e, s⟩, t⟩ he ⟨⟨e', s'⟩, t'⟩ he' hseries hkey
  obtain ⟨hmem, hs, hid, -, -⟩ := mem_rankedEpisodes_iff.mp he
  obtain ⟨hmem', hs', hid', -, -⟩ := mem_rankedEpisodes_iff.mp he'
  obtain ⟨ht, hnumbers⟩ := Prod.mk.inj (toLex_inj.mp hkey)
  obtain ⟨hseason, hepisode⟩ := Prod.mk.inj (toLex_inj.mp hnumbers)
  obtain rfl : s = s' :=
    List.inj_on_of_nodup_map h.seasonNumbers hs hs' (Prod.ext hseries hseason)
  have hrow : e = e' := List.inj_on_of_nodup_map h.episodeNumbers hmem hmem'
    (Prod.ext (hid.symm.trans hid') hepisode)
  exact Prod.ext (Prod.ext hrow rfl) ht

end Keys

/-! ## The ranks -/

section Ranks

variable (py : PythonRuntime) (rules : List DefinedRule)
variable {seasons : List DatedSeason} {episodes : List DatedEpisode}

theorem rulesUseAnyField_of_mem {fields : List String} {field : String} (hfield : field ∈ fields)
    (h : rulesUseField py rules field = true) : rulesUseAnyField py rules fields = true :=
  List.any_eq_true.mpr ⟨field, hfield, h⟩

theorem seasonRankById_activate :
    (activateRankRuleDataForRules py rules seasons episodes).seasonRankById =
    if rulesUseField py rules seasonPositionField then seasonRanks seasons else ∅ := by
  unfold activateRankRuleDataForRules
  by_cases huse : rulesUseField py rules seasonPositionField = true
  · rw [rulesUseAnyField_of_mem py rules (by simp [rankRuleFields]) huse]
    rfl
  · rw [if_neg huse]
    split_ifs <;> rfl

theorem episodeRankById_activate :
    (activateRankRuleDataForRules py rules seasons episodes).episodeRankById =
      if rulesUseField py rules episodePositionField then episodeRanks seasons episodes else ∅ := by
  unfold activateRankRuleDataForRules
  by_cases huse : rulesUseField py rules episodePositionField = true
  · rw [rulesUseAnyField_of_mem py rules (by simp [rankRuleFields]) huse]
    rfl
  · rw [if_neg huse]
    split_ifs <;> rfl

/-- The ranks that retention rules read: for the rules that ask for a position, the newest
season or episode of a series comes first and the ranks of a series are gapless; specials and
rows without a date have none. -/
theorem activateRankRuleDataForRules_correct (h : RankRowKeys seasons episodes) :
    let resolver := activateRankRuleDataForRules py rules seasons episodes
    (rulesUseField py rules seasonPositionField = true →
      Ranks.Correct (·.1.seriesId) (·.1.id) seasonKey (rankedSeasons seasons)
        fun id => resolver.seasonRank (some id)) ∧
    (rulesUseField py rules episodePositionField = true →
      Ranks.Correct (·.1.2.seriesId) (·.1.1.id) episodeKey (rankedEpisodes seasons episodes)
        fun id => resolver.episodeRank (some id)) ∧
    (∀ s ∈ seasons, rulesUseField py rules seasonPositionField = false ∨ s.seasonNumber ≤ 0 ∨
      s.rankDate = none → resolver.seasonRank (some s.id) = none) ∧
    (∀ e ∈ episodes, ∀ s ∈ seasons, s.id = e.seasonId →
      rulesUseField py rules episodePositionField = false ∨ s.seasonNumber ≤ 0 ∨
      e.rankDate = none → resolver.episodeRank (some e.id) = none) := by
  have hseason := Ranks.ranks_correct (seasonIds_nodup h) (seasonKeys_distinct h)
  have hepisode := Ranks.ranks_correct (episodeIds_nodup h) (episodeKeys_distinct h)
  dsimp only [RankRuleDataResolver.seasonRank, RankRuleDataResolver.episodeRank, Option.bind_some]
  rw [seasonRankById_activate, episodeRankById_activate]
  refine ⟨fun huse => ?_, fun huse => ?_, fun s hs hnone => ?_, fun e he s hs hid hnone => ?_⟩
  · rw [if_pos huse]
    exact hseason
  · rw [if_pos huse]
    exact hepisode
  · split_ifs with huse
    · refine hseason.other s.id ?_
      rintro ⟨s', t⟩ hs' hid
      obtain ⟨hmem, hregular, hdate⟩ := mem_rankedSeasons_iff.mp hs'
      obtain rfl := List.inj_on_of_nodup_map h.seasonIds hmem hs hid
      rcases hnone with hunused | hspecial | hundated
      · exact absurd huse (by simp [hunused])
      · exact absurd hregular (not_lt.mpr hspecial)
      · exact absurd hdate (by simp [hundated])
    · rfl
  · split_ifs with huse
    · refine hepisode.other e.id ?_
      rintro ⟨⟨e', s'⟩, t⟩ he' hid'
      obtain ⟨hmem, hs', hseason', hregular, hdate⟩ := mem_rankedEpisodes_iff.mp he'
      obtain rfl := List.inj_on_of_nodup_map h.episodeIds hmem he hid'
      obtain rfl := List.inj_on_of_nodup_map h.seasonIds hs' hs (hseason'.trans hid.symm)
      rcases hnone with hunused | hspecial | hundated
      · exact absurd huse (by simp [hunused])
      · exact absurd hregular (not_lt.mpr hspecial)
      · exact absurd hdate (by simp [hundated])
    · rfl

end Ranks

/-- Two seasons of one moment, stated with and without an offset, and a special. -/
def simultaneousSeasons : List DatedSeason :=
  [{ id := 1, seriesId := 7, seasonNumber := 1, airDate := some ⟨60, some 60⟩ },
    { id := 2, seriesId := 7, seasonNumber := 2, arrAddedAt := some ⟨0, none⟩ },
    { id := 3, seriesId := 7, seasonNumber := 0, airDate := some ⟨90, none⟩ }]

/-- All but the newest season. -/
def olderSeasonsRule : DefinedRule where
  rule := { id := 1, mediaType := .series }
  root := some (.condition seasonPositionField "greater_than" .none)

theorem activateRankRuleDataForRules_simultaneous :
    let resolver := activateRankRuleDataForRules PythonRuntime.plainRuntime [olderSeasonsRule]
      simultaneousSeasons []
    resolver.seasonRank (some 1) = some 2 ∧ resolver.seasonRank (some 3) = none := by
  have hkeys : RankRowKeys simultaneousSeasons [] := by constructor <;> decide
  have h := activateRankRuleDataForRules_correct PythonRuntime.plainRuntime [olderSeasonsRule] hkeys
  have huse :
      rulesUseField PythonRuntime.plainRuntime [olderSeasonsRule] seasonPositionField = true := by
    decide +kernel
  exact ⟨(h.1 huse).position (_, 0) (.head _),
    h.2.2.1 _ (.tail _ (.tail _ (.head _))) (.inr (.inl (by decide)))⟩

end MediaMasterr.Candidates
