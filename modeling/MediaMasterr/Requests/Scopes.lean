import Mathlib.Logic.Relation
import MediaMasterr.Requests.Store

/-! # Scopes of requests

Which media a request, a protection or a candidate covers, and what the handlers
that create requests and protections share: the media that they look up, and the
clauses by which their queries compare scopes. -/

namespace MediaMasterr.Database.Tables

variable (db : Tables)

/-! ## Containment -/

/-- The season of a target; that of an episode is the one in the library. -/
def seasonOf (target : MediaTarget) : Option Nat :=
  match target.episodeId with
  | some episodeId => (db.findEpisode episodeId).map Episode.seasonId
  | none => target.seasonId

def CoversMovie (outer inner : MediaTarget) : Prop :=
  outer.movieId.isSome ∧ outer.movieId = inner.movieId ∧
    (outer.movieVersionId = none ∨ outer.movieVersionId = inner.movieVersionId)

instance (outer inner : MediaTarget) : Decidable (CoversMovie outer inner) :=
  inferInstanceAs (Decidable (_ ∧ _ ∧ _))

/-- The seasons and episodes of a series: all of them, those of a season, or one episode. -/
def CoversSeries (outer inner : MediaTarget) : Prop :=
  outer.seriesId.isSome ∧ outer.seriesId = inner.seriesId ∧
    if outer.episodeId.isSome then outer.episodeId = inner.episodeId
    else outer.seasonId = none ∨ outer.seasonId = db.seasonOf inner

instance (outer inner : MediaTarget) : Decidable (db.CoversSeries outer inner) :=
  inferInstanceAs (Decidable (_ ∧ _ ∧ _))

/-- A target covers another one: they are the same, or the other one is a part of it. -/
def Covers (outer inner : MediaTarget) : Prop := CoversMovie outer inner ∨
    db.CoversSeries outer inner

instance (outer inner : MediaTarget) : Decidable (db.Covers outer inner) :=
  inferInstanceAs (Decidable (_ ∨ _))

def Overlaps : MediaTarget → MediaTarget → Prop := Relation.SymmGen db.Covers

instance (target target' : MediaTarget) : Decidable (db.Overlaps target target') :=
  inferInstanceAs (Decidable (db.Covers target target' ∨ db.Covers target' target))

theorem overlaps_iff {target target' : MediaTarget} :
    db.Overlaps target target' ↔ db.Covers target target' ∨ db.Covers target' target := Iff.rfl

end MediaMasterr.Database.Tables

namespace MediaMasterr.Requests

open MediaMasterr.Database

/-! ## Checks of a handler -/

/-- Raise the error, unless the condition holds. -/
def check (condition : Prop) [Decidable condition] (e : ApiError) : Except ApiError Unit :=
  if condition then .ok () else .error e

theorem check_eq_ok {condition : Prop} [Decidable condition] {e : ApiError} {u : Unit} :
    check condition e = .ok u ↔ condition := by
  rw [check]
  split_ifs with h <;> simp [h]

theorem check_eq_error {condition : Prop} [Decidable condition] {e e' : ApiError} :
    check condition e = .error e' ↔ ¬condition ∧ e = e' := by
  rw [check]
  split_ifs with h <;> simp [h]

theorem check_of {condition : Prop} [Decidable condition] (h : condition) (e : ApiError) :
    check condition e = .ok () := if_pos h

theorem bind_eq_ok {α β : Type} {x : Except ApiError α} {f : α → Except ApiError β} {b : β} :
    x >>= f = .ok b ↔ ∃ a, x = .ok a ∧ f a = .ok b := by
  cases x <;> simp [bind, Except.bind]

theorem bind_eq_error {α β : Type} {x : Except ApiError α} {f : α → Except ApiError β}
    {e : ApiError} : x >>= f = .error e ↔ x = .error e ∨ ∃ a, x = .ok a ∧ f a = .error e := by
  cases x <;> simp [bind, Except.bind]

theorem scalarOneOrNone_eq_error {α : Type*} {rows : List α} {e : ApiError} :
    scalarOneOrNone rows = .error e ↔ 1 < rows.length ∧ e = .multipleResultsFound := by
  rcases rows with _ | ⟨a, _ | ⟨b, rows⟩⟩ <;> simp [scalarOneOrNone, eq_comm]

theorem scalarOneOrNone_eq_none {α : Type*} {rows : List α} :
    scalarOneOrNone rows = .ok none ↔ rows = [] := by
  rcases rows with _ | ⟨a, _ | ⟨b, rows⟩⟩ <;> simp [scalarOneOrNone]

theorem scalarOneOrNone_eq_some {α : Type*} {rows : List α} {row : α} :
    scalarOneOrNone rows = .ok (some row) ↔ rows = [row] := by
  rcases rows with _ | ⟨a, _ | ⟨b, rows⟩⟩ <;> simp [scalarOneOrNone]

/-! ## What is asked for -/

/-- The `user` of a handler, and the permissions that a handler asks for. -/
structure User where
  id : Nat
  request : Bool := true
  autoApprove : Bool := false
  manageProtection : Bool := false
  deriving DecidableEq, Repr

/-- `CreateDeleteRequest`. -/
structure CreateDeleteRequest where
  mediaType : MediaType
  mediaId : Nat
  reason : Option String := none
  movieVersionId : Option Nat := none
  seasonId : Option Nat := none
  episodeId : Option Nat := none
  deriving DecidableEq, Repr

/-- `CreateProtectionRequest` and `CreateProtectedEntryRequest`, which have the same fields. -/
structure CreateProtectionRequest extends CreateDeleteRequest where
  durationDays : Option Int := none
  deriving DecidableEq, Repr

/-- The rows that name the part of a series. -/
structure SeriesScope where
  season : Option Season := none
  episode : Option Episode := none
  deriving DecidableEq, Repr

section

variable (db : Tables)

/-- A movie that has no `removed_at`. -/
def findMovieInLibrary (id : Nat) : Option Movie := (db.findMovie id).filter (·.removedAt.isNone)

/-- A series that has no `removed_at`. -/
def findSeriesInLibrary (id : Nat) : Option Series := (db.findSeries id).filter (·.removedAt.isNone)

def findVersionOfMovie (movieId versionId : Nat) : Option MovieVersion :=
  (db.findVersion versionId).filter (·.movieId = movieId)

def findSeasonOfSeries (seriesId seasonId : Nat) : Option Season :=
  (db.findSeason seasonId).filter (·.seriesId = seriesId)

def findEpisodeOfSeries (seriesId episodeId : Nat) : Option (Season × Episode) := do
  let episode ← db.findEpisode episodeId
  let season ← findSeasonOfSeries db seriesId episode.seasonId
  return (season, episode)

/-- `_resolve_series_scope` of delete requests and of protections. -/
def resolveSeriesScope (mediaId : Nat) (seasonId episodeId : Option Nat) :
    Except ApiError SeriesScope :=
  match seasonId, episodeId with
  | some _, some _ => .error (.http 400 "Specify either season_id or episode_id, not both")
  | none, some episodeId =>
    match findEpisodeOfSeries db mediaId episodeId with
    | none => .error (.http 404 "Episode not found")
    | some (season, episode) => .ok { season := season, episode := episode }
  | some seasonId, none =>
    match findSeasonOfSeries db mediaId seasonId with
    | none => .error (.http 404 "Season not found")
    | some season => .ok { season := season }
  | none, none => .ok {}

end

/-- The columns of the media that are asked for. -/
def CreateDeleteRequest.target (data : CreateDeleteRequest) (scope : SeriesScope) :
    MediaTarget where
  mediaType := data.mediaType
  movieId := if data.mediaType = .movie then some data.mediaId else none
  movieVersionId := data.movieVersionId
  seriesId := if data.mediaType = .series then some data.mediaId else none
  seasonId := scope.season.map Season.id
  episodeId := scope.episode.map Episode.id

/-! ## Clauses -/

/-- `_series_scope_overlap_clause`. -/
def seriesScopeOverlapClause (seasonId episodeId : Option Nat) (row : MediaTarget) : Bool :=
  if episodeId.isSome then
    row.seasonId = none ∧ row.episodeId = none ∨ row.seasonId = seasonId ∧ row.episodeId = none ∨
      row.episodeId = episodeId
  else if seasonId.isSome then
    row.seasonId = none ∧ row.episodeId = none ∨ row.seasonId = seasonId ∧ row.episodeId = none
  else row.seasonId = none ∧ row.episodeId = none

/-- The scope names the media as the library has them. -/
def IsPlaced (db : Tables) (target : MediaTarget) : Prop := target.seasonId = db.seasonOf target

/-- The clause finds the rows of the series that cover a scope, not those inside it. -/
theorem seriesScopeOverlapClause_iff {db : Tables} {target row : MediaTarget}
    (hplaced : IsPlaced db target)
    (hseason : target.episodeId.isSome → target.seasonId.isSome)
    (hseries : target.seriesId.isSome) (hrow : row.seriesId = target.seriesId) :
    seriesScopeOverlapClause target.seasonId target.episodeId row = true ↔
      db.CoversSeries row target := by
  rw [Tables.CoversSeries, ← hplaced]
  simp only [hseries, hrow, true_and]
  rw [seriesScopeOverlapClause]
  cases htarget : target.episodeId with
  | some episodeId =>
    obtain ⟨seasonId, hseasonId⟩ := Option.isSome_iff_exists.mp (hseason (by rw [htarget]; rfl))
    cases hrowEpisode : row.episodeId <;> simp [hseasonId]
  | none =>
    cases hrowEpisode : row.episodeId <;> cases hseasonId : target.seasonId <;> simp

end MediaMasterr.Requests
