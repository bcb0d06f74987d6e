import Mathlib.Algebra.Ring.Nat
import MediaMasterr.Sync.MovieVersions
import MediaMasterr.Sync.Seasons

/-! # Library sync

`sync_movies` and `sync_series`: each item that the media servers report goes to
the row that the lookup maps find for it, or to a new row. Then the rows whose
TMDB id no item has are removed with the rows that refer to them.

Only the columns that a lookup, the soft delete or a modelled reader uses are
written. The refresh of the Arr references between the two parts is left out; it
writes no column of these. -/

namespace MediaMasterr.Sync

open MediaMasterr.Foundations MediaMasterr.Database

structure ExternalIDs where
  tmdb : Nat
  imdb : Option String := none
  tvdb : Option String := none
  deriving DecidableEq, Repr

structure AggregatedMovieData where
  name : String := ""
  externalIds : ExternalIDs
  versions : List MovieVersionData := []
  deriving DecidableEq, Repr

structure AggregatedSeriesData where
  id : String := ""
  name : String := ""
  service : Service
  libraryId : String := ""
  path : Option String := none
  addedAt : Option Nat := none
  externalIds : ExternalIDs
  size : Nat := 0
  seasonData : List AggregatedSeasonData := []
  deriving DecidableEq, Repr

/-- The external ids that TMDB has for a title. -/
structure TmdbIds where
  imdbId : Option String := none
  tvdbId : Option String := none
  deriving DecidableEq, Repr

/-- What a sync reads besides the tables: the time, which rows need fresh metadata, and what
TMDB answers, if it does. -/
structure SyncWorld where
  now : Nat
  needsMetadataRefresh : MediaType → Nat → Bool := fun _ _ => false
  tmdbIds : MediaType → Nat → Option TmdbIds := fun _ _ => none

section

variable (world : SyncWorld) (db : Tables)

/-! ## Movies -/

/-- `_update_movie_tmdb_metadata`. -/
def updateMovieTmdbMetadata (tmdbId : Nat) (m : Movie) : Movie :=
  match world.tmdbIds .movie tmdbId with
  | none => m
  | some ids => { m with imdbId := ids.imdbId.filter (· ≠ "") }

/-- `existing_movies`, by the ids of the rows. -/
def existingMovies (rows : List Movie) : Dict Nat Nat :=
  Dict.build (fun m => (some m.tmdbId).filter (· ≠ 0)) Movie.id rows

/-- `existing_by_imdb` of movies. -/
def moviesByImdb (rows : List Movie) : Dict String Nat :=
  Dict.build (fun m => m.imdbId.filter (· ≠ "")) Movie.id rows

/-- The row of an item: the one with its TMDB id, else the one with its IMDb id. -/
def locateMovie (rows : List Movie) (ids : ExternalIDs) : Option Nat :=
  ((existingMovies rows).get? ids.tmdb).or
    ((ids.imdb.filter (· ≠ "")).bind (moviesByImdb rows).get?)

/-- The earliest time at which a version was added. -/
def AggregatedMovieData.earliestAdded (item : AggregatedMovieData) : Option Nat :=
  (item.versions.filterMap (·.addedAt)).min?

/-- The columns of a row that is there already. -/
def AggregatedMovieData.updateRow (item : AggregatedMovieData) (m : Movie) : Movie :=
  let m := { m with addedAt := item.earliestAdded <|> m.addedAt, removedAt := none }
  if world.needsMetadataRefresh .movie m.id then
    updateMovieTmdbMetadata world item.externalIds.tmdb m
  else m

def AggregatedMovieData.newRow (item : AggregatedMovieData) (id : Nat) : Movie :=
  updateMovieTmdbMetadata world item.externalIds.tmdb
    { id
      tmdbId := item.externalIds.tmdb
      title := item.name
      size := some (item.versions.map (·.size)).sum
      addedAt := item.earliestAdded
      imdbId := item.externalIds.imdb }

/-- One item of `sync_movies`; `rows` are the movies before the loop. -/
def syncMovie (rows : List Movie) (db : Tables) (item : AggregatedMovieData) : Tables :=
  match locateMovie rows item.externalIds with
  | some id =>
    upsertMovieVersions
      { db with movies := (Write.update id (item.updateRow world)).apply Movie.id db.movies }
      id item.versions
  | none =>
    let id := Write.nextId Movie.id db.movies
    { db with
      movies := (Write.insert (item.newRow world)).apply Movie.id db.movies
      movieVersions := Write.applyAll MovieVersion.id db.movieVersions
        ((firstVersions item.versions).map fun ver => .insert (ver.newRow id)) }

/-- `movies_to_delete`. -/
def moviesToDelete (rows : List Movie) (parsedTmdbIds : List Nat) : List Nat :=
  (existingMovies rows).values.filter fun id =>
    (db.findMovie id).any fun m => m.tmdbId ∉ parsedTmdbIds ∧ m.removedAt = none

/-- The statements that soft-delete movies with the rows that refer to them. -/
def softDeleteMovies (ids : List Nat) : Tables :=
  { db with
    movies := db.movies.map fun m =>
      if m.id ∈ ids then { m with removedAt := some world.now, addedAt := none } else m
    candidates := db.candidates.filter (!namesOneOf ids ·.movieId)
    protectedMedia := db.protectedMedia.filter (!namesOneOf ids ·.movieId)
    protectionRequests := db.protectionRequests.filter (!namesOneOf ids ·.movieId) }

/-- `sync_movies` with the items that were gathered. -/
def syncMovies (items : List AggregatedMovieData) (allowSoftDelete : Bool) : Tables :=
  if items = [] then db
  else
    let synced := items.foldl (syncMovie world db.movies) db
    if allowSoftDelete then
      softDeleteMovies world synced
        (moviesToDelete synced db.movies (items.map (·.externalIds.tmdb)))
    else synced

/-! ## Series -/

/-- `_update_series_tmdb_metadata`. -/
def updateSeriesTmdbMetadata (tmdbId : Nat) (s : Series) : Series :=
  match world.tmdbIds .series tmdbId with
  | none => s
  | some ids => { s with imdbId := ids.imdbId.filter (· ≠ ""), tvdbId := ids.tvdbId }

/-- The lookup maps of `sync_series`, by the ids of the rows. -/
structure SeriesMaps where
  existing : Dict Nat Nat
  byTvdb : Dict String Nat
  byImdb : Dict String Nat

def seriesMaps (rows : List Series) : SeriesMaps where
  existing := Dict.build (fun s => (some s.tmdbId).filter (· ≠ 0)) Series.id rows
  byTvdb := Dict.build (fun s => s.tvdbId.filter (· ≠ "")) Series.id rows
  byImdb := Dict.build (fun s => s.imdbId.filter (· ≠ "")) Series.id rows

/-- The row of an item: the one with its TMDB id, else its TVDB id, else its IMDb id. -/
def SeriesMaps.locate (maps : SeriesMaps) (ids : ExternalIDs) : Option Nat :=
  ((maps.existing.get? ids.tmdb).or ((ids.tvdb.filter (· ≠ "")).bind maps.byTvdb.get?)).or
    ((ids.imdb.filter (· ≠ "")).bind maps.byImdb.get?)

/-- A key that is there leads to the row. -/
def setKey (d : Dict String Nat) (key : Option String) (id : Nat) : Dict String Nat :=
  match key.filter (· ≠ "") with
  | none => d
  | some k => d.set k id

/-- A new row is registered in the maps. -/
def SeriesMaps.register (maps : SeriesMaps) (tmdbId : Nat) (s : Series) : SeriesMaps where
  existing := maps.existing.set tmdbId s.id
  byTvdb := setKey maps.byTvdb s.tvdbId s.id
  byImdb := setKey maps.byImdb s.imdbId s.id

/-- `_upsert_series_service_ref`. -/
def upsertSeriesServiceRef (seriesId : Nat) (item : AggregatedSeriesData) : Tables :=
  let write : Write SeriesServiceRef :=
    match db.seriesServiceRefs.find? fun r => r.seriesId = seriesId ∧ r.service = item.service with
    | some ref => .update ref.id fun r =>
      { r with serviceId := item.id, libraryId := item.libraryId, path := item.path }
    | none => .insert fun id =>
      ⟨id, seriesId, item.service, item.id, item.libraryId, item.path⟩
  { db with seriesServiceRefs := write.apply SeriesServiceRef.id db.seriesServiceRefs }

/-- The columns of a row that is there already. -/
def AggregatedSeriesData.updateRow (item : AggregatedSeriesData) (s : Series) : Series :=
  let s := { s with
    size := some item.size
    addedAt := item.addedAt <|> s.addedAt
    removedAt := none }
  if world.needsMetadataRefresh .series s.id then
    updateSeriesTmdbMetadata world item.externalIds.tmdb s
  else s

def AggregatedSeriesData.newRow (item : AggregatedSeriesData) (id : Nat) : Series :=
  updateSeriesTmdbMetadata world item.externalIds.tmdb
    { id
      tmdbId := item.externalIds.tmdb
      title := item.name
      size := some item.size
      addedAt := item.addedAt
      imdbId := item.externalIds.imdb
      tvdbId := item.externalIds.tvdb }

/-- The state of the loop of `sync_series`. -/
structure SeriesSync where
  db : Tables
  maps : SeriesMaps

/-- One item of `sync_series`; `none` is an error of its season sync, which ends the run. -/
def syncOneSeries (state : SeriesSync) (item : AggregatedSeriesData) : Option SeriesSync :=
  match state.maps.locate item.externalIds with
  | some id =>
    let db := { state.db with
      series := (Write.update id (item.updateRow world)).apply Series.id state.db.series }
    (syncSeasons (upsertSeriesServiceRef db id item) id item.service item.seasonData).map
      fun db => { state with db }
  | none =>
    let id := Write.nextId Series.id state.db.series
    let db := { state.db with
      series := (Write.insert (item.newRow world)).apply Series.id state.db.series }
    let maps := state.maps.register item.externalIds.tmdb (item.newRow world id)
    (syncSeasons (upsertSeriesServiceRef db id item) id item.service item.seasonData).map
      fun db => { db, maps }

/-- The supplemental pass over all series. -/
def supplementalSeries (maps : SeriesMaps)
    (supplemental : List (Nat × List (Service × List AggregatedSeasonData))) : Tables :=
  supplemental.foldl (fun db entry =>
    match maps.existing.get? entry.1 with
    | none => db
    | some id => supplementalPass db id entry.2) db

/-- `series_to_delete`. -/
def seriesToDelete (maps : SeriesMaps) (parsedTmdbIds : List Nat) : List Nat :=
  maps.existing.values.filter fun id =>
    (db.findSeries id).any fun s => s.tmdbId ∉ parsedTmdbIds ∧ s.removedAt = none

/-- The statements that soft-delete series with the rows that refer to them. -/
def softDeleteSeries (ids : List Nat) : Tables :=
  { db with
    series := db.series.map fun s =>
      if s.id ∈ ids then { s with removedAt := some world.now, addedAt := none } else s
    candidates := db.candidates.filter (!namesOneOf ids ·.seriesId)
    protectedMedia := db.protectedMedia.filter (!namesOneOf ids ·.seriesId)
    protectionRequests := db.protectionRequests.filter (!namesOneOf ids ·.seriesId) }

/-- `sync_series` with the items that were gathered. -/
def syncSeries (items : List AggregatedSeriesData)
    (supplemental : List (Nat × List (Service × List AggregatedSeasonData)))
    (allowSoftDelete : Bool) : Option Tables :=
  if items = [] then some db
  else
    (items.foldlM (syncOneSeries world) ⟨db, seriesMaps db.series⟩).map fun state =>
      let synced := supplementalSeries state.db state.maps supplemental
      if allowSoftDelete then
        softDeleteSeries world synced
          (seriesToDelete synced state.maps (items.map (·.externalIds.tmdb)))
      else synced

end

end MediaMasterr.Sync
