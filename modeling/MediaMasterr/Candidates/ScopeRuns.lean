import MediaMasterr.Candidates.Collectors
import MediaMasterr.Deletion.Handlers
import MediaMasterr.Deletion.MovieRun
import MediaMasterr.Deletion.Move
import MediaMasterr.Requests.RequestScopes
import MediaMasterr.Sync.Library

/-! # Candidates and the rows that they name

The scope of a candidate from its creation on: scans, syncs, resyncs, moves and
deletions take turns on a database that applies the foreign-key actions of the
schema. When a version or an episode is deleted, the candidates that name it name
nothing any more. -/

namespace MediaMasterr.Candidates

open MediaMasterr.Database MediaMasterr.Foundations MediaMasterr.Deletion MediaMasterr.Sync

/-! ## The schema -/

section Schema

variable (before after : Tables)

/-- A column that is set to `NULL` when the row that it names is deleted. -/
def keepReference {α : Type*} (rowId : α → Nat) (before after : List α) (id : Option Nat) :
    Option Nat :=
  id.filter (¬Requests.IsRemoved rowId before after ·)

/-- The `ON DELETE` actions of a transaction: the episodes of a deleted season go with it, and so
do the protections and requests of a deleted episode; the other columns are set to `NULL`. -/
def enforceKeys : Tables :=
  let episodes := after.episodes.filter fun e =>
    ¬Requests.IsRemoved Season.id before.seasons after.seasons e.seasonId
  let versionOf := keepReference MovieVersion.id before.movieVersions after.movieVersions
  let episodeOf := keepReference Episode.id before.episodes episodes
  { Requests.deleteActions before { after with episodes := episodes } with
    candidates := after.candidates.map fun c =>
      { c with movieVersionId := versionOf c.movieVersionId, episodeId := episodeOf c.episodeId }
    protectedMedia := (after.protectedMedia.filter fun p =>
      episodeOf p.episodeId = p.episodeId).map fun p =>
        { p with movieVersionId := versionOf p.movieVersionId }
    protectionRequests := (after.protectionRequests.filter fun r =>
      episodeOf r.episodeId = r.episodeId).map fun r =>
        { r with movieVersionId := versionOf r.movieVersionId } }

end Schema

/-- The primary keys of the tables of media and candidates. -/
def PrimaryKeys (db : Tables) : Prop :=
  (db.movies.map Movie.id).Nodup ∧ (db.movieVersions.map MovieVersion.id).Nodup ∧
    (db.series.map Series.id).Nodup ∧ (db.seasons.map Season.id).Nodup ∧
    (db.episodes.map Episode.id).Nodup ∧ (db.candidates.map ReclaimCandidate.id).Nodup

instance (db : Tables) : Decidable (PrimaryKeys db) := inferInstanceAs (Decidable (_ ∧ _))

/-- What a transaction stores; a primary key that is taken twice makes it fail. -/
def stored (before after : Tables) : Option Tables :=
  let db := enforceKeys before after
  if PrimaryKeys db then some db else none

/-! ## Scans -/

/-- What a scan of one scope reads besides the tables; the rules are those of the scope. -/
structure ScanInputs where
  tables : PythonText.CaseTables
  evaluate : ReclaimRule → RuleItem → Option RuleMatch
  texts : RecordTexts
  now : Nat
  rules : List ReclaimRule
  excludeFavorites : Bool := true

inductive RuleScope where
  | movieVersion
  | series
  | season
  | episode
  deriving DecidableEq, Repr

namespace RuleScope

def candidateScope : RuleScope → CandidateScope
  | .movieVersion => movieVersionScope
  | .series => seriesScope
  | .season => seasonScope
  | .episode => episodeScope

section

variable (inputs : ScanInputs) (db : Tables)

/-- The records of the scope. -/
def collect : RuleScope → List MatchedCandidateRecord
  | .movieVersion => collectMovieVersionCandidateRecords inputs.tables inputs.evaluate inputs.texts
      db inputs.now inputs.rules inputs.excludeFavorites true
  | .series => collectSeriesCandidateRecords inputs.tables inputs.evaluate inputs.texts
      db inputs.now inputs.rules inputs.excludeFavorites true
  | .season => collectSeasonCandidateRecords inputs.tables inputs.evaluate inputs.texts
      db inputs.now inputs.rules inputs.excludeFavorites true
  | .episode => collectEpisodeCandidateRecords inputs.tables inputs.evaluate inputs.texts
      db inputs.now inputs.rules inputs.excludeFavorites true

def sync (now : Nat) (records : List MatchedCandidateRecord) (db : Tables) : RuleScope → Tables
  | .movieVersion => syncMovieVersionCandidates now records db
  | .series => syncSeriesCandidates now records db
  | .season => syncSeasonCandidates now records db
  | .episode => syncEpisodeCandidates now records db

/-- The part of a scan that is about one scope. -/
def scan (scope : RuleScope) : Tables :=
  scanScope scope.candidateScope (scope.sync inputs.now) db
    (if inputs.rules.isEmpty then none else some (scope.collect inputs db))

end

end RuleScope

/-! ## The other operations -/

/-- The first transaction of `resync_media`: the rows that name versions are detached from them,
and all versions are deleted. -/
def clearVersions (db : Tables) : Tables :=
  { db with
    candidates := db.candidates.map fun c => { c with movieVersionId := none }
    protectedMedia := db.protectedMedia.map fun p => { p with movieVersionId := none }
    protectionRequests := db.protectionRequests.map fun r => { r with movieVersionId := none }
    movieVersions := []
    seriesServiceRefs := []
    movies := db.movies.map fun m => { m with size := some 0 }
    series := db.series.map fun s => { s with size := some 0 } }

/-- A transaction of another part of the program: it writes neither candidates nor the rows that
they name. -/
structure OtherWrite where
  run : Tables → Tables
  candidates : ∀ db, (run db).candidates = db.candidates
  movieVersions : ∀ db, (run db).movieVersions = db.movieVersions
  seasons : ∀ db, (run db).seasons = db.seasons
  episodes : ∀ db, (run db).episodes = db.episodes

/-- One transaction. A sync is one event for each item and one for the soft deletion; a resync is
`clearVersions` and as much of the syncs as it gets to. -/
inductive ScopeEvent where
  | scan (scope : RuleScope) (inputs : ScanInputs)
  | syncMovie (world : SyncWorld) (rows : List Movie) (item : AggregatedMovieData)
  | softDeleteMovies (world : SyncWorld) (ids : List Nat)
  | syncOneSeries (world : SyncWorld) (maps : SeriesMaps) (item : AggregatedSeriesData)
  | supplementalPass (seriesId : Nat) (entries : List (Service × List AggregatedSeasonData))
  | softDeleteSeries (world : SyncWorld) (ids : List Nat)
  | clearVersions
  | delete (handler : Handler) (env : Environment) (outcomes : HandlerOutcomes)
      (restrictToIds : List Nat) (approvedBy : String)
  | markFailures (now : Nat) (ids : List Nat) (error : String)
  | move (env : Environment) (outcomes : MoveOutcomes) (candidateIds : List Nat)
      (approvedBy : String)
  | other (write : OtherWrite)

/-- The statements of an event; `none` is a sync that fails. -/
def ScopeEvent.run (db : Tables) : ScopeEvent → Option Tables
  | .scan scope inputs => some (scope.scan inputs db)
  | .syncMovie world rows item => some (Sync.syncMovie world rows db item)
  | .softDeleteMovies world ids => some (Sync.softDeleteMovies world db ids)
  | .syncOneSeries world maps item => (Sync.syncOneSeries world ⟨db, maps⟩ item).map (·.db)
  | .supplementalPass seriesId entries => some (Sync.supplementalPass db seriesId entries)
  | .softDeleteSeries world ids => some (Sync.softDeleteSeries world db ids)
  | .clearVersions => some (Candidates.clearVersions db)
  | .delete handler env outcomes restrictToIds approvedBy =>
    some (handler.run env outcomes db restrictToIds approvedBy).db
  | .markFailures now ids error => some (db.markUnexplainedDeleteFailures now ids error)
  | .move env outcomes candidateIds approvedBy =>
    some (moveSpecificCandidatesImpl env outcomes db candidateIds approvedBy).1
  | .other write => some (write.run db)

/-! ## The system -/

/-- The tables, and the media that the candidates have been created for. -/
structure ScopeRun where
  db : Tables
  created : Nat → Option MediaTarget

/-- Every version candidate of a movie with a successful batch is routed to Radarr, or its version
is deleted on the media server. -/
def LeavesNoVersion (env : Environment) (outcomes : MovieOutcomes) (db : Tables)
    (candidates : List ReclaimCandidate) : Prop :=
  ∀ c ∈ candidates, ∀ movieId, c.movieId = some movieId →
    Deletion.Movie.DeletedInBatch env outcomes db candidates movieId ∨
      Deletion.Movie.UnmonitoredInBatch env outcomes db candidates movieId →
    c.movieVersionId = none ∨ (Deletion.Movie.versionRoute env db candidates c).isSome ∨
      (Deletion.Movie.deletedVersion env outcomes db c).isSome

namespace ScopeRun

def start (tables : Tables) : ScopeRun where
  db := { tables with candidates := [] }
  created _ := none

/-- The state behind a transaction: a candidate that was not there before has been created. -/
def advance (s : ScopeRun) (db : Tables) : ScopeRun where
  db := db
  created id :=
    if id ∈ s.db.candidates.map ReclaimCandidate.id then s.created id
    else (db.candidates.find? (·.id == id)).map ReclaimCandidate.target

def step (s : ScopeRun) (event : ScopeEvent) : Option ScopeRun :=
  ((event.run s.db).bind (stored s.db)).map s.advance

/-- Every candidate names the version and the episode that it was created for. -/
def KeepsScopes (s : ScopeRun) : Prop :=
  ∀ c ∈ s.db.candidates, ∃ target, s.created c.id = some target ∧
    c.movieVersionId = target.movieVersionId ∧ c.episodeId = target.episodeId

/-- What the events must not meet: a stale version that a candidate names, a resync while
candidates name versions, and a deletion that leaves a version of a handled movie behind. -/
def Spares (s : ScopeRun) : ScopeEvent → Prop
  | .syncMovie _ rows item => ∀ id, locateMovie rows item.externalIds = some id →
      ∀ c ∈ s.db.candidates, ∀ versionId ∈ c.movieVersionId,
        versionId ∉ staleVersions s.db id item.versions
  | .clearVersions => ∀ c ∈ s.db.candidates, c.movieVersionId = none
  | .delete .movie env outcomes restrictToIds _ =>
    LeavesNoVersion env outcomes.movie s.db
      (Deletion.Movie.loadCandidates env s.db restrictToIds)
  | _ => True

end ScopeRun

end MediaMasterr.Candidates
