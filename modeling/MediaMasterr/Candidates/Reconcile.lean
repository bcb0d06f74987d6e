import MediaMasterr.Database.Tables
import MediaMasterr.Foundations.Dict
import MediaMasterr.Foundations.Writes

/-! # Candidate scans

How a scan brings the candidates in line with the records of the media that match a
rule: for each scope it updates the candidates of the matched media, creates the
missing ones, and deletes the others. -/

namespace MediaMasterr.Candidates

open MediaMasterr.Database MediaMasterr.Foundations

structure MatchedCandidateRecord where
  target : MediaTarget
  matchedRuleIds : List Nat
  matchedCriteria : String := ""
  reason : String := ""
  reasonData : Option String := none
  estimatedSpaceBytes : Option Nat := none

/-- What the reconcilers of the four scopes differ in. -/
structure CandidateScope where
  inScope : ReclaimCandidate → Bool
  /-- The column by which candidates and records are compared. -/
  key : MediaTarget → Option Nat
  /-- The columns of a new candidate; a record that names too little is passed over. -/
  columns : MediaTarget → Option MediaTarget
  /-- What an update writes besides the match. -/
  update : MediaTarget → ReclaimCandidate → ReclaimCandidate := fun _ c => c

section

variable (scope : CandidateScope) (now : Nat) (records : List MatchedCandidateRecord) (db : Tables)

/-- `candidate_lookup`. -/
def candidateLookup : Dict Nat ReclaimCandidate :=
  Dict.build (fun c => scope.key c.target) id (db.candidates.filter scope.inScope)

def newCandidate (columns : MediaTarget) (record : MatchedCandidateRecord) (id : Nat) :
    ReclaimCandidate where
  id := id
  mediaType := columns.mediaType
  matchedRuleIds := record.matchedRuleIds
  matchedCriteria := record.matchedCriteria
  reason := record.reason
  reasonData := record.reasonData
  movieId := columns.movieId
  movieVersionId := columns.movieVersionId
  seriesId := columns.seriesId
  seasonId := columns.seasonId
  episodeId := columns.episodeId
  estimatedSpaceBytes := record.estimatedSpaceBytes
  createdAt := now

/-- What the loop over the records writes for one of them. -/
def recordWrite (lookup : Dict Nat ReclaimCandidate) (record : MatchedCandidateRecord) :
    Option (Write ReclaimCandidate) := do
  let columns ← scope.columns record.target
  let key ← scope.key record.target
  match lookup.get? key with
  | some existing =>
    return .update existing.id fun c =>
      { scope.update record.target c with
        matchedRuleIds := record.matchedRuleIds
        matchedCriteria := record.matchedCriteria
        reason := record.reason
        reasonData := record.reasonData
        estimatedSpaceBytes := record.estimatedSpaceBytes }
  | none => return .insert (newCandidate now columns record)

/-- The candidates whose media are not matched. -/
def staleIds : List Nat :=
  ((candidateLookup scope db).entries.filter fun entry =>
    entry.1 ∉ records.filterMap (scope.key ·.target)).map (·.2.id)

/-- What the loop over the records writes. -/
def recordWrites : List (Write ReclaimCandidate) :=
  records.filterMap (recordWrite scope now (candidateLookup scope db))

def syncCandidates : Tables :=
  { db with
    candidates := (Write.applyAll ReclaimCandidate.id db.candidates
      (recordWrites scope now records db)).filter (·.id ∉ staleIds scope records db) }

/-- The numbers of candidates that a sync has created, updated and removed. -/
structure SyncCounts where
  created : Nat
  updated : Nat
  removed : Nat
  deriving DecidableEq, Repr

def syncCounts : SyncCounts where
  created := (recordWrites scope now records db).countP (·.updates.isNone)
  updated := (recordWrites scope now records db).countP (·.updates.isSome)
  removed := (staleIds scope records db).length

end

/-! ## Scopes -/

def seriesScope : CandidateScope where
  inScope c := c.mediaType = .series && isSeriesScope c.seasonId c.episodeId
  key := MediaTarget.seriesId
  columns target := target.seriesId.map fun id => { mediaType := .series, seriesId := some id }

def movieVersionScope : CandidateScope where
  inScope c := c.mediaType = .movie
  key := MediaTarget.movieVersionId
  columns target := do
    let versionId ← target.movieVersionId
    let movieId ← target.movieId
    return { mediaType := .movie, movieId := some movieId, movieVersionId := some versionId }
  update target c := { c with movieId := target.movieId }

def seasonScope : CandidateScope where
  inScope c := c.mediaType = .series && isSeasonScope c.seasonId c.episodeId
  key := MediaTarget.seasonId
  columns target := do
    let seasonId ← target.seasonId
    let seriesId ← target.seriesId
    return { mediaType := .series, seriesId := some seriesId, seasonId := some seasonId }

def episodeScope : CandidateScope where
  inScope c := c.mediaType = .series && isEpisodeScope c.episodeId
  key := MediaTarget.episodeId
  columns target := do
    let episodeId ← target.episodeId
    let seriesId ← target.seriesId
    return { mediaType := .series, seriesId := some seriesId, seasonId := target.seasonId,
             episodeId := some episodeId }

section

variable (now : Nat) (records : List MatchedCandidateRecord) (db : Tables)

/-- `_sync_series_candidates`. -/
def syncSeriesCandidates : Tables := syncCandidates seriesScope now records db

/-- `_sync_movie_version_candidates`: the candidates of whole movies go as well. -/
def syncMovieVersionCandidates : Tables :=
  let db := syncCandidates movieVersionScope now records db
  { db with
    candidates := db.candidates.filter fun c => !(c.mediaType = .movie && c.movieVersionId.isNone) }

/-- The counts of `_sync_movie_version_candidates`. -/
def syncMovieVersionCounts : SyncCounts :=
  let counts := syncCounts movieVersionScope now records db
  { counts with
    removed := counts.removed + db.candidates.countP fun c =>
      c.mediaType = .movie ∧ c.movieVersionId.isNone }

/-- `_sync_season_candidates`. -/
def syncSeasonCandidates : Tables := syncCandidates seasonScope now records db

/-- `_sync_episode_candidates`. -/
def syncEpisodeCandidates : Tables := syncCandidates episodeScope now records db

end

/-! ## The scan -/

/-- What the rules of each scope match; `none` stands for a scope without rules. -/
structure ScanRecords where
  movies : Option (List MatchedCandidateRecord) := none
  series : Option (List MatchedCandidateRecord) := none
  seasons : Option (List MatchedCandidateRecord) := none
  episodes : Option (List MatchedCandidateRecord) := none

/-- A scope of a scan: without rules all its candidates are deleted. -/
def scanScope (scope : CandidateScope) (sync : List MatchedCandidateRecord → Tables → Tables)
    (db : Tables) : Option (List MatchedCandidateRecord) → Tables
  | some records => sync records db
  | none => { db with candidates := db.candidates.filter fun c => !scope.inScope c }

/-- The candidates that `_scan_with_db` leaves. -/
def scanCandidates (now : Nat) (records : ScanRecords) (db : Tables) : Tables :=
  let db := scanScope movieVersionScope (syncMovieVersionCandidates now) db records.movies
  let db := scanScope seriesScope (syncSeriesCandidates now) db records.series
  let db := scanScope seasonScope (syncSeasonCandidates now) db records.seasons
  scanScope episodeScope (syncEpisodeCandidates now) db records.episodes

/-! ## What a scan keeps -/

section

variable {scope : CandidateScope} {now : Nat} {db : Tables}

/-- What the updates of a scope do not touch. -/
def CandidateScope.Keyed (scope : CandidateScope) : Prop :=
  ∀ target c, (scope.update target c).id = c.id

theorem keyed_recordWrite (hscope : scope.Keyed) {lookup : Dict Nat ReclaimCandidate}
    {record : MatchedCandidateRecord} {w : Write ReclaimCandidate}
    (h : recordWrite scope now lookup record = some w) : w.Keyed ReclaimCandidate.id := by
  simp only [recordWrite, Option.bind_eq_bind, Option.bind_eq_some_iff] at h
  obtain ⟨columns, -, key, -, hwrite⟩ := h
  split at hwrite
  · obtain rfl := Option.some.inj hwrite
    exact fun c => hscope record.target c
  · obtain rfl := Option.some.inj hwrite
    exact fun _ => rfl

theorem syncCandidates_nodup (hscope : scope.Keyed) (records : List MatchedCandidateRecord)
    (hids : (db.candidates.map ReclaimCandidate.id).Nodup) :
    ((syncCandidates scope now records db).candidates.map ReclaimCandidate.id).Nodup := by
  refine (Write.nodup_applyAll (fun w hw => ?_) hids).sublist (List.filter_sublist.map _)
  obtain ⟨record, -, hrecord⟩ := List.mem_filterMap.mp hw
  exact keyed_recordWrite hscope hrecord

end

end MediaMasterr.Candidates
