import MediaMasterr.Deletion.Movie
import MediaMasterr.Deletion.Series
import MediaMasterr.Deletion.Season
import MediaMasterr.Deletion.Episode

/-! # The delete handlers of a job

`_delete_specific_candidates_impl` calls the four handlers one after the other
with the candidate ids of a job. -/

namespace MediaMasterr.Deletion

open MediaMasterr.Database

/-- The outcomes of one run of each handler. -/
structure HandlerOutcomes where
  movie : MovieOutcomes := {}
  series : SeriesOutcomes := {}
  season : SeasonOutcomes := {}
  episode : EpisodeOutcomes := {}

inductive Handler where
  | movie
  | series
  | season
  | episode
  deriving DecidableEq, Repr

/-- A run of a handler. -/
def Handler.run (env : Environment) (outcomes : HandlerOutcomes) (db : Tables)
    (restrictToIds : List Nat) (approvedBy : String) : Handler → Run
  | .movie => deleteMovieCandidates env outcomes.movie db restrictToIds approvedBy
  | .series => deleteSeriesCandidates env outcomes.series db restrictToIds approvedBy
  | .season => deleteSeasonCandidates env outcomes.season db restrictToIds approvedBy
  | .episode => deleteEpisodeCandidates env outcomes.episode db restrictToIds approvedBy

/-- The handlers that a job with these candidates calls, in order. -/
def handlersOf (services : Services) (db : Tables) (candidateIds : List Nat) : List Handler :=
  let types := (db.candidates.filter (·.id ∈ candidateIds)).map ReclaimCandidate.mediaType
  (if .movie ∈ types ∧ (services.radarr.isSome ∨ services.mainMediaServer.isSome) then [.movie]
    else []) ++
  (if .series ∈ types ∧ (services.sonarr.isSome ∨ services.mainMediaServer.isSome) then
      [.series, .season, .episode]
    else [])

end MediaMasterr.Deletion
