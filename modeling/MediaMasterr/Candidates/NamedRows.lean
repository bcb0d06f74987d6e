import MediaMasterr.Candidates.Mirror
import MediaMasterr.Candidates.ScopeRuns
import MediaMasterr.Database.Shrinking
import MediaMasterr.Deletion.GoneMedia

/-! # Named rows

Operations that delete no row that a remaining candidate names: then the foreign
keys change nothing in the candidates. -/

namespace MediaMasterr.Candidates

open MediaMasterr.Database MediaMasterr.Foundations MediaMasterr.Deletion MediaMasterr.Sync

/-- The candidates that are left were there before, and the rows that they name are still there. -/
structure KeepsNamed (db db' : Tables) : Prop where
  candidates : ∀ c' ∈ db'.candidates, ∃ c ∈ db.candidates, c.id = c'.id ∧ c.target = c'.target
  versions : ∀ c' ∈ db'.candidates, ∀ id ∈ c'.movieVersionId,
    id ∈ db.movieVersions.map MovieVersion.id → id ∈ db'.movieVersions.map MovieVersion.id
  seasons : ∀ c' ∈ db'.candidates, ∀ id ∈ c'.seasonId,
    id ∈ db.seasons.map Season.id → id ∈ db'.seasons.map Season.id
  episodes : ∀ c' ∈ db'.candidates, ∀ id ∈ c'.episodeId, ∀ e ∈ db.episodes, e.id = id →
    ∃ e' ∈ db'.episodes, e'.id = id ∧ e'.seasonId = e.seasonId

namespace KeepsNamed

variable {db db' db'' : Tables}

theorem refl (db : Tables) : KeepsNamed db db :=
  ⟨fun c hc => ⟨c, hc, rfl, rfl⟩, fun _ _ _ _ h => h, fun _ _ _ _ h => h,
    fun _ _ _ _ e he hid => ⟨e, he, hid, rfl⟩⟩

theorem trans (h : KeepsNamed db db') (h' : KeepsNamed db' db'') : KeepsNamed db db'' where
  candidates c hc := by
    obtain ⟨c', hc', hid', htarget'⟩ := h'.candidates c hc
    obtain ⟨c'', hc'', hid'', htarget''⟩ := h.candidates c' hc'
    exact ⟨c'', hc'', hid''.trans hid', htarget''.trans htarget'⟩
  versions c hc id hid hrow := by
    obtain ⟨c', hc', -, htarget⟩ := h'.candidates c hc
    have hnamed : c'.movieVersionId = c.movieVersionId :=
      congrArg MediaTarget.movieVersionId htarget
    exact h'.versions c hc id hid (h.versions c' hc' id (hnamed ▸ hid) hrow)
  seasons c hc id hid hrow := by
    obtain ⟨c', hc', -, htarget⟩ := h'.candidates c hc
    have hnamed : c'.seasonId = c.seasonId := congrArg MediaTarget.seasonId htarget
    exact h'.seasons c hc id hid (h.seasons c' hc' id (hnamed ▸ hid) hrow)
  episodes c hc id hid e he heid := by
    obtain ⟨c', hc', -, htarget⟩ := h'.candidates c hc
    have hnamed : c'.episodeId = c.episodeId := congrArg MediaTarget.episodeId htarget
    obtain ⟨e', he', heid', hseason'⟩ := h.episodes c' hc' id (hnamed ▸ hid) e he heid
    obtain ⟨e'', he'', heid'', hseason''⟩ := h'.episodes c hc id hid e' he' heid'
    exact ⟨e'', he'', heid'', hseason''.trans hseason'⟩

/-- Statements that delete neither versions nor seasons nor episodes. -/
theorem of_rows
    (hcandidates : ∀ c' ∈ db'.candidates, ∃ c ∈ db.candidates, c.id = c'.id ∧ c.target = c'.target)
    (hversions : db.movieVersions.map MovieVersion.id ⊆ db'.movieVersions.map MovieVersion.id)
    (hseasons : db.seasons.map Season.id ⊆ db'.seasons.map Season.id)
    (hepisodes : db'.episodes = db.episodes) : KeepsNamed db db' where
  candidates := hcandidates
  versions _ _ _ _ hrow := hversions hrow
  seasons _ _ _ _ hrow := hseasons hrow
  episodes _ _ _ _ e he hid := ⟨e, hepisodes ▸ he, hid, rfl⟩

theorem foldl {τ : Type} {step : Tables → τ → Tables} (h : ∀ db t, KeepsNamed db (step db t))
    (ts : List τ) (db : Tables) : KeepsNamed db (ts.foldl step db) := by
  induction ts generalizing db with
  | nil => exact refl db
  | cons t ts ih => exact (h db t).trans (ih _)

end KeepsNamed

section Statements

variable {db db' : Tables} {now key : Nat}

theorem keepsNamed_of_marks (h : db.Marks db') : KeepsNamed db db' := by
  have hcandidates := h.shrinks.candidates
  obtain ⟨f, history, hf, rfl⟩ := h
  exact .of_rows hcandidates (List.Subset.refl _) (List.Subset.refl _) rfl

theorem keepsNamed_filter_candidates (p : ReclaimCandidate → Bool) :
    KeepsNamed db { db with candidates := db.candidates.filter p } :=
  .of_rows (fun c hc => ⟨c, List.mem_of_mem_filter hc, rfl, rfl⟩) (List.Subset.refl _)
    (List.Subset.refl _) rfl

theorem keepsNamed_deleteCandidate : KeepsNamed db (db.deleteCandidate key) :=
  keepsNamed_filter_candidates _

theorem keepsNamed_removeMovie : KeepsNamed db (db.removeMovie now key) :=
  .of_rows (fun c hc => ⟨c, hc, rfl, rfl⟩) (List.Subset.refl _) (List.Subset.refl _) rfl

theorem keepsNamed_removeSeries : KeepsNamed db (db.removeSeries now key) :=
  .of_rows (fun c hc => ⟨c, hc, rfl, rfl⟩) (List.Subset.refl _) (List.Subset.refl _) rfl

theorem keepsNamed_map_series (f : Series → Series) :
    KeepsNamed db { db with series := db.series.map f } :=
  .of_rows (fun c hc => ⟨c, hc, rfl, rfl⟩) (List.Subset.refl _) (List.Subset.refl _) rfl

theorem keepsNamed_map_seasons {f : Season → Season} (hf : ∀ s, (f s).id = s.id) :
    KeepsNamed db { db with seasons := db.seasons.map f } := by
  refine .of_rows (fun c hc => ⟨c, hc, rfl, rfl⟩) (List.Subset.refl _) ?_ rfl
  change db.seasons.map Season.id ⊆ (db.seasons.map f).map Season.id
  rw [List.map_map]
  exact (List.map_congr_left fun s _ => (hf s).symm : db.seasons.map Season.id = _) ▸
    List.Subset.refl _

theorem keepsNamed_softRemoveSeriesIfEmpty :
    KeepsNamed db (db.softRemoveSeriesIfEmpty now key) := by
  rw [Tables.softRemoveSeriesIfEmpty]
  split_ifs
  · exact .refl db
  · exact keepsNamed_removeSeries

/-- The candidates of a season go with its row. -/
theorem keepsNamed_deleteSeasonRow {seriesId : Nat} :
    KeepsNamed db (db.deleteSeasonRow now seriesId key) := by
  refine KeepsNamed.trans ?_ keepsNamed_softRemoveSeriesIfEmpty
  exact {
    candidates := fun c hc => ⟨c, List.mem_of_mem_filter hc, rfl, rfl⟩
    versions := fun _ _ _ _ h => h
    seasons := fun c hc id hid hrow => by
      have hne : c.seasonId ≠ some key := by simpa using (List.mem_filter.mp hc).2
      obtain ⟨s, hs, rfl⟩ := List.mem_map.mp hrow
      refine List.mem_map_of_mem (List.mem_filter.mpr ⟨hs, decide_eq_true fun heq => hne ?_⟩)
      exact heq ▸ hid
    episodes := fun _ _ _ _ e he hid => ⟨e, he, hid, rfl⟩ }

/-- An episode that no candidate names. -/
theorem keepsNamed_deleteEpisodeRow (h : ∀ c ∈ db.candidates, c.episodeId ≠ some key) :
    KeepsNamed db (db.deleteEpisodeRow key) where
  candidates c hc := ⟨c, hc, rfl, rfl⟩
  versions _ _ _ _ hrow := hrow
  seasons _ _ _ _ hrow := hrow
  episodes c hc id hid e he heid := by
    refine ⟨e, List.mem_filter.mpr ⟨he, decide_eq_true fun heq => h c hc ?_⟩, heid, rfl⟩
    rw [← heq, heid]
    exact hid

end Statements

/-! ## The candidates of a state -/

/-- The version that a candidate names is there, and so is its episode, in its season; no two
candidates of a scope are for the same medium. -/
structure Placed (db : Tables) : Prop where
  versions : ∀ c ∈ db.candidates, ∀ id ∈ c.movieVersionId,
    c.mediaType = .movie ∧ id ∈ db.movieVersions.map MovieVersion.id
  episodes : ∀ c ∈ db.candidates, ∀ id ∈ c.episodeId,
    c.mediaType = .series ∧ ∃ e ∈ db.episodes, e.id = id ∧ c.seasonId = some e.seasonId
  once : ∀ scope : RuleScope, ∀ c ∈ db.candidates, ∀ c' ∈ db.candidates,
    scope.candidateScope.holds c = true → scope.candidateScope.holds c' = true →
      scope.candidateScope.key c.target = scope.candidateScope.key c'.target → c = c'

namespace Placed

variable {db : Tables} {c c' : ReclaimCandidate} {id : Nat}

theorem version_unique (h : Placed db) (hc : c ∈ db.candidates) (hc' : c' ∈ db.candidates)
    (hid : c.movieVersionId = some id) (hid' : c'.movieVersionId = some id) : c = c' := by
  have hholds : ∀ c ∈ db.candidates, c.movieVersionId = some id →
      movieVersionScope.holds c = true := by
    intro c hc hid
    have hmedia := (h.versions c hc id hid).1
    simp [CandidateScope.holds, movieVersionScope, hmedia, hid, ReclaimCandidate.target]
  exact h.once .movieVersion c hc c' hc' (hholds c hc hid) (hholds c' hc' hid')
    (hid.trans hid'.symm)

theorem episode_unique (h : Placed db) (hc : c ∈ db.candidates) (hc' : c' ∈ db.candidates)
    (hid : c.episodeId = some id) (hid' : c'.episodeId = some id) : c = c' := by
  have hholds : ∀ c ∈ db.candidates, c.episodeId = some id → episodeScope.holds c = true := by
    intro c hc hid
    have hmedia := (h.episodes c hc id hid).1
    simp [CandidateScope.holds, episodeScope, isEpisodeScope, hmedia, hid, ReclaimCandidate.target]
  exact h.once .episode c hc c' hc' (hholds c hc hid) (hholds c' hc' hid') (hid.trans hid'.symm)

end Placed

/-! ## Handlers -/

section Handlers

variable {env : Environment} {db : Tables} {restrictToIds : List Nat} {approvedBy : String}

theorem keepsNamed_series (env : Environment) (outcomes : SeriesOutcomes) (db : Tables)
    (restrictToIds : List Nat) (approvedBy : String) :
    KeepsNamed db (deleteSeriesCandidates env outcomes db restrictToIds approvedBy).db := by
  refine Deletion.Series.run_preserves (P := fun db' => KeepsNamed db db')
    (fun hmarks h => h.trans (keepsNamed_of_marks hmarks)) (fun action db' job h => h.trans ?_)
    (.refl db)
  have hremoved : KeepsNamed db'
      ((db'.removeSeries env.now job.seriesId).deleteCandidate job.candidate.id) :=
    keepsNamed_removeSeries.trans keepsNamed_deleteCandidate
  exact hremoved.trans (keepsNamed_of_marks (Tables.marks_history _ _))

theorem keepsNamed_ite {p : Prop} [Decidable p] {db' db'' : Tables} (h : KeepsNamed db db')
    (h' : KeepsNamed db' db'') : KeepsNamed db (if p then db'' else db') := by
  split_ifs
  · exact h.trans h'
  · exact h

theorem keepsNamed_season_finalize {action : ArrDeleteAction} {task : SeasonTask} :
    KeepsNamed db (Deletion.Season.finalize env approvedBy action task db) := by
  unfold Deletion.Season.finalize
  refine KeepsNamed.trans (keepsNamed_ite ?_ keepsNamed_deleteSeasonRow)
    (keepsNamed_of_marks (Tables.marks_history _ _))
  exact keepsNamed_deleteCandidate.trans (keepsNamed_map_series _)

theorem keepsNamed_season (env : Environment) (outcomes : SeasonOutcomes) (db : Tables)
    (restrictToIds : List Nat) (approvedBy : String) :
    KeepsNamed db (deleteSeasonCandidates env outcomes db restrictToIds approvedBy).db := by
  dsimp only [deleteSeasonCandidates, Deletion.Season.processTasks]
  refine Loops.foldl_invariant (P := fun run : Run => KeepsNamed db run.db)
    (fun task _ run h => h.trans ?_) (.refl db)
  dsimp only [Deletion.Season.processTask]
  cases Deletion.Season.taskFailure env outcomes db.effectiveSettings db task with
  | some error => exact keepsNamed_of_marks (Tables.marks_markCandidateDeleteFailure _ _ _)
  | none => exact keepsNamed_season_finalize

/-- The candidate of a task is the only one that names its episode. -/
theorem keepsNamed_episode_finalize {action : ArrDeleteAction} {task : EpisodeTask}
    (h : ∀ c ∈ db.candidates, c.episodeId = some task.episode.id → c.id = task.candidate.id) :
    KeepsNamed db (Deletion.Episode.finalize env approvedBy action task db) := by
  unfold Deletion.Episode.finalize
  refine KeepsNamed.trans (keepsNamed_ite ?_ keepsNamed_deleteSeasonRow)
    (keepsNamed_of_marks (Tables.marks_history _ _))
  refine KeepsNamed.trans ?_ ((keepsNamed_map_seasons fun s => by split_ifs <;> rfl).trans
    (keepsNamed_map_series _))
  refine keepsNamed_ite keepsNamed_deleteCandidate (keepsNamed_deleteEpisodeRow fun c hc hid => ?_)
  obtain ⟨hc, hne⟩ := List.mem_filter.mp hc
  exact of_decide_eq_true hne (h c hc hid)

theorem episodeId_of_taskOf {c : ReclaimCandidate} {task : EpisodeTask}
    (h : Deletion.Episode.taskOf db c = some task) : c.episodeId = some task.episode.id := by
  unfold Deletion.Episode.taskOf at h
  split at h
  · rename_i episode season series hepisode hseason hseries
    obtain rfl := Option.some.inj h
    obtain ⟨episodeId, hid, hfind⟩ := Option.bind_eq_some_iff.mp hepisode
    have hkey : episode.id = episodeId := by simpa using List.find?_some hfind
    exact hid.trans (congrArg some hkey.symm)
  · exact absurd h (by simp)

theorem keepsNamed_episode (env : Environment) (outcomes : EpisodeOutcomes)
    (restrictToIds : List Nat) (approvedBy : String) (hplaced : Placed db) :
    KeepsNamed db (deleteEpisodeCandidates env outcomes db restrictToIds approvedBy).db := by
  dsimp only [deleteEpisodeCandidates, Deletion.Episode.processTasks]
  refine Loops.foldl_invariant (P := fun run : Run => KeepsNamed db run.db)
    (fun task htask run h => h.trans ?_) (.refl db)
  dsimp only [Deletion.Episode.processTask]
  cases Deletion.Episode.taskFailure env outcomes db.effectiveSettings db task with
  | some error => exact keepsNamed_of_marks (Tables.marks_markCandidateDeleteFailure _ _ _)
  | none =>
    refine keepsNamed_episode_finalize fun c' hc' hid' => ?_
    obtain ⟨loaded, hloaded, hof⟩ := List.mem_filterMap.mp htask
    have hid := episodeId_of_taskOf hof
    obtain rfl := Deletion.Episode.candidate_of_taskOf hof
    obtain ⟨c, hc, hcid, htarget⟩ := h.candidates c' hc'
    have hnamed : c.episodeId = some task.episode.id :=
      (congrArg MediaTarget.episodeId htarget).trans hid'
    have hmem := (Deletion.Episode.loadCandidates_sublist restrictToIds).subset hloaded
    rw [← hcid, hplaced.episode_unique hc hmem hnamed hid]

section Movies

variable {outcomes : MovieOutcomes}

/-- A loaded candidate for the version of a candidate that is left is left itself. -/
theorem hasCandidate_of_version (hplaced : Placed db) {c c' : ReclaimCandidate} {id : Nat}
    (hc' : c' ∈ (deleteMovieCandidates env outcomes db restrictToIds approvedBy).db.candidates)
    (hid : c'.movieVersionId = some id)
    (hc : c ∈ Deletion.Movie.loadCandidates env db restrictToIds)
    (hversion : c.movieVersionId = some id) :
    (deleteMovieCandidates env outcomes db restrictToIds approvedBy).db.HasCandidate c.id := by
  obtain ⟨d, hd, hdid, htarget⟩ :=
    (Deletion.Movie.run_shrinks env outcomes db restrictToIds approvedBy).candidates c' hc'
  have hnamed : d.movieVersionId = some id :=
    (congrArg MediaTarget.movieVersionId htarget).trans hid
  have hmem := (Deletion.Movie.loadCandidates_sublist restrictToIds).subset hc
  rw [← hplaced.version_unique hd hmem hnamed hversion, hdid]
  exact ⟨c', hc', rfl⟩

/-- A candidate that is left is not among those of a handled movie. -/
theorem notMem_allCandidateIds_of_run {job : MovieJob} {id : Nat}
    (hjob : job ∈
      Deletion.Movie.deletedJobs env outcomes db approvedBy
          (Deletion.Movie.loadCandidates env db restrictToIds) ++
        Deletion.Movie.unmonitoredJobs env outcomes db approvedBy
          (Deletion.Movie.loadCandidates env db restrictToIds))
    (hkept : (deleteMovieCandidates env outcomes db restrictToIds approvedBy).db.HasCandidate id) :
    id ∉ job.allCandidateIds :=
  (Deletion.Movie.run_hasCandidate_iff.mp hkept).2 _ (Deletion.Movie.batch_mem_removals.mpr hjob)

/-- A candidate that is left is not one whose version the media server has deleted. -/
theorem deletedVersion_eq_none_of_run {c : ReclaimCandidate}
    (hc : c ∈ Deletion.Movie.unmatchedVersionCandidates env db
      (Deletion.Movie.loadCandidates env db restrictToIds))
    (hkept : (deleteMovieCandidates env outcomes db restrictToIds approvedBy).db.HasCandidate c.id) :
    Deletion.Movie.deletedVersion env outcomes db c = none := by
  rw [Option.eq_none_iff_forall_ne_some]
  intro v hv
  have hremoval : MovieRemoval.version c v ∈ Deletion.Movie.removals env outcomes db approvedBy
      (Deletion.Movie.loadCandidates env db restrictToIds) := by
    simp only [Deletion.Movie.removals, List.mem_append, List.mem_flatMap]
    exact .inl (.inl (.inl ⟨c, hc, by simp [Deletion.Movie.versionRemovals, hv]⟩))
  exact (Deletion.Movie.run_hasCandidate_iff.mp hkept).2 _ hremoval rfl

/-- No entry of a handled movie targets the version of a candidate that is left. -/
theorem notMem_concreteVersionIds_of_run (hplaced : Placed db)
    (hspares : LeavesNoVersion env outcomes db
      (Deletion.Movie.loadCandidates env db restrictToIds))
    {c' : ReclaimCandidate}
    (hc' : c' ∈ (deleteMovieCandidates env outcomes db restrictToIds approvedBy).db.candidates)
    {id : Nat} (hid : c'.movieVersionId = some id) {job : MovieJob}
    (hjob : job ∈
      Deletion.Movie.deletedJobs env outcomes db approvedBy
          (Deletion.Movie.loadCandidates env db restrictToIds) ++
        Deletion.Movie.unmonitoredJobs env outcomes db approvedBy
          (Deletion.Movie.loadCandidates env db restrictToIds)) :
    id ∉ job.concreteVersionIds := by
  intro hmem
  set candidates := Deletion.Movie.loadCandidates env db restrictToIds with hcandidates
  obtain ⟨unmonitor, config, hentry, hbatch⟩ : ∃ unmonitor config,
      Deletion.Movie.BatchEntry env db candidates unmonitor config job ∧
        (Deletion.Movie.DeletedInBatch env outcomes db candidates job.movieId ∨
          Deletion.Movie.UnmonitoredInBatch env outcomes db candidates job.movieId) := by
    rcases List.mem_append.mp hjob with hjob | hjob
    · obtain ⟨config, hok, hbatch⟩ := Deletion.Movie.mem_deletedJobs hjob
      exact ⟨false, config, Deletion.Movie.mem_batch hbatch, .inl ⟨config, hok, job, hbatch, rfl⟩⟩
    · obtain ⟨config, hok, hbatch⟩ := Deletion.Movie.mem_unmonitoredJobs hjob
      exact ⟨true, config, Deletion.Movie.mem_batch hbatch, .inr ⟨config, hok, job, hbatch, rfl⟩⟩
  -- the candidate that is left is the one that the version comes from
  obtain ⟨c, hc, hmovie, hversion⟩ := hentry.mem_concreteVersionIds.mp hmem
  have hhas := hasCandidate_of_version hplaced hc' hid hc hversion
  have hsome : c.movieVersionId.isSome := by rw [hversion]; rfl
  have hroute : ¬(Deletion.Movie.versionRoute env db candidates c).isSome := by
    intro hroute
    refine notMem_allCandidateIds_of_run hjob hhas (List.mem_map.mpr ⟨c, ?_, rfl⟩)
    rw [hentry.candidates_eq, Deletion.Movie.routedCandidates, List.mem_append]
    refine .inl (List.mem_filter.mpr ⟨List.mem_filter.mpr ⟨hc, hsome⟩, ?_⟩)
    exact decide_eq_true ⟨hmovie, hroute⟩
  have hunmatched : c ∈ Deletion.Movie.unmatchedVersionCandidates env db candidates :=
    List.mem_filter.mpr ⟨List.mem_filter.mpr ⟨hc, hsome⟩, by simpa using hroute⟩
  rcases hspares c hc job.movieId hmovie hbatch with hnone | hrouted | hdeleted
  · rw [hnone] at hversion
    cases hversion
  · exact hroute hrouted
  · rw [deletedVersion_eq_none_of_run hunmatched hhas] at hdeleted
    cases hdeleted

theorem apply_seasons_episodes {now : Nat} (r : MovieRemoval) :
    (r.apply now db).seasons = db.seasons ∧ (r.apply now db).episodes = db.episodes := by
  have hsoft : ∀ (db : Tables) movieId,
      (db.softRemoveMovieIfEmpty now movieId).seasons = db.seasons ∧
        (db.softRemoveMovieIfEmpty now movieId).episodes = db.episodes := by
    intro db movieId
    rcases Tables.softRemoveMovieIfEmpty_eq db now movieId with h | h <;> rw [h] <;>
      exact ⟨rfl, rfl⟩
  cases r with
  | version candidate v =>
    rw [MovieRemoval.apply, Deletion.Movie.deleteVersionRow]
    split
    · exact ⟨rfl, rfl⟩
    · exact hsoft _ _
  | batch job =>
    rw [MovieRemoval.apply, MovieRemoval.recordRemoval_eq]
    dsimp only
    rw [Deletion.Movie.removeTargets]
    split
    · exact ⟨rfl, rfl⟩
    · split_ifs
      · exact ⟨rfl, rfl⟩
      · exact hsoft _ _
  | fallback candidate movieId => exact ⟨rfl, rfl⟩

theorem keepsNamed_movie (env : Environment) (outcomes : MovieOutcomes) (restrictToIds : List Nat)
    (approvedBy : String) (hplaced : Placed db)
    (hspares : LeavesNoVersion env outcomes db
      (Deletion.Movie.loadCandidates env db restrictToIds)) :
    KeepsNamed db (deleteMovieCandidates env outcomes db restrictToIds approvedBy).db := by
  obtain ⟨hseasons, hepisodes⟩ :
      (deleteMovieCandidates env outcomes db restrictToIds approvedBy).db.seasons = db.seasons ∧
        (deleteMovieCandidates env outcomes db restrictToIds approvedBy).db.episodes =
          db.episodes := by
    refine (Deletion.Movie.run_effects env outcomes db restrictToIds approvedBy).preserves
      (P := fun db' => db'.seasons = db.seasons ∧ db'.episodes = db.episodes) ?_ ?_ ⟨rfl, rfl⟩
    · rintro _ _ ⟨f, history, -, rfl⟩ h
      exact h
    · intro r _ db' h
      exact ⟨(apply_seasons_episodes r).1.trans h.1, (apply_seasons_episodes r).2.trans h.2⟩
  constructor
  case candidates =>
    exact (Deletion.Movie.run_shrinks env outcomes db restrictToIds approvedBy).candidates
  case seasons =>
    intro c' hc' id hid hrow
    rwa [hseasons]
  case episodes =>
    intro c' hc' id hid e he heid
    exact ⟨e, by rwa [hepisodes], heid, rfl⟩
  case versions =>
    intro c' hc' id hid hrow
    obtain ⟨v, hv, rfl⟩ := List.mem_map.mp hrow
    refine List.mem_map_of_mem (Deletion.Movie.mem_run_movieVersions.mpr ⟨hv, ?_, ?_, ?_⟩)
    · rintro ⟨c, hc, deleted, hdeleted, hdid⟩
      have hloaded := (List.mem_filter.mp (List.mem_filter.mp hc).1).1
      have hversion := (Deletion.Movie.deletedVersion_eq_some hdeleted).1
      have hhas := hasCandidate_of_version hplaced hc' hid hloaded (hdid ▸ hversion)
      rw [deletedVersion_eq_none_of_run hc hhas] at hdeleted
      cases hdeleted
    · rintro ⟨job, hjob, -, hmem⟩
      exact notMem_concreteVersionIds_of_run hplaced hspares hc' hid (List.mem_append_left _ hjob)
        hmem
    · rintro ⟨job, hjob, -, hmem⟩
      exact notMem_concreteVersionIds_of_run hplaced hspares hc' hid (List.mem_append_right _ hjob)
        hmem

end Movies

end Handlers

/-! ## Moves -/

section Moves

variable {env : Environment} {db : Tables} {approvedBy : String}

/-- A version that no candidate names. -/
theorem keepsNamed_deleteVersion {movieId size key : Nat}
    (h : ∀ c ∈ db.candidates, c.movieVersionId ≠ some key) :
    KeepsNamed db { db.shrinkMovie movieId size with
      movieVersions := (db.shrinkMovie movieId size).movieVersions.filter (·.id ≠ key) } where
  candidates c hc := ⟨c, hc, rfl, rfl⟩
  versions c hc id hid hrow := by
    obtain ⟨v, hv, rfl⟩ := List.mem_map.mp hrow
    refine List.mem_map_of_mem (List.mem_filter.mpr ⟨hv, decide_eq_true fun heq => h c hc ?_⟩)
    exact heq ▸ hid
  seasons _ _ _ _ hrow := hrow
  episodes _ _ _ _ e he hid := ⟨e, he, hid, rfl⟩

theorem keepsNamed_softRemoveMovieIfEmpty {now key : Nat} :
    KeepsNamed db (db.softRemoveMovieIfEmpty now key) := by
  rcases Tables.softRemoveMovieIfEmpty_eq db now key with h | h <;> rw [h]
  · exact .refl db
  · exact keepsNamed_removeMovie

theorem keepsNamed_recordMovieMove (dest : String) (version : MovieVersion) (movie : Movie) :
    KeepsNamed db (Move.recordMovieMove env approvedBy dest version movie db) := by
  have hcandidates : KeepsNamed db { db with
      candidates := db.candidates.filter (·.movieVersionId ≠ some version.id)
      deleteRequests := db.deleteRequests.filter (·.movieVersionId ≠ some version.id) } :=
    .of_rows (fun c hc => ⟨c, List.mem_of_mem_filter hc, rfl, rfl⟩) (List.Subset.refl _)
      (List.Subset.refl _) rfl
  unfold Move.recordMovieMove
  refine KeepsNamed.trans ?_ (keepsNamed_of_marks (Tables.marks_history _ _))
  refine hcandidates.trans ?_
  dsimp only
  split
  · exact .refl _
  · rename_i row hrow
    have hid : row.id = version.id := by simpa using List.find?_some hrow
    refine KeepsNamed.trans ?_ keepsNamed_softRemoveMovieIfEmpty
    refine keepsNamed_deleteVersion fun c hc => ?_
    rw [hid]
    exact of_decide_eq_true (List.mem_filter.mp hc).2

theorem keepsNamed_recordSeriesMove (dest : String) (candidate : ReclaimCandidate)
    (move : Move.SeriesMove) :
    KeepsNamed db (Move.recordSeriesMove env approvedBy dest candidate move db) := by
  unfold Move.recordSeriesMove
  refine KeepsNamed.trans ?_ (keepsNamed_of_marks (Tables.marks_history _ _))
  have hcandidate : KeepsNamed db (db.deleteCandidate candidate.id) := keepsNamed_deleteCandidate
  refine hcandidate.trans ?_
  cases move.season with
  | none => exact keepsNamed_removeSeries
  | some season =>
    dsimp only
    rw [Move.recordSeasonMove]
    exact keepsNamed_ite (keepsNamed_map_series _) keepsNamed_deleteSeasonRow

theorem keepsNamed_move (env : Environment) (outcomes : MoveOutcomes) (db : Tables)
    (candidateIds : List Nat) (approvedBy : String) :
    KeepsNamed db (moveSpecificCandidatesImpl env outcomes db candidateIds approvedBy).1 := by
  unfold moveSpecificCandidatesImpl
  split_ifs
  · exact .refl db
  · exact .refl db
  · have hmovies : ∀ (rows : Tables) (candidates : List ReclaimCandidate) (run : MoveRun),
        KeepsNamed run.db
          (candidates.foldl (Move.moveMovieStep env outcomes rows approvedBy) run).db := by
      intro rows candidates run
      refine Loops.foldl_invariant (P := fun run' : MoveRun => KeepsNamed run.db run'.db)
        (fun candidate _ run' h => h.trans ?_) (.refl _)
      unfold Move.moveMovieStep
      split
      · exact .refl _
      · split
        · exact .refl _
        · exact keepsNamed_recordMovieMove _ _ _
    have hseries : ∀ (rows : Tables) (candidates : List ReclaimCandidate) (run : MoveRun),
        KeepsNamed run.db
          (candidates.foldl (Move.moveSeriesStep env outcomes rows approvedBy) run).db := by
      intro rows candidates run
      refine Loops.foldl_invariant (P := fun run' : MoveRun => KeepsNamed run.db run'.db)
        (fun candidate _ run' h => h.trans ?_) (.refl _)
      unfold Move.moveSeriesStep
      split
      · exact .refl _
      · split
        · exact .refl _
        · exact keepsNamed_recordSeriesMove _ _ _
    exact (hmovies db _ { db }).trans (hseries _ _ _)

end Moves

/-! ## Syncs -/

section Syncs

variable {db db' : Tables}

/-- An upsert whose stale versions no candidate names. -/
theorem keepsNamed_upsertMovieVersions {movieId : Nat} {versions : List MovieVersionData}
    (h : ∀ c ∈ db.candidates, ∀ id ∈ c.movieVersionId, id ∉ staleVersions db movieId versions) :
    KeepsNamed db (upsertMovieVersions db movieId versions) where
  candidates c hc := ⟨c, hc, rfl, rfl⟩
  versions c hc id hid hrow := by
    have hkept : id ∈ (upsertVersions db movieId versions).rows.map MovieVersion.id := by
      rw [upsertVersions, foldl_upsertVersion_rows]
      exact Write.map_subset_applyAll versionWrites_keyed _ hrow
    obtain ⟨v, hv, rfl⟩ := List.mem_map.mp hkept
    exact List.mem_map_of_mem (List.mem_filter.mpr ⟨hv, decide_eq_true (h c hc _ hid)⟩)
  seasons _ _ _ _ hrow := hrow
  episodes _ _ _ _ e he hid := ⟨e, he, hid, rfl⟩

theorem keepsNamed_syncMovie (world : SyncWorld) {rows : List Movie} {item : AggregatedMovieData}
    (h : ∀ id, locateMovie rows item.externalIds = some id → ∀ c ∈ db.candidates,
      ∀ versionId ∈ c.movieVersionId, versionId ∉ staleVersions db id item.versions) :
    KeepsNamed db (syncMovie world rows db item) := by
  unfold syncMovie
  cases hlocate : locateMovie rows item.externalIds with
  | some id =>
    have hrow : KeepsNamed db { db with
        movies := (Write.update id (item.updateRow world)).apply Movie.id db.movies } :=
      .of_rows (fun c hc => ⟨c, hc, rfl, rfl⟩) (List.Subset.refl _) (List.Subset.refl _) rfl
    exact hrow.trans (keepsNamed_upsertMovieVersions (h id hlocate))
  | none =>
    refine .of_rows (fun c hc => ⟨c, hc, rfl, rfl⟩) ?_ (List.Subset.refl _) rfl
    refine Write.map_subset_applyAll (fun w hw => ?_) _
    obtain ⟨ver, -, rfl⟩ := List.mem_map.mp hw
    exact fun _ => rfl

theorem keepsNamed_pruneEpisode (db : Tables) (id : Nat) : KeepsNamed db (pruneEpisode db id) := by
  unfold pruneEpisode
  refine (keepsNamed_filter_candidates _).trans (keepsNamed_deleteEpisodeRow fun c hc => ?_)
  exact of_decide_eq_true (List.mem_filter.mp hc).2

theorem keepsNamed_upsertEpisodes (db : Tables) (seasonId : Nat)
    (episodeData : List AggregatedEpisodeData) (service : Service) (removeStale : Bool) :
    KeepsNamed db (upsertEpisodes db seasonId episodeData service removeStale) := by
  have hrows : KeepsNamed db
      { db with episodes := (upsertedEpisodes db seasonId episodeData service).rows } := {
    candidates := fun c hc => ⟨c, hc, rfl, rfl⟩
    versions := fun _ _ _ _ h => h
    seasons := fun _ _ _ _ h => h
    episodes := fun c hc id hid e he heid => by
      obtain ⟨e', he', hplace⟩ := List.mem_map.mp (place_mem_upsertedEpisodes seasonId episodeData
        service (List.mem_map_of_mem he))
      obtain ⟨hid', hseason, -⟩ : e'.id = e.id ∧ e'.seasonId = e.seasonId ∧
          e'.episodeNumber = e.episodeNumber := by
        simpa [Episode.place] using hplace
      exact ⟨e', he', hid'.trans heid, hseason⟩ }
  cases removeStale with
  | false => exact hrows
  | true => exact hrows.trans (KeepsNamed.foldl keepsNamed_pruneEpisode _ _)

theorem keepsNamed_upsertSeasonEpisodes (existing : Dict Nat Season) (seriesId : Nat)
    (removeStale : Bool) (db : Tables) (service : Service) (sd : AggregatedSeasonData) :
    KeepsNamed db (upsertSeasonEpisodes existing seriesId removeStale db service sd) := by
  unfold upsertSeasonEpisodes
  split_ifs
  · exact .refl db
  · cases seasonIdFor existing db.seasons seriesId sd.seasonNumber with
    | none => exact .refl db
    | some seasonId => exact keepsNamed_upsertEpisodes db seasonId _ service removeStale

/-- The candidates of the removed seasons go with them. -/
theorem keepsNamed_removeSeasons (ids : List Nat) : KeepsNamed db (removeSeasons db ids) where
  candidates c hc := ⟨c, List.mem_of_mem_filter hc, rfl, rfl⟩
  versions _ _ _ _ hrow := hrow
  seasons c hc id hid hrow := by
    have hnone : namesOneOf ids c.seasonId = false := by
      simpa using (List.mem_filter.mp hc).2
    obtain ⟨s, hs, rfl⟩ := List.mem_map.mp hrow
    refine List.mem_map_of_mem (List.mem_filter.mpr ⟨hs, decide_eq_true fun hmem => ?_⟩)
    rw [show c.seasonId = some s.id from hid] at hnone
    simp [namesOneOf, hmem] at hnone
  episodes _ _ _ _ e he hid := ⟨e, he, hid, rfl⟩

theorem keepsNamed_syncSeasonRows {seriesId : Nat} {service : Service}
    {seasonData : List AggregatedSeasonData}
    (h : syncSeasonRows db seriesId seasonData service = some db') : KeepsNamed db db' := by
  by_cases hempty : seasonData = []
  · subst hempty
    obtain rfl : db = db' := Option.some.inj h
    exact .refl db
  · obtain ⟨-, rfl⟩ := syncSeasonRows_eq_some hempty h
    have hrows : KeepsNamed db
        { db with seasons := upsertedSeasons db seriesId seasonData service } :=
      .of_rows (fun c hc => ⟨c, hc, rfl, rfl⟩) (List.Subset.refl _)
        (Write.map_subset_applyAll seasonWrites_keyed _) rfl
    exact hrows.trans (keepsNamed_removeSeasons _)

theorem keepsNamed_syncOneSeries {world : SyncWorld} {maps : SeriesMaps}
    {item : AggregatedSeriesData} {state : SeriesSync}
    (h : syncOneSeries world ⟨db, maps⟩ item = some state) : KeepsNamed db state.db := by
  have hseasons : ∀ {db db' : Tables} {seriesId : Nat},
      syncSeasons db seriesId item.service item.seasonData = some db' → KeepsNamed db db' := by
    intro db db' seriesId h
    obtain ⟨db₁, hrows, rfl⟩ := Option.map_eq_some_iff.mp h
    exact (keepsNamed_syncSeasonRows hrows).trans (KeepsNamed.foldl
      (fun db sd => keepsNamed_upsertSeasonEpisodes _ seriesId true db item.service sd) _ _)
  unfold syncOneSeries at h
  dsimp only at h
  cases hlocate : maps.locate item.externalIds with
  | some id =>
    rw [hlocate] at h
    obtain ⟨db', hsync, rfl⟩ := Option.map_eq_some_iff.mp h
    refine KeepsNamed.trans ?_ (hseasons hsync)
    exact .of_rows (fun c hc => ⟨c, hc, rfl, rfl⟩) (List.Subset.refl _) (List.Subset.refl _) rfl
  | none =>
    rw [hlocate] at h
    obtain ⟨db', hsync, rfl⟩ := Option.map_eq_some_iff.mp h
    refine KeepsNamed.trans ?_ (hseasons hsync)
    exact .of_rows (fun c hc => ⟨c, hc, rfl, rfl⟩) (List.Subset.refl _) (List.Subset.refl _) rfl

theorem keepsNamed_supplementalPass (db : Tables) (seriesId : Nat)
    (entries : List (Service × List AggregatedSeasonData)) :
    KeepsNamed db (supplementalPass db seriesId entries) := by
  unfold supplementalPass
  refine KeepsNamed.foldl (fun db entry => ?_) entries db
  exact KeepsNamed.foldl (fun db sd =>
    keepsNamed_upsertSeasonEpisodes ∅ seriesId false db entry.1 sd) entry.2 db

theorem keepsNamed_softDeleteMovies (world : SyncWorld) (db : Tables) (ids : List Nat) :
    KeepsNamed db (softDeleteMovies world db ids) :=
  .of_rows (fun c hc => ⟨c, List.mem_of_mem_filter hc, rfl, rfl⟩) (List.Subset.refl _)
    (List.Subset.refl _) rfl

theorem keepsNamed_softDeleteSeries (world : SyncWorld) (db : Tables) (ids : List Nat) :
    KeepsNamed db (softDeleteSeries world db ids) :=
  .of_rows (fun c hc => ⟨c, List.mem_of_mem_filter hc, rfl, rfl⟩) (List.Subset.refl _)
    (List.Subset.refl _) rfl

/-- The first transaction of a resync, when no candidate names a version. -/
theorem keepsNamed_clearVersions (h : ∀ c ∈ db.candidates, c.movieVersionId = none) :
    KeepsNamed db (clearVersions db) where
  candidates c hc := by
    obtain ⟨c₀, hc₀, rfl⟩ := List.mem_map.mp hc
    refine ⟨c₀, hc₀, rfl, ?_⟩
    rw [ReclaimCandidate.target, h c₀ hc₀]
    rfl
  versions c hc id hid := by
    obtain ⟨c, -, rfl⟩ := List.mem_map.mp hc
    cases hid
  seasons _ _ _ _ hrow := hrow
  episodes _ _ _ _ e he hid := ⟨e, he, hid, rfl⟩

theorem keepsNamed_other (write : OtherWrite) (db : Tables) : KeepsNamed db (write.run db) := by
  refine .of_rows (fun c hc => ⟨c, write.candidates db ▸ hc, rfl, rfl⟩) ?_ ?_ (write.episodes db)
  · rw [write.movieVersions]
    exact List.Subset.refl _
  · rw [write.seasons]
    exact List.Subset.refl _

end Syncs

end MediaMasterr.Candidates
