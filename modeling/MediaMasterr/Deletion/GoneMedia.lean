import MediaMasterr.Database.Shrinking
import MediaMasterr.Deletion.SingleCandidate

/-! # Counted candidates and their media

No handler puts media back, and a call for one candidate that counts a success has
removed the media of that candidate. -/

namespace MediaMasterr.Deletion

open MediaMasterr.Foundations MediaMasterr.Database

/-- What one removal of a run establishes and nothing breaks holds behind the run. -/
theorem Effects.establishes {R : Type} {apply : R → Tables → Tables} {P : Tables → Prop}
    {db db' : Tables} {rs : List R} {r : R}
    (hmark : ∀ {db db' : Tables}, db.Marks db' → P db → P db')
    (hkeep : ∀ r db, P db → P (apply r db)) (hest : ∀ db, P (apply r db))
    (h : Effects apply db rs db') (hr : r ∈ rs) : P db' := by
  induction h with
  | done => exact absurd hr List.not_mem_nil
  | mark _ hmarks ih => exact hmark hmarks (ih hr)
  | removal r' _ ih =>
    rcases List.mem_append.mp hr with hbefore | hlast
    · exact hkeep r' _ (ih hbefore)
    · obtain rfl := List.mem_singleton.mp hlast
      exact hest _

variable {env : Environment} {db : Tables} {id : Nat} {approvedBy : String}

/-! ## Movies -/

namespace MovieRemoval

theorem shrinks_deleteVersionRow {now versionId : Nat} :
    db.Shrinks (Movie.deleteVersionRow now versionId db) := by
  unfold Movie.deleteVersionRow
  split
  · exact .refl db
  · exact (Tables.shrinks_shrinkMovie.trans (Tables.shrinks_filter_movieVersions _)).trans
      Tables.shrinks_softRemoveMovieIfEmpty

theorem shrinks_removeTargets {now : Nat} (job : MovieJob) :
    db.Shrinks (Movie.removeTargets now db job) := by
  unfold Movie.removeTargets
  split
  · exact .refl db
  · split_ifs
    · exact Tables.shrinks_removeMovie
    · exact (Tables.shrinks_shrinkMovie.trans (Tables.shrinks_filter_movieVersions _)).trans
        Tables.shrinks_softRemoveMovieIfEmpty

theorem apply_shrinks {now : Nat} (r : MovieRemoval) : db.Shrinks (r.apply now db) := by
  cases r with
  | version candidate v => exact Tables.shrinks_deleteCandidate.trans shrinks_deleteVersionRow
  | batch job =>
    have hcandidates : (Movie.removeTargets now db job).candidates = db.candidates :=
      removeTargets_candidates job
    rw [apply, recordRemoval_eq, ← hcandidates]
    exact (shrinks_removeTargets job).trans (Tables.shrinks_filter_candidates _)
  | fallback candidate movieId =>
    exact Tables.shrinks_removeMovie.trans Tables.shrinks_deleteCandidate

end MovieRemoval

namespace Movie

variable {outcomes : MovieOutcomes} {restrictToIds : List Nat}

theorem run_shrinks (env : Environment) (outcomes : MovieOutcomes) (db : Tables)
    (restrictToIds : List Nat) (approvedBy : String) :
    db.Shrinks (deleteMovieCandidates env outcomes db restrictToIds approvedBy).db :=
  (run_effects env outcomes db restrictToIds approvedBy).preserves (P := fun db' => db.Shrinks db')
    (fun hmarks h => h.trans hmarks.shrinks) (fun r _ _ h => h.trans r.apply_shrinks) (.refl db)

/-- A movie that a removal takes as a whole is not in the library behind the run. -/
theorem not_movieInLibrary_of_removal {r : MovieRemoval} {movieId : Nat}
    (hest : ∀ db : Tables, ¬(r.apply env.now db).MovieInLibrary movieId)
    (hr : r ∈ removals env outcomes db approvedBy (loadCandidates env db restrictToIds)) :
    ¬(deleteMovieCandidates env outcomes db restrictToIds approvedBy).db.MovieInLibrary movieId :=
  (run_effects env outcomes db restrictToIds approvedBy).establishes
    (P := fun db => ¬db.MovieInLibrary movieId)
    (fun hmarks h hlib => h (hmarks.shrinks.movies movieId hlib))
    (fun r _ h hlib => h (r.apply_shrinks.movies movieId hlib)) hest hr

theorem not_movieInLibrary_batch {now : Nat} {job : MovieJob} (hwhole : job.isWholeMovie = true) :
    ¬((MovieRemoval.batch job).apply now db).MovieInLibrary job.movieId := by
  have hcandidates : ∀ db' : Tables, ∀ candidates,
      ({ db' with candidates } : Tables).MovieInLibrary job.movieId ↔
        db'.MovieInLibrary job.movieId :=
    fun _ _ => Iff.rfl
  rw [MovieRemoval.apply, MovieRemoval.recordRemoval_eq, hcandidates, removeTargets]
  cases hmovie : db.findMovie job.movieId with
  | none =>
    rintro ⟨m, hm, -⟩
    simp [hmovie] at hm
  | some movie =>
    dsimp only
    rw [if_pos hwhole, Tables.movieInLibrary_removeMovie, Tables.findMovie_id hmovie]
    simp

/-- A run that deletes a version of this entry leaves no row of it. -/
theorem notMem_run_of_targetedIn {versionId : Nat}
    (h : VersionDeleted env outcomes db (loadCandidates env db restrictToIds) versionId ∨
      TargetedIn (deletedJobs env outcomes db approvedBy (loadCandidates env db restrictToIds))
        versionId ∨
      TargetedIn (unmonitoredJobs env outcomes db approvedBy (loadCandidates env db restrictToIds))
        versionId) :
    versionId ∉ (deleteMovieCandidates env outcomes db restrictToIds approvedBy).db.movieVersions.map
      MovieVersion.id := by
  intro hmem
  obtain ⟨v, hv, rfl⟩ := List.mem_map.mp hmem
  obtain ⟨-, hversion, hdeleted, hunmonitored⟩ := mem_run_movieVersions.mp hv
  rcases h with h | h | h
  · exact hversion h
  · exact hdeleted h
  · exact hunmonitored h

/-- The movie that the fallback removes for a candidate is the one that it names. -/
theorem movieId_of_fallbackRemovals {rows : Tables} {c c' : ReclaimCandidate} {movieId : Nat}
    (h : .fallback c' movieId ∈ fallbackRemovals env outcomes rows c) :
      c' = c ∧ c.movieId = some movieId := by
  unfold fallbackRemovals at h
  split at h
  · exact absurd h List.not_mem_nil
  · split at h
    · exact absurd h List.not_mem_nil
    · rename_i movie versions hversions
      split_ifs at h
      · obtain ⟨rfl, rfl⟩ := MovieRemoval.fallback.inj (List.mem_singleton.mp h)
        unfold fallbackVersions at hversions
        split at hversions
        · exact absurd hversions (by simp)
        · rename_i row hrow
          dsimp only at hversions
          split_ifs at hversions
          obtain ⟨rfl, -⟩ := Prod.mk.inj (Option.some.inj hversions)
          obtain ⟨movieId, hmovie, hfind⟩ := Option.bind_eq_some_iff.mp hrow
          rw [hmovie, Tables.findMovie_id hfind]
          exact ⟨rfl, rfl⟩
      · exact absurd h List.not_mem_nil

theorem mediaGone_of_run (hids : (db.candidates.map ReclaimCandidate.id).Nodup)
    (hcount : 0 < (deleteMovieCandidates env outcomes db [id] approvedBy).deletedCount) :
    ∃ c ∈ db.candidates, c.id = id ∧
      (deleteMovieCandidates env outcomes db [id] approvedBy).db.MediaGone c.target := by
  rw [run_deletedCount] at hcount
  obtain ⟨r, hr⟩ := List.exists_mem_of_length_pos hcount
  set candidates := loadCandidates env db [id] with hcandidates
  have hsub : candidates.Sublist db.candidates := loadCandidates_sublist [id]
  have hmem : ∀ c ∈ candidates, c ∈ db.candidates ∧ c.id = id ∧ c.mediaType = .movie := by
    intro c hc
    have hmedia : c.mediaType = .movie := by
      have hloaded := (filterMovieCandidatesByFavorites_sublist ..).subset hc
      have hjoined := List.mem_filter.mp ((restrictTo_sublist ..).subset hloaded)
      exact (decide_eq_true_eq.mp hjoined.2).1
    exact ⟨hsub.subset hc,
      List.mem_singleton.mp (id_mem_of_mem_loadCandidates (List.cons_ne_nil _ _) hc), hmedia⟩
  -- all loaded candidates are one
  have hone : ∀ c ∈ candidates, ∀ c' ∈ candidates, c = c' := fun c hc c' hc' =>
    List.inj_on_of_nodup_map hids (hmem c hc).1 (hmem c' hc').1
      ((hmem c hc).2.1.trans (hmem c' hc').2.1.symm)
  have hgone : ∀ c ∈ candidates,
    (deleteMovieCandidates env outcomes db [id] approvedBy).db.MediaGone c.target →
      ∃ c ∈ db.candidates, c.id = id ∧
        (deleteMovieCandidates env outcomes db [id] approvedBy).db.MediaGone c.target :=
    fun c hc h => ⟨c, (hmem c hc).1, (hmem c hc).2.1, h⟩
  cases r with
  | version c v =>
    have hversion : c ∈ unmatchedVersionCandidates env db candidates ∧
        deletedVersion env outcomes db c = some v := by
      have hfallback : ∀ rows c', .version c v ∉ fallbackRemovals env outcomes rows c' := by
        intro rows c' hmem
        rcases fallbackRemovals_eq env outcomes rows c' with h | ⟨_, h⟩ <;> simp [h] at hmem
      simpa [removals, versionRemovals, hfallback] using hr
    have hc : c ∈ candidates := (List.mem_filter.mp (List.mem_filter.mp hversion.1).1).1
    refine hgone c hc ((Tables.mediaGone_version (hmem c hc).2.2
      (deletedVersion_eq_some hversion.2).1).mpr (notMem_run_of_targetedIn (.inl ?_)))
    exact ⟨c, hversion.1, v, hversion.2, rfl⟩
  | batch job =>
    have hjob := batch_mem_removals.mp hr
    obtain ⟨hrouted, hne⟩ := candidates_of_mem_handledJobs hjob
    obtain ⟨c, hc⟩ := List.exists_mem_of_ne_nil _ hne
    obtain ⟨hloaded, hmovie⟩ := mem_routedCandidates (hrouted ▸ hc)
    have hentry : ∃ unmonitor config, BatchEntry env db candidates unmonitor config job := by
      rcases List.mem_append.mp hjob with hjob | hjob
      · obtain ⟨config, -, hbatch⟩ := mem_deletedJobs hjob
        exact ⟨false, config, mem_batch hbatch⟩
      · obtain ⟨config, -, hbatch⟩ := mem_unmonitoredJobs hjob
        exact ⟨true, config, mem_batch hbatch⟩
    obtain ⟨_, _, hentry⟩ := hentry
    cases hversion : c.movieVersionId with
    | none =>
      have hwhole := hentry.isWholeMovie_iff.mpr ⟨c, hloaded, hmovie, hversion⟩
      exact hgone c hloaded ((Tables.mediaGone_movie (hmem c hloaded).2.2 hversion hmovie).mpr
        (not_movieInLibrary_of_removal (fun _ => not_movieInLibrary_batch hwhole) hr))
    | some versionId =>
      have hpart : job.isWholeMovie = false := by
        refine Bool.eq_false_iff.mpr fun hwhole => ?_
        obtain ⟨c', hc', -, hnone⟩ := hentry.isWholeMovie_iff.mp hwhole
        simp [hone c' hc' c hloaded, hversion] at hnone
      have htarget : versionId ∈ job.concreteVersionIds :=
        hentry.mem_concreteVersionIds.mpr ⟨c, hloaded, hmovie, hversion⟩
      refine hgone c hloaded ((Tables.mediaGone_version (hmem c hloaded).2.2 hversion).mpr
        (notMem_run_of_targetedIn (.inr ?_)))
      exact (List.mem_append.mp hjob).imp (fun h => ⟨job, h, hpart, htarget⟩)
        fun h => ⟨job, h, hpart, htarget⟩
  | fallback c movieId =>
    have hfallback : c ∈ unhandled env outcomes db approvedBy candidates ∧
      c.movieId = some movieId := by
      simp only [removals, List.mem_append, List.mem_map, reduceCtorEq, and_false, exists_false,
        or_false,
        List.mem_flatMap] at hr
      rcases hr with ⟨c', -, hc'⟩ | ⟨c', hc', hremoval⟩
      · simp [versionRemovals] at hc'
      · obtain ⟨rfl, hmovie⟩ := movieId_of_fallbackRemovals hremoval
        exact ⟨hc', hmovie⟩
    obtain ⟨hunhandled, hmovie⟩ := hfallback
    have hwhole := List.mem_filter.mp (List.mem_filter.mp hunhandled).1
    refine hgone c hwhole.1 ((Tables.mediaGone_movie (hmem c hwhole.1).2.2
      (Option.isNone_iff_eq_none.mp hwhole.2) hmovie).mpr
        (not_movieInLibrary_of_removal (fun db => ?_) hr))
    rw [MovieRemoval.apply]
    exact fun h => (Tables.movieInLibrary_removeMovie.mp h).2 rfl

end Movie

/-! ## Series -/

namespace Series

variable {outcomes : SeriesOutcomes}

theorem run_shrinks (env : Environment) (outcomes : SeriesOutcomes) (db : Tables)
    (restrictToIds : List Nat) (approvedBy : String) :
    db.Shrinks (deleteSeriesCandidates env outcomes db restrictToIds approvedBy).db := by
  refine run_preserves (P := fun db' => db.Shrinks db') (fun hmarks h => h.trans hmarks.shrinks)
    (fun action db' job h => h.trans ?_) (.refl db)
  have hremoved : db'.Shrinks
    ((db'.removeSeries env.now job.seriesId).deleteCandidate job.candidate.id) :=
    Tables.shrinks_removeSeries.trans Tables.shrinks_deleteCandidate
  exact hremoved.trans (Tables.marks_history _ _).shrinks

theorem seriesId_of_mem_removals {candidates : List ReclaimCandidate} {job : SeriesJob}
    (h : job ∈ removals env outcomes db approvedBy candidates) :
      job.candidate.seriesId = some job.seriesId := by
  simp only [removals, List.mem_append, or_assoc] at h
  rcases h with hdeleted | hunmonitored | hfallback
  · exact (deletedInBatch_of_mem hdeleted).1
  · exact (unmonitoredInBatch_of_mem hunmonitored).1
  · split_ifs at hfallback
    · obtain ⟨c, -, hjob⟩ := List.mem_filterMap.mp hfallback
      obtain ⟨rfl, hseries, -⟩ := removesFiles_fallbackEvents hjob
      exact hseries
    · exact absurd hfallback List.not_mem_nil

theorem mediaGone_of_run
    (hcount : 0 < (deleteSeriesCandidates env outcomes db [id] approvedBy).deletedCount) :
    ∃ c ∈ db.candidates, c.id = id ∧
      (deleteSeriesCandidates env outcomes db [id] approvedBy).db.MediaGone c.target := by
  rw [run_deletedCount] at hcount
  obtain ⟨job, hjob⟩ := List.exists_mem_of_length_pos hcount
  have hloaded := candidate_mem_of_mem_removals hjob
  have hseries := seriesId_of_mem_removals hjob
  have hrow := (filterSeriesCandidatesByFavorites_sublist ..).subset hloaded
  have hscope := List.mem_filter.mp ((restrictTo_sublist ..).subset hrow)
  obtain ⟨hmedia, hseriesScope, -⟩ := decide_eq_true_eq.mp hscope.2
  simp only [isSeriesScope, Bool.and_eq_true, Option.isNone_iff_eq_none] at hseriesScope
  refine ⟨job.candidate, hscope.1, ?_, ?_⟩
  · exact List.mem_singleton.mp (id_mem_of_mem_loadCandidates (List.cons_ne_nil _ _) hloaded)
  · rw [Tables.mediaGone_series hmedia hseriesScope.2 hseriesScope.1 hseries,
      run_seriesInLibrary_iff]
    exact fun h => h.2 job hjob rfl

end Series

/-! ## Seasons -/

namespace Season

variable {outcomes : SeasonOutcomes} {task : SeasonTask} {settings : GeneralSettings}
    {rows : Tables}

theorem finalize_shrinks {action : ArrDeleteAction} :
    db.Shrinks (finalize env approvedBy action task db) := by
  unfold finalize
  refine Tables.Shrinks.trans (Tables.Shrinks.ite_deleteSeasonRow ?_)
    (Tables.marks_history _ _).shrinks
  exact Tables.shrinks_deleteCandidate.trans
    (Tables.shrinks_map_series fun s => by split_ifs <;> exact ⟨rfl, rfl⟩)

theorem processTask_shrinks (run : Run) :
    run.db.Shrinks (processTask env outcomes settings rows approvedBy run task).db := by
  dsimp only [processTask]
  cases taskFailure env outcomes settings rows task with
  | some error => exact (Tables.marks_markCandidateDeleteFailure _ _ _).shrinks
  | none => exact finalize_shrinks

theorem run_shrinks (env : Environment) (outcomes : SeasonOutcomes) (db : Tables)
    (restrictToIds : List Nat) (approvedBy : String) :
    db.Shrinks (deleteSeasonCandidates env outcomes db restrictToIds approvedBy).db := by
  dsimp only [deleteSeasonCandidates, processTasks]
  exact Loops.foldl_invariant (P := fun run : Run => db.Shrinks run.db)
    (fun _ _ run h => h.trans (processTask_shrinks run)) (.refl db)

/-- A deleted season has no row. -/
theorem finalize_seasons {action : ArrDeleteAction} :
    task.season.id ∉ (finalize env approvedBy action task db).seasons.map Database.Season.id := by
  obtain ⟨db', -, -, hmarks⟩ := finalize_eq env approvedBy action task db
  intro hmem
  have hrow := hmarks.shrinks.seasons hmem
  split_ifs at hrow with hfound
  · rw [Tables.deleteSeasonRow_seasons] at hrow
    obtain ⟨s, hs, hid⟩ := List.mem_map.mp hrow
    simpa [hid] using (List.mem_filter.mp hs).2
  · obtain ⟨s, hs, hid⟩ := List.mem_map.mp hrow
    exact hfound (Tables.findSeason_isSome_iff.mpr ⟨s, hs, hid⟩)

theorem mediaGone_of_run
    (hcount : 0 < (deleteSeasonCandidates env outcomes db [id] approvedBy).deletedCount) :
    ∃ c ∈ db.candidates, c.id = id ∧
      (deleteSeasonCandidates env outcomes db [id] approvedBy).db.MediaGone c.target := by
  rw [run_deletedCount] at hcount
  obtain ⟨task, htask⟩ := List.exists_mem_of_length_pos hcount
  obtain ⟨hmem, hdeletes⟩ := mem_deletedTasks.mp htask
  obtain ⟨c, hloaded, hc⟩ := List.mem_filterMap.mp hmem
  have hrow := (filterSeriesCandidatesByFavorites_sublist ..).subset hloaded
  have hscope := List.mem_filter.mp ((restrictTo_sublist ..).subset hrow)
  obtain ⟨hmedia, hseasonScope, -⟩ := decide_eq_true_eq.mp hscope.2
  simp only [isSeasonScope, Bool.and_eq_true, Option.isNone_iff_eq_none] at hseasonScope
  have hseason : c.seasonId = some task.season.id := by
    unfold taskOf at hc
    split at hc
    · rename_i season series hseason hseries
      obtain rfl := Option.some.inj hc
      obtain ⟨seasonId, hid, hfind⟩ := Option.bind_eq_some_iff.mp hseason
      have hkey : season.id = seasonId := by simpa using List.find?_some hfind
      rw [hid, hkey]
    · exact absurd hc (by simp)
  refine ⟨c, hscope.1, ?_, (Tables.mediaGone_season hmedia hseasonScope.2 hseason).mpr ?_⟩
  · exact List.mem_singleton.mp (id_mem_of_mem_loadCandidates (List.cons_ne_nil _ _) hloaded)
  · dsimp only [deleteSeasonCandidates, processTasks]
    refine Loops.foldl_establishes (I := fun _ => True)
      (P := fun run : Run => task.season.id ∉ run.db.seasons.map Database.Season.id) hmem
      (fun _ _ _ _ => trivial) (fun run _ => ?_)
      (fun _ _ run _ h hmem => h ((processTask_shrinks run).seasons hmem)) trivial
    dsimp only [processTask]
    rw [hdeletes]
    exact finalize_seasons

end Season

/-! ## Episodes -/

namespace Episode

variable {outcomes : EpisodeOutcomes} {task : EpisodeTask} {settings : GeneralSettings}
    {rows : Tables}

theorem finalize_shrinks {action : ArrDeleteAction} :
    db.Shrinks (finalize env approvedBy action task db) := by
  unfold finalize
  refine Tables.Shrinks.trans (Tables.Shrinks.ite_deleteSeasonRow ?_)
    (Tables.marks_history _ _).shrinks
  refine Tables.Shrinks.trans ?_ ((Tables.shrinks_map_seasons fun s => by split_ifs <;> rfl).trans
    (Tables.shrinks_map_series fun s => by split_ifs <;> exact ⟨rfl, rfl⟩))
  split_ifs
  · exact Tables.shrinks_deleteCandidate.trans Tables.shrinks_deleteEpisodeRow
  · exact Tables.shrinks_deleteCandidate

theorem processTask_shrinks (run : Run) :
    run.db.Shrinks (processTask env outcomes settings rows approvedBy run task).db := by
  dsimp only [processTask]
  cases taskFailure env outcomes settings rows task with
  | some error => exact (Tables.marks_markCandidateDeleteFailure _ _ _).shrinks
  | none => exact finalize_shrinks

theorem run_shrinks (env : Environment) (outcomes : EpisodeOutcomes) (db : Tables)
    (restrictToIds : List Nat) (approvedBy : String) :
    db.Shrinks (deleteEpisodeCandidates env outcomes db restrictToIds approvedBy).db := by
  dsimp only [deleteEpisodeCandidates, processTasks]
  exact Loops.foldl_invariant (P := fun run : Run => db.Shrinks run.db)
    (fun _ _ run h => h.trans (processTask_shrinks run)) (.refl db)

theorem mediaGone_of_run
    (hcount : 0 < (deleteEpisodeCandidates env outcomes db [id] approvedBy).deletedCount) :
    ∃ c ∈ db.candidates, c.id = id ∧
      (deleteEpisodeCandidates env outcomes db [id] approvedBy).db.MediaGone c.target := by
  rw [run_deletedCount] at hcount
  obtain ⟨task, htask⟩ := List.exists_mem_of_length_pos hcount
  obtain ⟨hmem, hdeletes⟩ := mem_deletedTasks.mp htask
  obtain ⟨c, hloaded, hc⟩ := List.mem_filterMap.mp hmem
  have hrow := (filterSeriesCandidatesByFavorites_sublist ..).subset hloaded
  have hscope := List.mem_filter.mp ((restrictTo_sublist ..).subset hrow)
  obtain ⟨hmedia, -⟩ := decide_eq_true_eq.mp hscope.2
  have hepisode : c.episodeId = some task.episode.id := by
    unfold taskOf at hc
    split at hc
    · rename_i episode season series hepisode hseason hseries
      obtain rfl := Option.some.inj hc
      obtain ⟨episodeId, hid, hfind⟩ := Option.bind_eq_some_iff.mp hepisode
      have hkey : episode.id = episodeId := by simpa using List.find?_some hfind
      rw [hid, hkey]
    · exact absurd hc (by simp)
  refine ⟨c, hscope.1, ?_, (Tables.mediaGone_episode hmedia hepisode).mpr ?_⟩
  · exact List.mem_singleton.mp (id_mem_of_mem_loadCandidates (List.cons_ne_nil _ _) hloaded)
  · dsimp only [deleteEpisodeCandidates, processTasks]
    refine Loops.foldl_establishes (I := fun _ => True)
      (P := fun run : Run => task.episode.id ∉ run.db.episodes.map Database.Episode.id) hmem
      (fun _ _ _ _ => trivial) (fun run _ => ?_)
      (fun _ _ run _ h hmem => h ((processTask_shrinks run).episodes hmem)) trivial
    dsimp only [processTask]
    rw [hdeletes]
    dsimp only
    rw [finalize_episodes]
    intro hmem
    obtain ⟨e, he, hid⟩ := List.mem_map.mp hmem
    simpa [hid] using (List.mem_filter.mp he).2

end Episode

/-! ## Calls for one candidate -/

section Calls

variable {outcomes : HandlerOutcomes}

theorem Handler.run_shrinks (env : Environment) (outcomes : HandlerOutcomes) (db : Tables)
    (restrictToIds : List Nat) (approvedBy : String) (handler : Handler) :
    db.Shrinks (handler.run env outcomes db restrictToIds approvedBy).db := by
  cases handler with
  | movie => exact Movie.run_shrinks ..
  | series => exact Series.run_shrinks ..
  | season => exact Season.run_shrinks ..
  | episode => exact Episode.run_shrinks ..

theorem Handler.mediaGone_of_run (hids : (db.candidates.map ReclaimCandidate.id).Nodup)
    (handler : Handler)
    (hcount : 0 < (handler.run env outcomes db [id] approvedBy).deletedCount) :
    ∃ c ∈ db.candidates, c.id = id ∧
      (handler.run env outcomes db [id] approvedBy).db.MediaGone c.target := by
  cases handler with
  | movie => exact Movie.mediaGone_of_run hids hcount
  | series => exact Series.mediaGone_of_run hcount
  | season => exact Season.mediaGone_of_run hcount
  | episode => exact Episode.mediaGone_of_run hcount

theorem runHandlers_shrinks (env : Environment) (outcomes : HandlerOutcomes) (restrict : List Nat)
    (approvedBy : String) (handlers : List Handler) (db : Tables) :
    db.Shrinks (runHandlers env outcomes restrict approvedBy handlers db).1 := by
  induction handlers generalizing db with
  | nil => exact .refl db
  | cons handler handlers ih =>
    rw [runHandlers_cons]
    exact (handler.run_shrinks env outcomes db restrict approvedBy).trans (ih _)

theorem mediaGone_of_runHandlers (handlers : List Handler) {db : Tables}
    (hids : (db.candidates.map ReclaimCandidate.id).Nodup)
    (hcount : 0 < (runHandlers env outcomes [id] approvedBy handlers db).2) :
    ∃ c ∈ db.candidates, c.id = id ∧
      (runHandlers env outcomes [id] approvedBy handlers db).1.MediaGone c.target := by
  induction handlers generalizing db with
  | nil => exact absurd hcount (lt_irrefl 0)
  | cons handler handlers ih =>
    rw [runHandlers_cons] at hcount ⊢
    dsimp only at hcount ⊢
    have hshrinks := handler.run_shrinks env outcomes db [id] approvedBy
    obtain hfirst | hrest := Nat.add_pos_iff_pos_or_pos.mp hcount
    · obtain ⟨c, hc, hid, hgone⟩ := handler.mediaGone_of_run hids hfirst
      exact ⟨c, hc, hid, hgone.shrinks (runHandlers_shrinks ..)⟩
    · have hids' := (handler.run_accounts env outcomes approvedBy hids (List.nodup_singleton id)
        (List.cons_ne_nil _ _)).candidateIds
      obtain ⟨c', hc', hid', hgone⟩ := ih hids' hrest
      obtain ⟨c, hc, hid, htarget⟩ := hshrinks.candidates c' hc'
      exact ⟨c, hc, hid.trans hid', htarget ▸ hgone⟩

theorem deleteSpecificCandidatesImpl_shrinks (env : Environment) (outcomes : HandlerOutcomes)
    (db : Tables) (candidateIds : List Nat) (approvedBy : String) :
    db.Shrinks (deleteSpecificCandidatesImpl env outcomes db candidateIds approvedBy).1 := by
  by_cases hempty : candidateIds = []
  · subst hempty
    exact .refl db
  · exact (runHandlers_shrinks ..).trans
      (deleteSpecificCandidatesImpl_marks env outcomes db approvedBy hempty).shrinks

/-- A call for one candidate that counts a success has removed the media of the candidate. -/
theorem mediaGone_of_deleted (hids : (db.candidates.map ReclaimCandidate.id).Nodup)
    (hcount : 0 < (deleteSpecificCandidatesImpl env outcomes db [id] approvedBy).2.1)
    {c : ReclaimCandidate} (hc : c ∈ db.candidates) (hid : c.id = id) :
    (deleteSpecificCandidatesImpl env outcomes db [id] approvedBy).1.MediaGone c.target := by
  have hsingle : [id].eraseDups = [id] := rfl
  have hmarks := deleteSpecificCandidatesImpl_marks env outcomes db approvedBy
    (List.cons_ne_nil id [])
  rw [deleteSpecificCandidatesImpl_snd env outcomes approvedBy hids
    (List.cons_ne_nil id [])] at hcount
  rw [hsingle] at hmarks hcount
  obtain ⟨c', hc', hid', hgone⟩ := mediaGone_of_runHandlers _ hids hcount
  obtain rfl := List.inj_on_of_nodup_map hids hc' hc (hid'.trans hid.symm)
  exact hgone.shrinks hmarks.shrinks

end Calls

end MediaMasterr.Deletion
