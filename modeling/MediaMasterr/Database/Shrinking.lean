import MediaMasterr.Database.Frames

/-! # What deletions take away

A deletion removes rows and marks media as removed: whatever it leaves in the
library was there before. So media that are gone stay gone. -/

namespace MediaMasterr.Database.Tables

/-! ## Gone media -/

/-- The media of a target are no longer in the library: their row is deleted, or marked as
removed. -/
def MediaGone (db : Tables) (target : MediaTarget) : Prop :=
  match target.mediaType with
  | .movie =>
    match target.movieVersionId with
    | some versionId => versionId ∉ db.movieVersions.map MovieVersion.id
    | none => ∀ id ∈ target.movieId, ¬db.MovieInLibrary id
  | .series =>
    match target.episodeId, target.seasonId with
    | some episodeId, _ => episodeId ∉ db.episodes.map Episode.id
    | none, some seasonId => seasonId ∉ db.seasons.map Season.id
    | none, none => ∀ id ∈ target.seriesId, ¬db.SeriesInLibrary id

section Scopes

variable {db : Tables} {target : MediaTarget} {id : Nat}

theorem mediaGone_version (hmedia : target.mediaType = .movie)
    (hversion : target.movieVersionId = some id) :
    db.MediaGone target ↔ id ∉ db.movieVersions.map MovieVersion.id := by
  simp only [MediaGone, hmedia, hversion]

theorem mediaGone_movie (hmedia : target.mediaType = .movie)
    (hversion : target.movieVersionId = none)
    (hmovie : target.movieId = some id) : db.MediaGone target ↔ ¬db.MovieInLibrary id := by
  simp [MediaGone, hmedia, hversion, hmovie]

theorem mediaGone_series (hmedia : target.mediaType = .series) (hepisode : target.episodeId = none)
    (hseason : target.seasonId = none) (hseries : target.seriesId = some id) :
    db.MediaGone target ↔ ¬db.SeriesInLibrary id := by
  simp [MediaGone, hmedia, hepisode, hseason, hseries]

theorem mediaGone_season (hmedia : target.mediaType = .series) (hepisode : target.episodeId = none)
    (hseason : target.seasonId = some id) : db.MediaGone target ↔
      id ∉ db.seasons.map Season.id := by
  simp only [MediaGone, hmedia, hepisode, hseason]

theorem mediaGone_episode (hmedia : target.mediaType = .series)
    (hepisode : target.episodeId = some id) :
    db.MediaGone target ↔ id ∉ db.episodes.map Episode.id := by
  simp only [MediaGone, hmedia, hepisode]

end Scopes

/-- What is left was there before. -/
structure Shrinks (db db' : Tables) : Prop where
  candidates : ∀ c' ∈ db'.candidates, ∃ c ∈ db.candidates, c.id = c'.id ∧ c.target = c'.target
  movies : ∀ id, db'.MovieInLibrary id → db.MovieInLibrary id
  movieVersions : db'.movieVersions.map MovieVersion.id ⊆ db.movieVersions.map MovieVersion.id
  series : ∀ id, db'.SeriesInLibrary id → db.SeriesInLibrary id
  seasons : db'.seasons.map Season.id ⊆ db.seasons.map Season.id
  episodes : db'.episodes.map Episode.id ⊆ db.episodes.map Episode.id

variable {db db' db'' : Tables} {now key : Nat}

theorem Shrinks.refl (db : Tables) : Shrinks db db :=
  ⟨fun c hc => ⟨c, hc, rfl, rfl⟩, fun _ h => h, List.Subset.refl _, fun _ h => h,
    List.Subset.refl _,
    List.Subset.refl _⟩

theorem Shrinks.trans (h : Shrinks db db') (h' : Shrinks db' db'') : Shrinks db db'' where
  candidates c hc := by
    obtain ⟨c', hc', hid', htarget'⟩ := h'.candidates c hc
    obtain ⟨c'', hc'', hid'', htarget''⟩ := h.candidates c' hc'
    exact ⟨c'', hc'', hid''.trans hid', htarget''.trans htarget'⟩
  movies id hid := h.movies id (h'.movies id hid)
  movieVersions := List.Subset.trans h'.movieVersions h.movieVersions
  series id hid := h.series id (h'.series id hid)
  seasons := List.Subset.trans h'.seasons h.seasons
  episodes := List.Subset.trans h'.episodes h.episodes

theorem MediaGone.shrinks {target : MediaTarget} (h : db.MediaGone target)
    (hshrinks : Shrinks db db') :
    db'.MediaGone target := by
  obtain ⟨mediaType, movieId, movieVersionId, seriesId, seasonId, episodeId⟩ := target
  cases mediaType with
  | movie =>
    cases movieVersionId with
    | some versionId => exact fun hmem => h (hshrinks.movieVersions hmem)
    | none => exact fun id hid hlib => h id hid (hshrinks.movies id hlib)
  | series =>
    cases episodeId with
    | some episodeId => exact fun hmem => h (hshrinks.episodes hmem)
    | none =>
      cases seasonId with
      | some seasonId => exact fun hmem => h (hshrinks.seasons hmem)
      | none => exact fun id hid hlib => h id hid (hshrinks.series id hlib)

/-! ## Statements -/

/-- A change of the candidates, the requests, the protections and the history only. -/
theorem shrinks_of_rows (hcandidates : ∀ c' ∈ db'.candidates, ∃ c ∈ db.candidates,
      c.id = c'.id ∧ c.target = c'.target) (hmovies : db'.movies = db.movies)
    (hversions : db'.movieVersions = db.movieVersions) (hseries : db'.series = db.series)
    (hseasons : db'.seasons = db.seasons) (hepisodes : db'.episodes = db.episodes) :
      Shrinks db db' where
  candidates := hcandidates
  movies id h := by simpa only [MovieInLibrary, findMovie, hmovies] using h
  movieVersions := by rw [hversions]; exact List.Subset.refl _
  series id h := by simpa only [SeriesInLibrary, findSeries, hseries] using h
  seasons := by rw [hseasons]; exact List.Subset.refl _
  episodes := by rw [hepisodes]; exact List.Subset.refl _

theorem Marks.shrinks (h : Marks db db') : Shrinks db db' := by
  obtain ⟨f, _, hf, rfl⟩ := h
  refine shrinks_of_rows (fun c' hc' => ?_) rfl rfl rfl rfl rfl
  obtain ⟨c, hc, rfl⟩ := List.mem_map.mp hc'
  exact ⟨c, hc, (hf c).1.symm, (hf c).2.symm⟩

theorem shrinks_filter_candidates (p : ReclaimCandidate → Bool) :
    Shrinks db { db with candidates := db.candidates.filter p } :=
  shrinks_of_rows (fun c hc => ⟨c, List.mem_of_mem_filter hc, rfl, rfl⟩) rfl rfl rfl rfl rfl

theorem shrinks_deleteCandidate : Shrinks db (db.deleteCandidate key) := shrinks_filter_candidates _

theorem shrinks_removeMovie : Shrinks db (db.removeMovie now key) :=
  { Shrinks.refl db with movies := fun _ h => (movieInLibrary_removeMovie.mp h).1 }

theorem shrinks_shrinkMovie {size : Nat} : Shrinks db (db.shrinkMovie key size) :=
  { Shrinks.refl db with movies := fun _ h => movieInLibrary_shrinkMovie.mp h }

theorem shrinks_softRemoveMovieIfEmpty : Shrinks db (db.softRemoveMovieIfEmpty now key) := by
  rcases softRemoveMovieIfEmpty_eq db now key with h | h <;> rw [h]
  · exact .refl db
  · exact shrinks_removeMovie

theorem shrinks_filter_movieVersions (p : MovieVersion → Bool) :
    Shrinks db { db with movieVersions := db.movieVersions.filter p } :=
  { Shrinks.refl db with movieVersions := (List.filter_sublist.map _).subset }

theorem shrinks_removeSeries : Shrinks db (db.removeSeries now key) :=
  { Shrinks.refl db with series := fun _ h => (seriesInLibrary_removeSeries.mp h).1 }

theorem shrinks_softRemoveSeriesIfEmpty : Shrinks db (db.softRemoveSeriesIfEmpty now key) := by
  unfold softRemoveSeriesIfEmpty
  split_ifs
  · exact .refl db
  · exact shrinks_removeSeries

/-- New sizes of series change neither their keys nor whether they are removed. -/
theorem shrinks_map_series {f : Series → Series}
    (hf : ∀ s, (f s).id = s.id ∧ (f s).removedAt = s.removedAt) :
    Shrinks db { db with series := db.series.map f } := by
  refine { Shrinks.refl db with series := fun id h => ?_ }
  obtain ⟨s, hs, hremoved⟩ := h
  have hfind := find?_map_key Series.id (fun s => (hf s).1) db.series id
  rw [findSeries, hfind] at hs
  obtain ⟨row, hrow, rfl⟩ := Option.map_eq_some_iff.mp hs
  exact ⟨row, hrow, (hf row).2.symm.trans hremoved⟩

theorem shrinks_map_seasons {f : Season → Season} (hf : ∀ s, (f s).id = s.id) :
    Shrinks db { db with seasons := db.seasons.map f } := by
  refine { Shrinks.refl db with seasons := ?_ }
  have hids : (db.seasons.map f).map Season.id = db.seasons.map Season.id := by
    rw [List.map_map]
    exact List.map_congr_left fun s _ => hf s
  rw [hids]
  exact List.Subset.refl _

theorem shrinks_deleteSeasonRow {seriesId : Nat} :
    Shrinks db (db.deleteSeasonRow now seriesId key) := by
  refine Shrinks.trans ?_ shrinks_softRemoveSeriesIfEmpty
  exact {
    candidates := fun c hc => ⟨c, List.mem_of_mem_filter hc, rfl, rfl⟩
    movies := fun _ h => h
    movieVersions := List.Subset.refl _
    series := fun _ h => h
    seasons := (List.filter_sublist.map _).subset
    episodes := List.Subset.refl _ }

theorem Shrinks.ite_deleteSeasonRow {p : Prop} [Decidable p] {seriesId : Nat} (h : Shrinks db db') :
    Shrinks db (if p then db'.deleteSeasonRow now seriesId key else db') := by
  split_ifs
  · exact h.trans shrinks_deleteSeasonRow
  · exact h

theorem shrinks_deleteEpisodeRow : Shrinks db (db.deleteEpisodeRow key) where
  candidates c hc := ⟨c, hc, rfl, rfl⟩
  movies _ h := h
  movieVersions := List.Subset.refl _
  series _ h := h
  seasons := List.Subset.refl _
  episodes := (List.filter_sublist.map _).subset

end MediaMasterr.Database.Tables
