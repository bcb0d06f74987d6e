import MediaMasterr.Sync.Library

/-! # What a sync soft-deletes

The soft delete looks at TMDB ids only. A row that an item was located to by
another id is soft-deleted in the same run, with its protections, exactly when
its own TMDB id is not among the incoming ones. -/

namespace MediaMasterr.Sync

open MediaMasterr.Foundations MediaMasterr.Database

/-- The movie is there and not removed, and no protection of it was deleted. -/
structure MovieKept (db db' : Tables) (id : Nat) : Prop where
  inLibrary : db'.MovieInLibrary id
  protectedMedia : ∀ p ∈ db.protectedMedia, p.movieId = some id → p ∈ db'.protectedMedia

/-- The series is there and not removed, and no protection of it was deleted. -/
structure SeriesKept (db db' : Tables) (id : Nat) : Prop where
  inLibrary : db'.SeriesInLibrary id
  protectedMedia : ∀ p ∈ db.protectedMedia, p.seriesId = some id →
    isSeriesScope p.seasonId p.episodeId → p ∈ db'.protectedMedia

/-- The truthy values of a unique column. -/
theorem nodup_truthyKeys {α : Type} {f : α → Nat} {rows : List α} (h : (rows.map f).Nodup) :
    (rows.filterMap fun a => (some (f a)).filter (· ≠ 0)).Nodup := by
  have hkeys : (rows.filterMap fun a => (some (f a)).filter (· ≠ 0)) =
      (rows.map f).filter (· ≠ 0) := by
    rw [← List.filterMap_eq_filter, List.filterMap_map]
    refine List.filterMap_congr fun a _ => ?_
    simp [Option.filter, Option.guard]
  rw [hkeys]
  exact h.filter _

/-! ## Movies -/

section Movies

variable {world : SyncWorld} {db db' : Tables} {rows : List Movie} {m : Movie} {id : Nat}
variable {item : AggregatedMovieData} {items : List AggregatedMovieData}

theorem updateMovieTmdbMetadata_keeps (tmdbId : Nat) :
    (updateMovieTmdbMetadata world tmdbId m).id = m.id ∧
      (updateMovieTmdbMetadata world tmdbId m).tmdbId = m.tmdbId ∧
      (updateMovieTmdbMetadata world tmdbId m).removedAt = m.removedAt := by
  unfold updateMovieTmdbMetadata
  cases world.tmdbIds .movie tmdbId <;> exact ⟨rfl, rfl, rfl⟩

theorem updateRow_keeps : (item.updateRow world m).id = m.id ∧
    (item.updateRow world m).tmdbId = m.tmdbId ∧ (item.updateRow world m).removedAt = none := by
  dsimp only [AggregatedMovieData.updateRow]
  split_ifs
  · exact updateMovieTmdbMetadata_keeps item.externalIds.tmdb
  · exact ⟨rfl, rfl, rfl⟩

theorem upsertMovieVersions_findMovie (db : Tables) (movieId : Nat)
    (versions : List MovieVersionData)
    (h : db.findMovie id = some m) :
    ∃ m', (upsertMovieVersions db movieId versions).findMovie id = some m' ∧
      m'.tmdbId = m.tmdbId ∧ m'.removedAt = m.removedAt := by
  have hfind : (upsertMovieVersions db movieId versions).findMovie id =
      (db.findMovie id).map fun m =>
        if m.id = movieId then { m with size := some (versions.map (·.size)).sum } else m :=
    Tables.find?_map_key Movie.id (fun m => by split_ifs <;> rfl) _ _
  rw [hfind, h]
  by_cases hid : m.id = movieId
  · exact ⟨_, congrArg some (if_pos hid), rfl, rfl⟩
  · exact ⟨_, congrArg some (if_neg hid), rfl, rfl⟩

/-- What one item does to a row: the row it is located to is restored, and no TMDB id changes. -/
theorem syncMovie_findMovie (h : db.findMovie id = some m) :
    ∃ m', (syncMovie world rows db item).findMovie id = some m' ∧ m'.tmdbId = m.tmdbId ∧
      (m.removedAt = none ∨ locateMovie rows item.externalIds = some id → m'.removedAt = none) := by
  unfold syncMovie
  cases hlocate : locateMovie rows item.externalIds with
  | some id' =>
    have hupdate : (Write.apply Movie.id db.movies (.update id' (item.updateRow world))).find?
        (·.id == id) = some (if m.id = id' then item.updateRow world m else m) := by
      rw [Write.apply,
        Tables.find?_map_key Movie.id (fun m => by split_ifs <;> simp [updateRow_keeps]) _ _]
      exact congrArg _ h
    obtain ⟨m', hfind, htmdb, hremoved⟩ := upsertMovieVersions_findMovie
      { db with movies := Write.apply Movie.id db.movies (.update id' (item.updateRow world)) }
      id' item.versions hupdate
    refine ⟨m', hfind, htmdb.trans ?_, fun hor => hremoved.trans ?_⟩
    · split_ifs
      · exact updateRow_keeps.2.1
      · rfl
    · split_ifs with hid
      · exact updateRow_keeps.2.2
      · refine hor.resolve_right fun hsame => hid ?_
        exact (Tables.findMovie_id h).trans (Option.some.inj hsame).symm
  | none =>
    refine ⟨m, ?_, rfl, by simp⟩
    have h' : db.movies.find? (·.id == id) = some m := h
    dsimp only [Tables.findMovie, Write.apply]
    rw [List.find?_append, h', Option.some_or]

theorem syncMovie_protectedMedia : (syncMovie world rows db item).protectedMedia =
    db.protectedMedia := by
  unfold syncMovie
  cases locateMovie rows item.externalIds <;> rfl

/-- After the loop, the row of an item is in the library with the TMDB id that it had. -/
theorem foldl_syncMovie_findMovie (world : SyncWorld) (hitem : item ∈ items)
    (h : db.findMovie id = some m)
    (hlocate : locateMovie rows item.externalIds = some id) :
    ∃ m', (items.foldl (syncMovie world rows) db).findMovie id = some m' ∧
      m'.tmdbId = m.tmdbId ∧ m'.removedAt = none := by
  refine Loops.foldl_establishes
    (I := fun db' : Tables => ∃ m', db'.findMovie id = some m' ∧ m'.tmdbId = m.tmdbId)
    (P := fun db' : Tables => ∃ m', db'.findMovie id = some m' ∧ m'.tmdbId = m.tmdbId ∧
      m'.removedAt = none) hitem ?_ ?_ ?_ ⟨m, h, rfl⟩
  · rintro item - db' ⟨m', hfind, htmdb⟩
    obtain ⟨m'', hfind', htmdb', -⟩ := syncMovie_findMovie hfind
    exact ⟨m'', hfind', htmdb'.trans htmdb⟩
  · rintro db' ⟨m', hfind, htmdb⟩
    obtain ⟨m'', hfind', htmdb', hremoved⟩ := syncMovie_findMovie hfind
    exact ⟨m'', hfind', htmdb'.trans htmdb, hremoved (.inr hlocate)⟩
  · rintro item - db' - ⟨m', hfind, htmdb, hnone⟩
    obtain ⟨m'', hfind', htmdb', hremoved⟩ := syncMovie_findMovie hfind
    exact ⟨m'', hfind', htmdb'.trans htmdb, hremoved (.inl hnone)⟩

theorem foldl_syncMovie_protectedMedia :
    (items.foldl (syncMovie world rows) db).protectedMedia = db.protectedMedia := by
  refine Loops.foldl_invariant
    (P := fun db' : Tables => db'.protectedMedia = db.protectedMedia) ?_ rfl
  exact fun item _ db' h => syncMovie_protectedMedia.trans h

/-- The primary and the unique key of movies. -/
structure MovieKeys (rows : List Movie) : Prop where
  ids : (rows.map Movie.id).Nodup
  tmdbIds : (rows.map Movie.tmdbId).Nodup

theorem mem_existingMovies_values_iff (h : MovieKeys rows) (hm : m ∈ rows) :
    m.id ∈ (existingMovies rows).values ↔ m.tmdbId ≠ 0 := by
  rw [Dict.mem_values_iff]
  constructor
  · rintro ⟨tmdbId, hget⟩
    obtain ⟨m', hm', hkey, hid⟩ := Dict.of_get?_build hget
    obtain rfl : m' = m := List.inj_on_of_nodup_map h.ids hm' hm hid
    simp only [Option.filter_eq_some_iff, Option.some.injEq, decide_eq_true_eq] at hkey
    exact hkey.1 ▸ hkey.2
  · intro htmdb
    exact ⟨m.tmdbId, Dict.get?_build_of_mem (nodup_truthyKeys h.tmdbIds) hm (by simp [htmdb])⟩

/-- The soft delete takes a row that an item was located to when no item has its TMDB id. -/
theorem movieKept_iff (hkeys : MovieKeys db.movies) (hm : m ∈ db.movies) (hitem : item ∈ items)
    (hlocate : locateMovie db.movies item.externalIds = some m.id) :
    MovieKept db (syncMovies world db items true) m.id ↔
      m.tmdbId = 0 ∨ m.tmdbId ∈ items.map (·.externalIds.tmdb) := by
  have hempty : items ≠ [] := List.ne_nil_of_mem hitem
  obtain ⟨m', hfind, htmdb, hremoved⟩ := foldl_syncMovie_findMovie world hitem
    (Tables.find?_key_of_mem hkeys.ids hm) hlocate
  set synced := items.foldl (syncMovie world db.movies) db with hsynced
  set ids := moviesToDelete synced db.movies (items.map (·.externalIds.tmdb)) with hids
  have hmem : m.id ∈ ids ↔ m.tmdbId ≠ 0 ∧ m.tmdbId ∉ items.map (·.externalIds.tmdb) := by
    rw [hids, moviesToDelete, List.mem_filter, mem_existingMovies_values_iff hkeys hm, hfind]
    simp [htmdb, hremoved]
  have hrun : syncMovies world db items true = softDeleteMovies world synced ids := by
    rw [syncMovies, if_neg hempty, if_pos rfl]
  have hafter : (softDeleteMovies world synced ids).findMovie m.id =
      some (if m'.id ∈ ids then { m' with removedAt := some world.now, addedAt :=
        none } else m') := by
    dsimp only [Tables.findMovie, softDeleteMovies]
    rw [Tables.find?_map_key Movie.id (fun m => by split_ifs <;> rfl) _ _]
    exact congrArg _ hfind
  rw [hrun, ← not_iff_not, not_or, ← ne_eq, ← hmem]
  rw [Tables.findMovie_id hfind] at hafter
  constructor
  · intro hnot
    by_contra hout
    refine hnot ⟨⟨m', ?_, hremoved⟩, fun p hp hmovie => List.mem_filter.mpr ⟨?_, ?_⟩⟩
    · rw [hafter, if_neg hout]
    · rw [hsynced, foldl_syncMovie_protectedMedia]
      exact hp
    · simpa [namesOneOf, hmovie] using hout
  · intro hin hkept
    obtain ⟨m'', hfind', hnone⟩ := hkept.inLibrary
    rw [hafter, if_pos hin, Option.some.injEq] at hfind'
    rw [← hfind'] at hnone
    cases hnone

end Movies

/-! ## What a season sync keeps -/

/-- The series rows are the same, and the protections of whole series are kept. -/
structure KeepsSeries (db db' : Tables) : Prop where
  series : db'.series = db.series
  protectedMedia : ∀ p ∈ db.protectedMedia, isSeriesScope p.seasonId p.episodeId →
    p ∈ db'.protectedMedia

section Seasons

variable {db db' db'' : Tables} {seriesId : Nat} {service : Service}
variable {seasonData : List AggregatedSeasonData}

theorem KeepsSeries.refl (db : Tables) : KeepsSeries db db := ⟨rfl, fun _ h _ => h⟩

theorem KeepsSeries.trans (h : KeepsSeries db db') (h' : KeepsSeries db' db'') :
    KeepsSeries db db'' :=
  ⟨h'.series.trans h.series, fun p hp hscope =>
    h'.protectedMedia p (h.protectedMedia p hp hscope) hscope⟩

theorem keepsSeries_foldl {τ : Type} {step : Tables → τ → Tables}
    (h : ∀ db t, KeepsSeries db (step db t)) (ts : List τ) (db : Tables) :
    KeepsSeries db (ts.foldl step db) :=
  Loops.foldl_invariant (P := KeepsSeries db) (fun t _ _ hdb => hdb.trans (h _ t))
    (KeepsSeries.refl db)

theorem not_namesOneOf_of_isSeriesScope {ids : List Nat} {p : ProtectedMedia}
    (h : isSeriesScope p.seasonId p.episodeId) : namesOneOf ids p.seasonId = false := by
  simp only [isSeriesScope, Bool.and_eq_true, Option.isNone_iff_eq_none] at h
  simp [namesOneOf, h.1]

theorem keepsSeries_pruneEpisode (db : Tables) (id : Nat) :
    KeepsSeries db (pruneEpisode db id) := by
  refine ⟨rfl, fun p hp hscope => List.mem_filter.mpr ⟨hp, ?_⟩⟩
  simp only [isSeriesScope, Bool.and_eq_true, Option.isNone_iff_eq_none] at hscope
  simp [hscope.2]

theorem keepsSeries_upsertEpisodes (db : Tables) (seasonId : Nat)
    (episodeData : List AggregatedEpisodeData) (service : Service) (removeStale : Bool) :
    KeepsSeries db (upsertEpisodes db seasonId episodeData service removeStale) := by
  have hrows : KeepsSeries db
      { db with episodes := (upsertedEpisodes db seasonId episodeData service).rows } :=
    ⟨rfl, fun _ h _ => h⟩
  cases removeStale with
  | false => exact hrows
  | true => exact hrows.trans (keepsSeries_foldl keepsSeries_pruneEpisode _ _)

theorem keepsSeries_upsertSeasonEpisodes (existing : Dict Nat Season) (seriesId : Nat)
    (removeStale : Bool) (db : Tables) (service : Service) (sd : AggregatedSeasonData) :
    KeepsSeries db (upsertSeasonEpisodes existing seriesId removeStale db service sd) := by
  unfold upsertSeasonEpisodes
  split_ifs
  · exact KeepsSeries.refl db
  · cases seasonIdFor existing db.seasons seriesId sd.seasonNumber with
    | none => exact KeepsSeries.refl db
    | some seasonId => exact keepsSeries_upsertEpisodes db seasonId _ service removeStale

theorem keepsSeries_syncSeasons (h : syncSeasons db seriesId service seasonData = some db') :
    KeepsSeries db db' := by
  obtain ⟨db₁, hrows, rfl⟩ := Option.map_eq_some_iff.mp h
  have hfirst : KeepsSeries db db₁ := by
    by_cases hempty : seasonData = []
    · subst hempty
      obtain rfl : db = db₁ := Option.some.inj hrows
      exact KeepsSeries.refl db
    · obtain ⟨-, rfl⟩ := syncSeasonRows_eq_some hempty hrows
      refine ⟨rfl, fun p hp hscope => List.mem_filter.mpr ⟨hp, ?_⟩⟩
      simp [not_namesOneOf_of_isSeriesScope hscope]
  exact hfirst.trans (keepsSeries_foldl
    (fun db sd => keepsSeries_upsertSeasonEpisodes _ seriesId true db service sd) _ _)

theorem keepsSeries_supplementalSeries (db : Tables) (maps : SeriesMaps)
    (supplemental : List (Nat × List (Service × List AggregatedSeasonData))) :
    KeepsSeries db (supplementalSeries db maps supplemental) := by
  refine keepsSeries_foldl (fun db entry => ?_) supplemental db
  cases maps.existing.get? entry.1 with
  | none => exact KeepsSeries.refl db
  | some id =>
    refine keepsSeries_foldl (fun db entry => ?_) _ _
    exact keepsSeries_foldl (fun db sd =>
      keepsSeries_upsertSeasonEpisodes ∅ id false db entry.1 sd) _ _

theorem keepsSeries_upsertSeriesServiceRef (db : Tables) (seriesId : Nat)
    (item : AggregatedSeriesData) : KeepsSeries db (upsertSeriesServiceRef db seriesId item) :=
  ⟨rfl, fun _ h _ => h⟩

end Seasons

/-! ## Series -/

/-- The rows that the items are located to, in order; `next` is the id of the next new row. -/
def seriesLocations (world : SyncWorld) : SeriesMaps → Nat → List AggregatedSeriesData → List Nat
  | _, _, [] => []
  | maps, next, item :: items =>
    match maps.locate item.externalIds with
    | some id => id :: seriesLocations world maps next items
    | none => seriesLocations world (maps.register item.externalIds.tmdb (item.newRow world next))
        (next + 1) items

section Series

variable {world : SyncWorld} {db db' : Tables} {s : Series} {id : Nat} {parsed : List Nat}
variable {state state' : SeriesSync} {item : AggregatedSeriesData}
variable {items : List AggregatedSeriesData}

theorem updateSeriesTmdbMetadata_keeps (tmdbId : Nat) :
    (updateSeriesTmdbMetadata world tmdbId s).id = s.id ∧
      (updateSeriesTmdbMetadata world tmdbId s).tmdbId = s.tmdbId ∧
      (updateSeriesTmdbMetadata world tmdbId s).removedAt = s.removedAt := by
  unfold updateSeriesTmdbMetadata
  cases world.tmdbIds .series tmdbId <;> exact ⟨rfl, rfl, rfl⟩

theorem updateSeries_keeps : (item.updateRow world s).id = s.id ∧
    (item.updateRow world s).tmdbId = s.tmdbId ∧ (item.updateRow world s).removedAt = none := by
  dsimp only [AggregatedSeriesData.updateRow]
  split_ifs
  · exact updateSeriesTmdbMetadata_keeps item.externalIds.tmdb
  · exact ⟨rfl, rfl, rfl⟩

theorem newSeries_keeps : (item.newRow world id).id = id ∧
    (item.newRow world id).tmdbId = item.externalIds.tmdb ∧
    (item.newRow world id).removedAt = none :=
  updateSeriesTmdbMetadata_keeps item.externalIds.tmdb

/-- What one item does: it updates the row that it is located to, or inserts and registers one. -/
theorem syncOneSeries_cases (h : syncOneSeries world state item = some state') :
    (∀ p ∈ state.db.protectedMedia, isSeriesScope p.seasonId p.episodeId →
      p ∈ state'.db.protectedMedia) ∧
    ((∃ id, state.maps.locate item.externalIds = some id ∧ state'.maps = state.maps ∧
        state'.db.series = Write.apply Series.id state.db.series
          (.update id (item.updateRow world))) ∨
      (state.maps.locate item.externalIds = none ∧
        state'.maps = state.maps.register item.externalIds.tmdb
          (item.newRow world (Write.nextId Series.id state.db.series)) ∧
        state'.db.series =
          Write.apply Series.id state.db.series (.insert (item.newRow world)))) := by
  unfold syncOneSeries at h
  cases hlocate : state.maps.locate item.externalIds with
  | some id =>
    rw [hlocate] at h
    obtain ⟨db', hseasons, rfl⟩ := Option.map_eq_some_iff.mp h
    have hkeeps := (keepsSeries_upsertSeriesServiceRef _ id item).trans
      (keepsSeries_syncSeasons hseasons)
    exact ⟨hkeeps.protectedMedia, .inl ⟨id, rfl, rfl, hkeeps.series⟩⟩
  | none =>
    rw [hlocate] at h
    obtain ⟨db', hseasons, rfl⟩ := Option.map_eq_some_iff.mp h
    have hkeeps := (keepsSeries_upsertSeriesServiceRef _ _ item).trans
      (keepsSeries_syncSeasons hseasons)
    exact ⟨hkeeps.protectedMedia, .inr ⟨rfl, rfl, hkeeps.series⟩⟩

/-- What a row and its registration keep. -/
structure Advances (state state' : SeriesSync) : Prop where
  row : ∀ id s, state.db.findSeries id = some s → ∃ s', state'.db.findSeries id = some s' ∧
    s'.tmdbId = s.tmdbId ∧ (s.removedAt = none → s'.removedAt = none)
  existing : ∀ key id, state.maps.existing.get? key = some id →
    state'.maps.existing.get? key = some id
  protectedMedia : ∀ p ∈ state.db.protectedMedia, isSeriesScope p.seasonId p.episodeId →
    p ∈ state'.db.protectedMedia

theorem Advances.refl (state : SeriesSync) : Advances state state :=
  ⟨fun _ s h => ⟨s, h, rfl, fun h => h⟩, fun _ _ h => h, fun _ h _ => h⟩

theorem Advances.trans {state'' : SeriesSync} (h : Advances state state')
    (h' : Advances state' state'') : Advances state state'' := by
  refine ⟨fun id s hfind => ?_, fun key id hget => h'.existing key id (h.existing key id hget),
    fun p hp hscope => h'.protectedMedia p (h.protectedMedia p hp hscope) hscope⟩
  obtain ⟨s', hfind', htmdb, hremoved⟩ := h.row id s hfind
  obtain ⟨s'', hfind'', htmdb', hremoved'⟩ := h'.row id s' hfind'
  exact ⟨s'', hfind'', htmdb'.trans htmdb, fun hnone => hremoved' (hremoved hnone)⟩

/-- The row of an id, which the map of TMDB ids leads to unless its TMDB id is 0. -/
def Known (state : SeriesSync) (id : Nat) : Prop :=
  ∃ s, state.db.findSeries id = some s ∧
    (s.tmdbId = 0 ∨ state.maps.existing.get? s.tmdbId = some id)

theorem Known.advance (h : Known state id) (hadvances : Advances state state') :
    Known state' id := by
  obtain ⟨s, hfind, hkey⟩ := h
  obtain ⟨s', hfind', htmdb, -⟩ := hadvances.row id s hfind
  exact ⟨s', hfind', htmdb ▸ hkey.imp_right (hadvances.existing _ id)⟩

/-- What holds between two items: every map leads to known rows, and a row has the TMDB id of a
stored row or of an item. -/
structure Tracked (db : Tables) (parsed : List Nat) (state : SeriesSync) : Prop where
  keyed : ∀ key id, state.maps.existing.get? key = some id →
    (∃ s, state.db.findSeries id = some s ∧ s.tmdbId = key) ∧ (key ≠ 0 ∨ key ∈ parsed)
  byTvdb : ∀ key id, state.maps.byTvdb.get? key = some id → Known state id
  byImdb : ∀ key id, state.maps.byImdb.get? key = some id → Known state id
  origin : ∀ id s, state.db.findSeries id = some s →
    (∃ s₀, db.findSeries id = some s₀ ∧ s₀.tmdbId = s.tmdbId) ∨ s.tmdbId ∈ parsed

theorem Tracked.known_of_keyed (h : Tracked db parsed state) {key : Nat}
    (hget : state.maps.existing.get? key = some id) : Known state id := by
  obtain ⟨⟨s, hfind, rfl⟩, -⟩ := h.keyed _ _ hget
  exact ⟨s, hfind, .inr hget⟩

theorem Tracked.known_of_locate (h : Tracked db parsed state) {ids : ExternalIDs}
    (hlocate : state.maps.locate ids = some id) : Known state id := by
  unfold SeriesMaps.locate at hlocate
  rw [Option.or_eq_some_iff, Option.or_eq_some_iff] at hlocate
  rcases hlocate with (hget | ⟨-, hget⟩) | ⟨-, hget⟩
  · exact h.known_of_keyed hget
  · obtain ⟨key, -, hget⟩ := Option.bind_eq_some_iff.mp hget
    exact h.byTvdb key id hget
  · obtain ⟨key, -, hget⟩ := Option.bind_eq_some_iff.mp hget
    exact h.byImdb key id hget

theorem find?_update {rows : List Series} (id' : Nat) :
    (Write.apply Series.id rows (.update id' (item.updateRow world))).find? (·.id == id) =
      (rows.find? (·.id == id)).map fun s => if s.id = id' then item.updateRow world s else s :=
  Tables.find?_map_key Series.id (fun s => by split_ifs <;> simp [updateSeries_keeps]) _ _

theorem find?_insert {rows : List Series} :
    (Write.apply Series.id rows (.insert (item.newRow world))).find? (·.id == id) =
      (rows.find? (·.id == id)).or
        (if Write.nextId Series.id rows = id then some (item.newRow world id) else none) := by
  rw [Write.apply, List.find?_append, List.find?_singleton, newSeries_keeps.1, beq_eq_decide]
  by_cases hid : Write.nextId Series.id rows = id
  · simp [hid]
  · simp [hid]

theorem find?_nextId (rows : List Series) :
    rows.find? (·.id == Write.nextId Series.id rows) = none := by
  rw [List.find?_eq_none]
  intro s hs hid
  have hlt : s.id < Write.nextId Series.id rows := Write.lt_nextId hs
  simp only [beq_iff_eq] at hid
  omega

/-- Restoring a row keeps what is tracked. -/
theorem Tracked.update (h : Tracked db parsed state) {id' : Nat}
    (hprotected : ∀ p ∈ state.db.protectedMedia, isSeriesScope p.seasonId p.episodeId →
      p ∈ state'.db.protectedMedia)
    (hmaps : state'.maps = state.maps)
    (hseries : state'.db.series =
      Write.apply Series.id state.db.series (.update id' (item.updateRow world))) :
    Tracked db parsed state' ∧ Advances state state' := by
  have hfind : ∀ id, state'.db.findSeries id = (state.db.findSeries id).map fun s =>
      if s.id = id' then item.updateRow world s else s := by
    intro id
    rw [Tables.findSeries, hseries, find?_update]
    rfl
  have htmdb : ∀ s : Series,
      (if s.id = id' then item.updateRow world s else s).tmdbId = s.tmdbId := by
    intro s
    split_ifs
    · exact updateSeries_keeps.2.1
    · rfl
  have hadvances : Advances state state' := by
    refine ⟨fun id s hs => ⟨_, by rw [hfind, hs]; rfl, htmdb s, fun hnone => ?_⟩,
      fun _ _ hget => hmaps ▸ hget, hprotected⟩
    by_cases hid : s.id = id'
    · exact (congrArg Series.removedAt (if_pos hid)).trans updateSeries_keeps.2.2
    · exact (congrArg Series.removedAt (if_neg hid)).trans hnone
  refine ⟨⟨?_, ?_, ?_, ?_⟩, hadvances⟩
  · intro key id hget
    rw [hmaps] at hget
    obtain ⟨⟨s, hs, hown⟩, hkey⟩ := h.keyed key id hget
    obtain ⟨s', hs', hsame, -⟩ := hadvances.row id s hs
    exact ⟨⟨s', hs', hsame.trans hown⟩, hkey⟩
  · intro key id hget
    rw [hmaps] at hget
    exact (h.byTvdb key id hget).advance hadvances
  · intro key id hget
    rw [hmaps] at hget
    exact (h.byImdb key id hget).advance hadvances
  · intro id s' hs'
    rw [hfind, Option.map_eq_some_iff] at hs'
    obtain ⟨s, hs, rfl⟩ := hs'
    rw [htmdb]
    exact h.origin id s hs

theorem get?_setKey {d : Dict String Nat} {key : Option String} {id' : Nat} {k : String}
    (h : (setKey d key id').get? k = some id) : id = id' ∨ d.get? k = some id := by
  unfold setKey at h
  cases hkey : key.filter (· ≠ "") with
  | none =>
    rw [hkey] at h
    exact .inr h
  | some k' =>
    rw [hkey, Dict.get?_set] at h
    split_ifs at h
    · exact .inl (Option.some.inj h).symm
    · exact .inr h

/-- Inserting and registering a row keeps what is tracked. -/
theorem Tracked.insert (h : Tracked db parsed state) (hitem : item.externalIds.tmdb ∈ parsed)
    (hlocate : state.maps.locate item.externalIds = none)
    (hprotected : ∀ p ∈ state.db.protectedMedia, isSeriesScope p.seasonId p.episodeId →
      p ∈ state'.db.protectedMedia)
    (hmaps : state'.maps = state.maps.register item.externalIds.tmdb
      (item.newRow world (Write.nextId Series.id state.db.series)))
    (hseries : state'.db.series =
      Write.apply Series.id state.db.series (.insert (item.newRow world))) :
    Tracked db parsed state' ∧ Advances state state' := by
  set next := Write.nextId Series.id state.db.series with hnext
  have hfresh : state.db.findSeries next = none := find?_nextId state.db.series
  have hfind : ∀ id, state'.db.findSeries id = (state.db.findSeries id).or
      (if next = id then some (item.newRow world id) else none) := by
    intro id
    rw [Tables.findSeries, hseries, find?_insert]
    rfl
  have hnew : state'.db.findSeries next = some (item.newRow world next) := by
    rw [hfind, hfresh, Option.none_or, if_pos rfl]
  have hexisting : ∀ key, state'.maps.existing.get? key =
      if key = item.externalIds.tmdb then some next else state.maps.existing.get? key := by
    intro key
    rw [hmaps]
    dsimp only [SeriesMaps.register]
    rw [Dict.get?_set, newSeries_keeps.1]
  have hunknown : state.maps.existing.get? item.externalIds.tmdb = none := by
    unfold SeriesMaps.locate at hlocate
    rw [Option.or_eq_none_iff, Option.or_eq_none_iff] at hlocate
    exact hlocate.1.1
  have hadvances : Advances state state' := by
    refine ⟨fun id s hs => ⟨s, by rw [hfind, hs, Option.some_or], rfl, fun hnone => hnone⟩, ?_,
      hprotected⟩
    intro key id hget
    rw [hexisting, if_neg, hget]
    rintro rfl
    rw [hunknown] at hget
    cases hget
  have hknown : Known state' next :=
    ⟨_, hnew, .inr (by rw [hexisting, if_pos newSeries_keeps.2.1])⟩
  have hmap : ∀ {d : Dict String Nat} {key : Option String} {k : String} {id : Nat},
      (∀ k id, d.get? k = some id → Known state id) →
      (setKey d key (item.newRow world next).id).get? k = some id → Known state' id := by
    intro d key k id hd hget
    rcases get?_setKey hget with rfl | hget
    · exact newSeries_keeps.1 ▸ hknown
    · exact (hd k id hget).advance hadvances
  refine ⟨⟨?_, ?_, ?_, ?_⟩, hadvances⟩
  · intro key id hget
    rw [hexisting] at hget
    split_ifs at hget with hkey
    · obtain rfl := Option.some.inj hget
      exact ⟨⟨_, hnew, newSeries_keeps.2.1.trans hkey.symm⟩, .inr (hkey ▸ hitem)⟩
    · obtain ⟨⟨s, hs, htmdb⟩, hkey⟩ := h.keyed key id hget
      obtain ⟨s', hs', htmdb', -⟩ := hadvances.row id s hs
      exact ⟨⟨s', hs', htmdb'.trans htmdb⟩, hkey⟩
  · intro key id hget
    rw [hmaps] at hget
    exact hmap h.byTvdb hget
  · intro key id hget
    rw [hmaps] at hget
    exact hmap h.byImdb hget
  · intro id s hs
    rw [hfind, Option.or_eq_some_iff] at hs
    rcases hs with hs | ⟨-, hs⟩
    · exact h.origin id s hs
    · rw [Option.ite_none_right_eq_some, Option.some.injEq] at hs
      obtain ⟨-, rfl⟩ := hs
      exact .inr (newSeries_keeps.2.1 ▸ hitem)

/-- The row of an id is restored and known. -/
def Seen (state : SeriesSync) (id : Nat) : Prop :=
  Known state id ∧ ∃ s, state.db.findSeries id = some s ∧ s.removedAt = none

theorem Seen.advance (h : Seen state id) (hadvances : Advances state state') : Seen state' id := by
  obtain ⟨hknown, s, hfind, hnone⟩ := h
  obtain ⟨s', hfind', -, hremoved⟩ := hadvances.row id s hfind
  exact ⟨hknown.advance hadvances, s', hfind', hremoved hnone⟩

/-- After the loop, the rows that the items were located to are restored. -/
theorem run_spec (htracked : Tracked db parsed state)
    (hparsed : ∀ item ∈ items, item.externalIds.tmdb ∈ parsed)
    (hrun : items.foldlM (syncOneSeries world) state = some state') :
    Tracked db parsed state' ∧ Advances state state' ∧
      ∀ id ∈ seriesLocations world state.maps (Write.nextId Series.id state.db.series) items,
        Seen state' id := by
  induction items generalizing state with
  | nil =>
    obtain rfl : state = state' := Option.some.inj hrun
    exact ⟨htracked, Advances.refl state, fun id hid => absurd hid List.not_mem_nil⟩
  | cons item items ih =>
    rw [List.foldlM_cons] at hrun
    obtain ⟨state₁, hstep, hrest⟩ := Option.bind_eq_some_iff.mp hrun
    have hrestParsed : ∀ item ∈ items, item.externalIds.tmdb ∈ parsed :=
      fun item hitem => hparsed item (List.mem_cons_of_mem _ hitem)
    obtain ⟨hprotected, ⟨id, hlocate, hmaps, hseries⟩ | ⟨hlocate, hmaps, hseries⟩⟩ :=
      syncOneSeries_cases hstep
    · obtain ⟨htracked₁, hadvances₁⟩ := htracked.update hprotected hmaps hseries
      obtain ⟨htracked', hadvances', hseen⟩ := ih htracked₁ hrestParsed hrest
      refine ⟨htracked', hadvances₁.trans hadvances', ?_⟩
      have hnext : Write.nextId Series.id state₁.db.series =
          Write.nextId Series.id state.db.series := by
        rw [Write.nextId, Write.nextId, hseries, Write.apply,
          Write.map_update_id fun _ => updateSeries_keeps.1]
      have hsame : Seen state₁ id := by
        obtain ⟨s, hfind, -⟩ := htracked.known_of_locate hlocate
        refine ⟨(htracked.known_of_locate hlocate).advance hadvances₁, item.updateRow world s, ?_,
          updateSeries_keeps.2.2⟩
        rw [Tables.findSeries, hseries, find?_update, ← Tables.findSeries, hfind, Option.map_some,
          if_pos (Tables.findSeries_id hfind)]
      rw [hmaps, hnext] at hseen
      simp only [seriesLocations, hlocate, List.forall_mem_cons]
      exact ⟨hsame.advance hadvances', hseen⟩
    · obtain ⟨htracked₁, hadvances₁⟩ :=
        htracked.insert (hparsed item List.mem_cons_self) hlocate hprotected hmaps hseries
      obtain ⟨htracked', hadvances', hseen⟩ := ih htracked₁ hrestParsed hrest
      refine ⟨htracked', hadvances₁.trans hadvances', ?_⟩
      have hnext : Write.nextId Series.id state₁.db.series =
          Write.nextId Series.id state.db.series + 1 := by
        rw [hseries, Write.apply, Write.nextId_append_singleton, newSeries_keeps.1]
        omega
      rw [hmaps, hnext] at hseen
      simpa only [seriesLocations, hlocate] using hseen

/-- The primary and the unique key of series. -/
structure SeriesKeys (rows : List Series) : Prop where
  ids : (rows.map Series.id).Nodup
  tmdbIds : (rows.map Series.tmdbId).Nodup

theorem known_seriesMaps (hkeys : SeriesKeys db.series) (hs : s ∈ db.series) :
    Known ⟨db, seriesMaps db.series⟩ s.id := by
  refine ⟨s, Tables.find?_key_of_mem hkeys.ids hs, ?_⟩
  by_cases htmdb : s.tmdbId = 0
  · exact .inl htmdb
  · exact .inr (Dict.get?_build_of_mem (nodup_truthyKeys hkeys.tmdbIds) hs (by simp [htmdb]))

theorem tracked_seriesMaps (parsed : List Nat) (hkeys : SeriesKeys db.series) :
    Tracked db parsed ⟨db, seriesMaps db.series⟩ := by
  refine ⟨?_, ?_, ?_, fun id s hs => .inl ⟨s, hs, rfl⟩⟩
  · intro key id hget
    obtain ⟨s, hs, hkey, rfl⟩ := Dict.of_get?_build hget
    simp only [Option.filter_eq_some_iff, Option.some.injEq, decide_eq_true_eq] at hkey
    exact ⟨⟨s, Tables.find?_key_of_mem hkeys.ids hs, hkey.1⟩, .inl hkey.2⟩
  · intro key id hget
    obtain ⟨s, hs, -, rfl⟩ := Dict.of_get?_build hget
    exact known_seriesMaps hkeys hs
  · intro key id hget
    obtain ⟨s, hs, -, rfl⟩ := Dict.of_get?_build hget
    exact known_seriesMaps hkeys hs

/-- The soft delete takes a row that is restored when no item has its TMDB id. -/
theorem mem_seriesToDelete_iff (htracked : Tracked db parsed state) (hseen : Seen state id)
    (hfind : state.db.findSeries id = some s) (hseries : db'.series = state.db.series) :
    id ∈ seriesToDelete db' state.maps parsed ↔ s.tmdbId ≠ 0 ∧ s.tmdbId ∉ parsed := by
  obtain ⟨⟨s₁, hfind₁, hkey⟩, s₂, hfind₂, hnone⟩ := hseen
  obtain rfl : s₁ = s := Option.some.inj (hfind₁.symm.trans hfind)
  obtain rfl : s₂ = s₁ := Option.some.inj (hfind₂.symm.trans hfind)
  have hfind' : db'.findSeries id = some s₂ := by rw [Tables.findSeries, hseries]; exact hfind
  rw [seriesToDelete, List.mem_filter, hfind', Dict.mem_values_iff]
  simp only [Option.any_some, hnone, and_true, decide_eq_true_eq]
  refine and_congr_left fun hparsed => ?_
  constructor
  · rintro ⟨key, hget⟩
    obtain ⟨⟨s', hfind', rfl⟩, hnonzero⟩ := htracked.keyed key id hget
    obtain rfl : s' = s₂ := Option.some.inj (hfind'.symm.trans hfind)
    exact hnonzero.resolve_right hparsed
  · exact fun hnonzero => ⟨_, hkey.resolve_left hnonzero⟩

end Series

/-! ## Both syncs -/

/-- No row that an item of `sync_movies` is located to is removed or loses a protection. -/
def KeepsSeenMovies (world : SyncWorld) (db : Tables) (items : List AggregatedMovieData) : Prop :=
  ∀ item ∈ items, ∀ m ∈ db.movies, locateMovie db.movies item.externalIds = some m.id →
    MovieKept db (syncMovies world db items true) m.id

/-- No row that an item of `sync_series` is located to is removed or loses a protection of the
series. -/
def KeepsSeenSeries (world : SyncWorld) (db db' : Tables) (items : List AggregatedSeriesData) :
    Prop :=
  ∀ id ∈ seriesLocations world (seriesMaps db.series) (Write.nextId Series.id db.series) items,
    SeriesKept db db' id

theorem keepsSeenMovies_iff {world : SyncWorld} {db : Tables} {items : List AggregatedMovieData}
    (hkeys : MovieKeys db.movies) : KeepsSeenMovies world db items ↔
      ∀ item ∈ items, ∀ m ∈ db.movies, locateMovie db.movies item.externalIds = some m.id →
        m.tmdbId = 0 ∨ m.tmdbId ∈ items.map (·.externalIds.tmdb) :=
  forall₂_congr fun _ hitem => forall₂_congr fun _ hm => forall_congr' fun hlocate =>
    movieKept_iff hkeys hm hitem hlocate

theorem keepsSeenSeries_iff {world : SyncWorld} {db db' : Tables}
    {items : List AggregatedSeriesData}
    {supplemental : List (Nat × List (Service × List AggregatedSeasonData))}
    (hkeys : SeriesKeys db.series) (hrun : syncSeries world db items supplemental true = some db') :
    KeepsSeenSeries world db db' items ↔ ∀ s ∈ db.series,
      s.id ∈ seriesLocations world (seriesMaps db.series) (Write.nextId Series.id db.series) items →
        s.tmdbId = 0 ∨ s.tmdbId ∈ items.map (·.externalIds.tmdb) := by
  by_cases hempty : items = []
  · simp [KeepsSeenSeries, hempty, seriesLocations]
  set parsed := items.map (·.externalIds.tmdb) with hparsed
  rw [syncSeries, if_neg hempty, Option.map_eq_some_iff] at hrun
  obtain ⟨state, hloop, rfl⟩ := hrun
  obtain ⟨htracked, hadvances, hseen⟩ := run_spec (tracked_seriesMaps parsed hkeys)
    (fun item hitem => List.mem_map_of_mem hitem) hloop
  have hkeeps := keepsSeries_supplementalSeries state.db state.maps supplemental
  set synced := supplementalSeries state.db state.maps supplemental with hsynced
  set ids := seriesToDelete synced state.maps parsed with hids
  rw [if_pos rfl]
  -- the soft delete decides about each row that was located
  have hkept : ∀ id s, Seen state id → state.db.findSeries id = some s →
      (SeriesKept db (softDeleteSeries world synced ids) id ↔
        s.tmdbId = 0 ∨ s.tmdbId ∈ parsed) := by
    intro id s hseen hfind
    have hmem := mem_seriesToDelete_iff htracked hseen hfind hkeeps.series
    have hafter : (softDeleteSeries world synced ids).findSeries id =
        some (if s.id ∈ ids then { s with removedAt := some world.now, addedAt :=
          none } else s) := by
      dsimp only [Tables.findSeries, softDeleteSeries]
      rw [Tables.find?_map_key Series.id (fun s => by split_ifs <;> rfl) _ _, hkeeps.series]
      exact congrArg _ hfind
    rw [Tables.findSeries_id hfind] at hafter
    rw [← not_iff_not, not_or, ← ne_eq, ← hmem]
    constructor
    · intro hnot
      by_contra hout
      obtain ⟨s', hfind', hnone⟩ := hseen.2
      obtain rfl : s' = s := Option.some.inj (hfind'.symm.trans hfind)
      refine hnot ⟨⟨s', ?_, hnone⟩, fun p hp hseries hscope => List.mem_filter.mpr ⟨?_, ?_⟩⟩
      · rw [hafter, if_neg hout]
      · exact hkeeps.protectedMedia p (hadvances.protectedMedia p hp hscope) hscope
      · simpa [namesOneOf, hseries] using hout
    · intro hin hkept
      obtain ⟨s', hfind', hnone⟩ := hkept.inLibrary
      rw [hafter, if_pos hin, Option.some.injEq] at hfind'
      rw [← hfind'] at hnone
      cases hnone
  constructor
  · intro h s hs hlocated
    obtain ⟨s', hfind', htmdb, -⟩ := hadvances.row s.id s (Tables.find?_key_of_mem hkeys.ids hs)
    rw [← htmdb]
    exact (hkept s.id s' (hseen s.id hlocated) hfind').mp (h s.id hlocated)
  · intro h id hlocated
    obtain ⟨s, hfind, -⟩ := (hseen id hlocated).2
    refine (hkept id s (hseen id hlocated) hfind).mpr ?_
    rcases htracked.origin id s hfind with ⟨s₀, hfind₀, htmdb⟩ | hnew
    · rw [← htmdb]
      obtain rfl := Tables.findSeries_id hfind₀
      exact h s₀ (List.mem_of_find?_eq_some hfind₀) hlocated
    · exact .inr hnew

/-- A sync keeps what it saw exactly when every row that an item was located to has no TMDB id, or
one of an item. -/
theorem keepsSeen_iff {world : SyncWorld} {db : Tables} {movies : List AggregatedMovieData}
    {series : List AggregatedSeriesData}
    {supplemental : List (Nat × List (Service × List AggregatedSeasonData))}
    (hmovies : MovieKeys db.movies) (hseries : SeriesKeys db.series) :
    (KeepsSeenMovies world db movies ↔
      ∀ item ∈ movies, ∀ m ∈ db.movies, locateMovie db.movies item.externalIds = some m.id →
        m.tmdbId = 0 ∨ m.tmdbId ∈ movies.map (·.externalIds.tmdb)) ∧
    ∀ db', syncSeries world db series supplemental true = some db' →
      (KeepsSeenSeries world db db' series ↔ ∀ s ∈ db.series,
        s.id ∈ seriesLocations world (seriesMaps db.series)
          (Write.nextId Series.id db.series) series →
          s.tmdbId = 0 ∨ s.tmdbId ∈ series.map (·.externalIds.tmdb)) :=
  ⟨keepsSeenMovies_iff hmovies, fun _ hrun => keepsSeenSeries_iff hseries hrun⟩

/-- No row needs fresh metadata. -/
def noRefresh : SyncWorld where
  now := 5

/-- A movie and a series, each with its TMDB id and its IMDb id. -/
def oneOfEach : Tables where
  movies := [{ id := 1, tmdbId := 10, title := "Film", imdbId := some "tt1" }]
  series := [{ id := 1, tmdbId := 20, title := "Show", imdbId := some "tt2" }]

theorem keepsSeen_sameIds :
    KeepsSeenMovies noRefresh oneOfEach [{ externalIds := ⟨10, none, none⟩ }] ∧
      ∀ db', syncSeries noRefresh oneOfEach
          [{ service := .plex, externalIds := ⟨20, none, none⟩ }] [] true = some db' →
        KeepsSeenSeries noRefresh oneOfEach db'
          [{ service := .plex, externalIds := ⟨20, none, none⟩ }] := by
  have h := @keepsSeen_iff noRefresh oneOfEach
    [{ externalIds := ⟨10, none, none⟩ }] [{ service := .plex, externalIds := ⟨20, none, none⟩ }] []
    ⟨by decide, by decide⟩ ⟨by decide, by decide⟩
  exact ⟨h.1.mpr (by decide), fun db' hrun => (h.2 db' hrun).mpr (by decide)⟩

/-- The server gives the title another TMDB id, so the row is found by its IMDb id. -/
theorem not_keepsSeen_otherTmdbId :
    ¬KeepsSeenMovies noRefresh oneOfEach
      [{ externalIds := ⟨11, some "tt1", none⟩ }] ∧
    ¬∀ db', syncSeries noRefresh oneOfEach
        [{ service := .plex, externalIds := ⟨21, some "tt2", none⟩ }] [] true = some db' →
      KeepsSeenSeries noRefresh oneOfEach db'
        [{ service := .plex, externalIds := ⟨21, some "tt2", none⟩ }] := by
  constructor
  · intro h
    obtain ⟨m, hfind, hnone⟩ :=
      (h _ List.mem_cons_self _ List.mem_cons_self (by decide)).inLibrary
    revert m
    decide
  · intro h
    obtain ⟨s, hfind, hnone⟩ := (h _ rfl 1 (by decide)).inLibrary
    revert s
    decide

end MediaMasterr.Sync
