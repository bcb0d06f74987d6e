import MediaMasterr.Media.StatusItems

/-! # Status and auto-delete

Where the decision state of an item agrees with the selection of auto-delete. The
status of an item looks at the rows for its target and what encloses it; the
selection is held back by every row that touches the candidate's media. -/

namespace MediaMasterr.Media

open MediaMasterr.Foundations MediaMasterr.Database MediaMasterr.Candidates

/-! ## Rows and targets -/

namespace ItemTarget

def mediaType : ItemTarget → MediaType
  | .movie _ => .movie
  | _ => .series

/-- The candidates that the endpoint takes for an item. -/
def Shows : ItemTarget → ReclaimCandidate → Prop
  | .movie movieId, c => c.movieId = some movieId
  | .series seriesId, c => c.seriesId = some seriesId ∧ c.seasonId = none
  | .season _ seasonId, c => c.seasonId = some seasonId ∧ c.episodeId = none
  | .episode _ _ episodeId, c => c.episodeId = some episodeId

instance (target : ItemTarget) : DecidablePred target.Shows := fun c => by
  cases target <;> unfold Shows <;> infer_instance

/-- The candidate is one for the target itself. -/
def Names : ItemTarget → ReclaimCandidate → Prop
  | .movie movieId, c => c.movieId = some movieId
  | .series seriesId, c => c.seriesId = some seriesId ∧ c.seasonId = none ∧ c.episodeId = none
  | .season seriesId seasonId, c =>
    c.seriesId = some seriesId ∧ c.seasonId = some seasonId ∧ c.episodeId = none
  | .episode seriesId _ episodeId, c => c.seriesId = some seriesId ∧ c.episodeId = some episodeId

/-- A row holds the target: it is for the target itself or for the season or series around it. -/
def HeldBy : ItemTarget → MediaTarget → Prop
  | .movie movieId, t => t.movieId = some movieId
  | .series seriesId, t => t.seriesId = some seriesId ∧ t.seasonId = none ∧ t.episodeId = none
  | .season seriesId seasonId, t => t.seriesId = some seriesId ∧
    ((t.seasonId = some seasonId ∧ t.episodeId = none) ∨ (t.seasonId = none ∧ t.episodeId = none))
  | .episode seriesId seasonId episodeId, t => t.seriesId = some seriesId ∧
    (t.episodeId = some episodeId ∨ (t.seasonId = some seasonId ∧ t.episodeId = none) ∨
      (t.seasonId = none ∧ t.episodeId = none))

theorem Names.shows {target : ItemTarget} {c : ReclaimCandidate} (h : target.Names c) : target.Shows c := by
  cases target with
  | movie => exact h
  | series => exact ⟨h.1, h.2.1⟩
  | season => exact h.2
  | episode => exact h.2

end ItemTarget

/-- The candidate that an item shows: the last of its rows. -/
def shownCandidate (db : Tables) (target : ItemTarget) : Option ReclaimCandidate :=
  db.candidates.reverse.find? fun c => target.Shows c

/-- Some active protection or pending request holds the target. -/
def Held (db : Tables) (now : Nat) (target : ItemTarget) : Prop :=
  ∃ t ∈ heldTargets db now, target.HeldBy t

/-- The targets of the four listings. -/
inductive Listed (db : Tables) : ItemTarget → Prop
  | movie {m : Movie} (hm : m ∈ libraryMovies db) : Listed db (.movie m.id)
  | series {s : Series} (hs : s ∈ librarySeries db) : Listed db (.series s.id)
  | season {s : Series} {season : Season} (hs : s ∈ librarySeries db) (hseason : season ∈ db.seasons)
    (hof : season.seriesId = s.id) : Listed db (.season s.id season.id)
  | episode {s : Series} {season : Season} {e : Episode} (hs : s ∈ librarySeries db)
    (hseason : season ∈ db.seasons) (hof : season.seriesId = s.id) (he : e ∈ db.episodes)
    (hin : e.seasonId = season.id) : Listed db (.episode s.id season.id e.id)

/-- The items that the endpoints build, for any page. -/
inductive Built (db : Tables) (columns : OtherColumns) (now : Nat) (item : StatusItem) : Prop
  | movies (page : List Movie) (hpage : page ⊆ libraryMovies db) (h : item ∈ getMovies db columns now page)
  | series (page : List Series) (hpage : page ⊆ librarySeries db)
    (h : item ∈ getSeries db columns now page)
  | seasons (seriesId : Nat) (items : List StatusItem)
    (hitems : getSeriesSeasons db columns now seriesId = .ok items) (h : item ∈ items)
  | episodes (seriesId : Nat) (items : List StatusItem)
    (hitems : getSeriesEpisodes db columns now seriesId = .ok items) (h : item ∈ items)

/-! ## What an item says -/

/-- The status of an item in terms of the rows of the database. -/
structure StatusSpec (db : Tables) (now : Nat) (item : StatusItem) : Prop where
  isCandidate : item.status.isCandidate = (shownCandidate db item.target).isSome
  candidateId : item.status.candidateId = (shownCandidate db item.target).map (·.id)
  state : ∀ c, shownCandidate db item.target = some c →
    (item.status.decision.state = .safeToDelete ↔
      ¬Held db now item.target ∧ (candidatePolicy db now item.target.mediaType c).isEligible = true)

/-- The rows found for a target: the last of its candidates and rows that hold it. -/
structure FoundSpec (db : Tables) (now : Nat) (target : ItemTarget) (found : FoundRows) : Prop where
  candidate : found.candidate = shownCandidate db target
  protection : found.protection.isSome ↔ ∃ row ∈ activeProtections db now, target.HeldBy row.target
  request : found.request.isSome ↔ ∃ row ∈ pendingRequests db, target.HeldBy row.target
  deleteRequest : found.deleteRequest.isSome ↔ ∃ row ∈ pendingDeleteRequests db, target.HeldBy row.target

section Rows

variable {db : Tables} {columns : OtherColumns} {now : Nat} {α : Type}

theorem get?_build_isSome {key : α → Option Nat} {rows : List α} {k : Nat} :
    ((Dict.build key id rows).get? k).isSome ↔ ∃ row ∈ rows, key row = some k := by
  rw [Dict.get?_build, Option.map_id, id, List.find?_isSome]
  simp

theorem rowForSeason_isSome {target : α → MediaTarget} {rows : List α} {seasonId : Nat} :
    (rowForSeason target rows seasonId).isSome ↔ ∃ row ∈ rows,
      ((target row).seasonId = some seasonId ∧ (target row).episodeId = none) ∨
        ((target row).seasonId = none ∧ (target row).episodeId = none) := by
  rw [rowForSeason, Option.isSome_or, Bool.or_eq_true, seasonRows, get?_build_isSome, wholeSeriesRow,
    List.find?_isSome]
  simp only [isSeasonScope, isSeriesScope, List.mem_filter, Bool.and_eq_true, Option.isNone_iff_eq_none]
  constructor
  · rintro (⟨row, ⟨hrow, -, hepisode⟩, hseason⟩ | ⟨row, hrow, hwhole⟩)
    · exact ⟨row, hrow, Or.inl ⟨hseason, hepisode⟩⟩
    · exact ⟨row, hrow, Or.inr hwhole⟩
  · rintro ⟨row, hrow, ⟨hseason, hepisode⟩ | hwhole⟩
    · exact Or.inl ⟨row, ⟨hrow, by simp [hseason], hepisode⟩, hseason⟩
    · exact Or.inr ⟨row, hrow, hwhole⟩

theorem rowForEpisode_isSome {target : α → MediaTarget} {rows : List α} {seasonId episodeId : Nat} :
    (rowForEpisode target rows seasonId episodeId).isSome ↔ ∃ row ∈ rows,
      (target row).episodeId = some episodeId ∨
        ((target row).seasonId = some seasonId ∧ (target row).episodeId = none) ∨
          ((target row).seasonId = none ∧ (target row).episodeId = none) := by
  rw [rowForEpisode, Option.isSome_or, Bool.or_eq_true, rowForSeason_isSome, episodeRows, get?_build_isSome]
  simp only [isEpisodeScope, List.mem_filter]
  constructor
  · rintro (⟨row, ⟨hrow, -⟩, hepisode⟩ | ⟨row, hrow, hbelow⟩)
    · exact ⟨row, hrow, Or.inl hepisode⟩
    · exact ⟨row, hrow, Or.inr hbelow⟩
  · rintro ⟨row, hrow, hepisode | hbelow⟩
    · exact Or.inl ⟨row, ⟨hrow, by simp [hepisode]⟩, hepisode⟩
    · exact Or.inr ⟨row, hrow, hbelow⟩

theorem exists_heldTargets {p : MediaTarget → Prop} :
    (∃ t ∈ heldTargets db now, p t) ↔
      (∃ row ∈ activeProtections db now, p row.target) ∨ (∃ row ∈ pendingRequests db, p row.target) ∨
        ∃ row ∈ pendingDeleteRequests db, p row.target := by
  simp only [heldTargets, activeProtections, pendingRequests, pendingDeleteRequests, List.mem_append,
    List.mem_map]
  constructor
  · rintro ⟨t, (⟨row, hrow, rfl⟩ | ⟨row, hrow, rfl⟩) | ⟨row, hrow, rfl⟩, ht⟩
    · exact Or.inl ⟨row, hrow, ht⟩
    · exact Or.inr (Or.inl ⟨row, hrow, ht⟩)
    · exact Or.inr (Or.inr ⟨row, hrow, ht⟩)
  · rintro (⟨row, hrow, ht⟩ | ⟨row, hrow, ht⟩ | ⟨row, hrow, ht⟩)
    · exact ⟨_, Or.inl (Or.inl ⟨row, hrow, rfl⟩), ht⟩
    · exact ⟨_, Or.inl (Or.inr ⟨row, hrow, rfl⟩), ht⟩
    · exact ⟨_, Or.inr ⟨row, hrow, rfl⟩, ht⟩

theorem held_iff_found {target : ItemTarget} {found : FoundRows} (h : FoundSpec db now target found) :
    Held db now target ↔ found.protection.isSome ∨ found.request.isSome ∨ found.deleteRequest.isSome := by
  rw [Held, exists_heldTargets, h.protection, h.request, h.deleteRequest]

theorem statusSpec_mediaStatus {target : ItemTarget} {found : FoundRows} {views : ViewColumns}
    (h : FoundSpec db now target found) :
    StatusSpec db now ⟨target, mediaStatus db columns now target.mediaType found views⟩ where
  isCandidate := congrArg Option.isSome h.candidate
  candidateId := congrArg (Option.map ReclaimCandidate.id) h.candidate
  state := fun c hc => by
    have hfound : found.candidate = some c := h.candidate.trans hc
    simp only [mediaStatus]
    rw [evaluate_candidate_iff (by simp [hfound])]
    simp only [hfound, Option.map_some, Option.some.injEq, forall_eq', held_iff_found h, not_or,
      Bool.not_eq_true]
    simp [candidatePolicy, resolveAutoDeletePolicy]

section RowsById

variable {key : α → Option Nat} {inScope : α → Bool} {rows : List α} {ids : List Nat} {k : Nat}

/-- For one of the ids, the dictionary has the last row in scope. -/
theorem get?_rowsById {p : α → Prop} [DecidablePred p] (hk : k ∈ ids)
    (hp : ∀ row, p row ↔ key row = some k ∧ inScope row = true) :
    (rowsById key inScope ids rows).get? k = rows.reverse.find? (p ·) := by
  rw [rowsById, Dict.get?_build, Option.map_id, id, ← List.filter_reverse, List.find?_filter]
  congr 1
  funext row
  rw [decide_eq_decide, hp]
  constructor
  · rintro ⟨hkept, hkey⟩
    exact ⟨of_decide_eq_true hkey, (Bool.and_eq_true_iff.mp hkept).2⟩
  · rintro ⟨hkey, hscope⟩
    exact ⟨by simp [hkey, hk, hscope], decide_eq_true hkey⟩

theorem get?_rowsById_isSome {p : α → Prop} (hk : k ∈ ids)
    (hp : ∀ row, p row ↔ key row = some k ∧ inScope row = true) :
    ((rowsById key inScope ids rows).get? k).isSome ↔ ∃ row ∈ rows, p row := by
  classical
  rw [get?_rowsById hk hp, List.find?_isSome]
  simp

end RowsById

end Rows

section Endpoints

variable {db : Tables} {columns : OtherColumns} {now : Nat} {item : StatusItem}

theorem getMovies_found {page : List Movie} (h : item ∈ getMovies db columns now page) :
    ∃ m ∈ page, ∃ found, FoundSpec db now (.movie m.id) found ∧ found.childCandidateCount = 0 ∧
      item = ⟨.movie m.id, mediaStatus db columns now .movie found
        { columns.movieViews m with size := m.size }⟩ := by
  obtain ⟨m, hm, rfl⟩ := List.mem_map.mp h
  have hid : m.id ∈ page.map (·.id) := List.mem_map_of_mem hm
  refine ⟨m, hm, _, ⟨?_, ?_, ?_, ?_⟩, rfl, rfl⟩
  · exact get?_rowsById hid fun c => (and_iff_left rfl).symm
  · exact get?_rowsById_isSome hid fun p => (and_iff_left rfl).symm
  · exact get?_rowsById_isSome hid fun r => (and_iff_left rfl).symm
  · exact get?_rowsById_isSome hid fun r => (and_iff_left rfl).symm

theorem getMovies_spec {page : List Movie} (h : item ∈ getMovies db columns now page) :
    ∃ m ∈ page, item.target = .movie m.id ∧ StatusSpec db now item := by
  obtain ⟨m, hm, found, hfound, -, rfl⟩ := getMovies_found h
  exact ⟨m, hm, rfl, statusSpec_mediaStatus hfound⟩

theorem getSeries_found {page : List Series} (h : item ∈ getSeries db columns now page) :
    ∃ s ∈ page, ∃ found, FoundSpec db now (.series s.id) found ∧
      found.childCandidateCount = (childCandidateStats db s.id).1 ∧
      item = ⟨.series s.id, mediaStatus db columns now .series found
        { columns.seriesViews s with size := s.size }⟩ := by
  obtain ⟨s, hs, rfl⟩ := List.mem_map.mp h
  have hid : s.id ∈ page.map (·.id) := List.mem_map_of_mem hs
  have hwhole : ∀ t : MediaTarget, (ItemTarget.series s.id).HeldBy t ↔
      t.seriesId = some s.id ∧ isSeriesScope t.seasonId t.episodeId = true := fun t => by
    simp [ItemTarget.HeldBy, isSeriesScope]
  refine ⟨s, hs, _, ⟨?_, ?_, ?_, ?_⟩, rfl, rfl⟩
  · exact get?_rowsById hid fun c => by simp [ItemTarget.Shows]
  · exact get?_rowsById_isSome hid fun p => hwhole p.target
  · exact get?_rowsById_isSome hid fun r => hwhole r.target
  · exact get?_rowsById_isSome hid fun r => hwhole r.target

theorem getSeries_spec {page : List Series} (h : item ∈ getSeries db columns now page) :
    ∃ s ∈ page, item.target = .series s.id ∧ StatusSpec db now item := by
  obtain ⟨s, hs, found, hfound, -, rfl⟩ := getSeries_found h
  exact ⟨s, hs, rfl, statusSpec_mediaStatus hfound⟩

theorem mem_librarySeries_of_listed {seriesId : Nat} (h : seriesListed db seriesId = true) :
    ∃ s ∈ librarySeries db, s.id = seriesId := by
  obtain ⟨s, hs, hlisted⟩ := List.any_eq_true.mp h
  obtain ⟨hid, hkept⟩ := of_decide_eq_true hlisted
  exact ⟨s, List.mem_filter.mpr ⟨hs, hkept⟩, hid⟩

theorem seriesListed_of_mem {s : Series} (h : s ∈ librarySeries db) : seriesListed db s.id = true := by
  obtain ⟨hs, hkept⟩ := List.mem_filter.mp h
  exact List.any_eq_true.mpr ⟨s, hs, decide_eq_true ⟨rfl, hkept⟩⟩

theorem getSeriesSeasons_spec {seriesId : Nat} {items : List StatusItem}
    (hitems : getSeriesSeasons db columns now seriesId = .ok items) (h : item ∈ items) :
    ∃ s ∈ librarySeries db, ∃ season ∈ db.seasons, season.seriesId = s.id ∧
      item.target = .season s.id season.id ∧ StatusSpec db now item := by
  unfold getSeriesSeasons at hitems
  split_ifs at hitems with hlisted
  obtain ⟨s, hs, rfl⟩ := mem_librarySeries_of_listed (by simpa using hlisted)
  obtain rfl := Except.ok.inj hitems
  obtain ⟨season, hseason, rfl⟩ := List.mem_map.mp h
  obtain ⟨hmem, hof⟩ := List.mem_filter.mp (List.mem_mergeSort.mp hseason)
  have hid := List.mem_map_of_mem (f := (·.id)) hseason
  refine ⟨s, hs, season, hmem, of_decide_eq_true hof, rfl,
    @statusSpec_mediaStatus db columns now (.season s.id season.id) _ _ ⟨?_, ?_, ?_, ?_⟩⟩
  · exact get?_rowsById hid fun c => by simp [ItemTarget.Shows]
  · rw [rowForSeason_isSome]
    simp [seriesProtections, ItemTarget.HeldBy, ProtectedMedia.target, and_assoc]
  · rw [rowForSeason_isSome]
    simp [seriesRequests, ItemTarget.HeldBy, ProtectionRequest.target, and_assoc]
  · rw [rowForSeason_isSome]
    simp [seriesDeleteRequests, ItemTarget.HeldBy, DeleteRequest.target, and_assoc]

theorem getSeriesEpisodes_spec {seriesId : Nat} {items : List StatusItem}
    (hitems : getSeriesEpisodes db columns now seriesId = .ok items) (h : item ∈ items) :
    ∃ s ∈ librarySeries db, ∃ season ∈ db.seasons, season.seriesId = s.id ∧
      ∃ e ∈ db.episodes, e.seasonId = season.id ∧
        item.target = .episode s.id season.id e.id ∧ StatusSpec db now item := by
  unfold getSeriesEpisodes at hitems
  split_ifs at hitems with hlisted
  obtain ⟨s, hs, rfl⟩ := mem_librarySeries_of_listed (by simpa using hlisted)
  obtain rfl := Except.ok.inj hitems
  obtain ⟨⟨e, season⟩, hrow, rfl⟩ := List.mem_map.mp h
  have hid := List.mem_map_of_mem (f := (·.1.id)) hrow
  obtain ⟨season', hseason, hpair⟩ := List.mem_flatMap.mp (List.mem_mergeSort.mp hrow)
  obtain ⟨e', he, heq⟩ := List.mem_map.mp hpair
  obtain ⟨rfl, rfl⟩ := Prod.mk.inj heq
  obtain ⟨hmem, hof⟩ := List.mem_filter.mp hseason
  obtain ⟨hepisode, hin⟩ := List.mem_filter.mp he
  refine ⟨s, hs, season', hmem, of_decide_eq_true hof, e', hepisode, of_decide_eq_true hin, rfl,
    @statusSpec_mediaStatus db columns now (.episode s.id season'.id e'.id) _ _ ⟨?_, ?_, ?_, ?_⟩⟩
  · exact get?_rowsById hid fun c => (and_iff_left rfl).symm
  · rw [rowForEpisode_isSome]
    simp [seriesProtections, ItemTarget.HeldBy, ProtectedMedia.target, and_assoc]
  · rw [rowForEpisode_isSome]
    simp [seriesRequests, ItemTarget.HeldBy, ProtectionRequest.target, and_assoc]
  · rw [rowForEpisode_isSome]
    simp [seriesDeleteRequests, ItemTarget.HeldBy, DeleteRequest.target, and_assoc]

theorem Built.spec (h : Built db columns now item) : Listed db item.target ∧ StatusSpec db now item := by
  cases h with
  | movies page hpage h =>
    obtain ⟨m, hm, htarget, hspec⟩ := getMovies_spec h
    exact ⟨htarget ▸ .movie (hpage hm), hspec⟩
  | series page hpage h =>
    obtain ⟨s, hs, htarget, hspec⟩ := getSeries_spec h
    exact ⟨htarget ▸ .series (hpage hs), hspec⟩
  | seasons seriesId items hitems h =>
    obtain ⟨s, hs, season, hseason, hof, htarget, hspec⟩ := getSeriesSeasons_spec hitems h
    exact ⟨htarget ▸ .season hs hseason hof, hspec⟩
  | episodes seriesId items hitems h =>
    obtain ⟨s, hs, season, hseason, hof, e, he, hin, htarget, hspec⟩ := getSeriesEpisodes_spec hitems h
    exact ⟨htarget ▸ .episode hs hseason hof he hin, hspec⟩

/-- Every listed target has an item. -/
theorem Listed.built {target : ItemTarget} (h : Listed db target) (columns : OtherColumns) (now : Nat) :
    ∃ item, Built db columns now item ∧ item.target = target := by
  cases h with
  | movie hm => exact ⟨_, .movies _ (List.Subset.refl _) (List.mem_map_of_mem hm), rfl⟩
  | series hs => exact ⟨_, .series _ (List.Subset.refl _) (List.mem_map_of_mem hs), rfl⟩
  | @season s season hs hseason hof =>
    have hrow : season ∈ (db.seasons.filter (·.seriesId = s.id)).mergeSort fun a b =>
        a.seasonNumber ≤ b.seasonNumber :=
      List.mem_mergeSort.mpr (List.mem_filter.mpr ⟨hseason, decide_eq_true hof⟩)
    obtain ⟨items, hitems, item, hitem, htarget⟩ : ∃ items,
        getSeriesSeasons db columns now s.id = .ok items ∧
          ∃ item ∈ items, item.target = .season s.id season.id := by
      rw [getSeriesSeasons, seriesListed_of_mem hs]
      exact ⟨_, rfl, _, List.mem_map_of_mem hrow, rfl⟩
    exact ⟨item, .seasons s.id items hitems hitem, htarget⟩
  | @episode s season e hs hseason hof he hin =>
    have hrow : (e, season) ∈ ((db.seasons.filter (·.seriesId = s.id)).flatMap fun season =>
        (db.episodes.filter (·.seasonId = season.id)).map fun episode => (episode, season)).mergeSort
          fun a b => a.2.seasonNumber < b.2.seasonNumber ||
            (a.2.seasonNumber == b.2.seasonNumber && a.1.episodeNumber ≤ b.1.episodeNumber) := by
      refine List.mem_mergeSort.mpr (List.mem_flatMap.mpr ⟨season, ?_, List.mem_map.mpr ⟨e, ?_, rfl⟩⟩)
      · exact List.mem_filter.mpr ⟨hseason, decide_eq_true hof⟩
      · exact List.mem_filter.mpr ⟨he, decide_eq_true hin⟩
    obtain ⟨items, hitems, item, hitem, htarget⟩ : ∃ items,
        getSeriesEpisodes db columns now s.id = .ok items ∧
          ∃ item ∈ items, item.target = .episode s.id season.id e.id := by
      rw [getSeriesEpisodes, seriesListed_of_mem hs]
      exact ⟨_, rfl, _, List.mem_map_of_mem hrow, rfl⟩
    exact ⟨item, .episodes s.id items hitems hitem, htarget⟩

end Endpoints

/-! ## What auto-delete selects -/

/-- The row touches the media of the candidate: it is for the candidate's movie, version, series,
season or episode, or for a version, season or episode below one of them. -/
def Touches (db : Tables) (t : MediaTarget) (c : ReclaimCandidate) : Prop :=
  t.mediaType = c.mediaType ∧
    match c.mediaType with
    | .movie => (∃ movieId, c.movieId = some movieId ∧ RefersToMovie db t movieId) ∨
        ∃ versionId, c.movieVersionId = some versionId ∧ t.movieVersionId = some versionId
    | .series => (∃ seriesId, c.seriesId = some seriesId ∧ RefersToSeries db t seriesId) ∨
        (∃ seasonId, c.seasonId = some seasonId ∧ (t.seasonId = some seasonId ∨
          ∃ episode ∈ db.episodes, episode.seasonId = seasonId ∧ t.episodeId = some episode.id)) ∨
        ∃ episodeId, c.episodeId = some episodeId ∧ t.episodeId = some episodeId

/-- Some active protection or pending request touches the media of the candidate. -/
def Touched (db : Tables) (now : Nat) (c : ReclaimCandidate) : Prop :=
  ∃ t ∈ heldTargets db now, Touches db t c

/-- The delays of all rules of the candidate are over. -/
def IsDue (db : Tables) (now : Nat) (c : ReclaimCandidate) : Prop :=
  (resolveAutoDeletePolicy db now c).isEligible = true

section Selection

variable {db : Tables} {now : Nat} {c : ReclaimCandidate}

theorem any_mem_iff {α : Type} [DecidableEq α] {x : Option α} {ids : List α} :
    x.any (· ∈ ids) = true ↔ ∃ a, x = some a ∧ a ∈ ids := by
  cases x <;> simp

theorem mem_blockedMovieVersionIds_iff {versionId : Nat} :
    versionId ∈ blockedMovieVersionIds db now ↔
      ∃ t ∈ heldOf db now .movie, t.movieVersionId = some versionId := by
  simp [blockedMovieVersionIds]

theorem mem_blockedEpisodeIds_iff {episodeId : Nat} :
    episodeId ∈ blockedEpisodeIds db now ↔
      ∃ t ∈ heldOf db now .series, t.episodeId = some episodeId := by
  simp [blockedEpisodeIds]

/-- Auto-delete blocks the candidates whose media is touched. -/
theorem isBlocked_iff : isBlocked db now c = true ↔ Touched db now c := by
  unfold isBlocked Touched Touches
  cases hmedia : c.mediaType with
  | movie =>
    simp only [Bool.or_eq_true, any_mem_iff, mem_blockedMovieIds_iff, mem_blockedMovieVersionIds_iff,
      mem_heldOf]
    constructor
    · rintro (⟨movieId, hmovie, t, ⟨ht, htype⟩, hrefers⟩ | ⟨versionId, hversion, t, ⟨ht, htype⟩, hrefers⟩)
      · exact ⟨t, ht, htype, Or.inl ⟨movieId, hmovie, hrefers⟩⟩
      · exact ⟨t, ht, htype, Or.inr ⟨versionId, hversion, hrefers⟩⟩
    · rintro ⟨t, ht, htype, ⟨movieId, hmovie, hrefers⟩ | ⟨versionId, hversion, hrefers⟩⟩
      · exact Or.inl ⟨movieId, hmovie, t, ⟨ht, htype⟩, hrefers⟩
      · exact Or.inr ⟨versionId, hversion, t, ⟨ht, htype⟩, hrefers⟩
  | series =>
    simp only [Bool.or_eq_true, any_mem_iff, mem_blockedSeriesIds_iff, mem_blockedSeasonIds_iff,
      mem_blockedEpisodeIds_iff, mem_heldOf]
    constructor
    · rintro ((⟨seriesId, hseries, t, ⟨ht, htype⟩, hrefers⟩ | ⟨seasonId, hseason, t, ⟨ht, htype⟩, hrefers⟩) |
        ⟨episodeId, hepisode, t, ⟨ht, htype⟩, hrefers⟩)
      · exact ⟨t, ht, htype, Or.inl ⟨seriesId, hseries, hrefers⟩⟩
      · exact ⟨t, ht, htype, Or.inr (Or.inl ⟨seasonId, hseason, hrefers⟩)⟩
      · exact ⟨t, ht, htype, Or.inr (Or.inr ⟨episodeId, hepisode, hrefers⟩)⟩
    · rintro ⟨t, ht, htype, ⟨seriesId, hseries, hrefers⟩ | ⟨seasonId, hseason, hrefers⟩ |
        ⟨episodeId, hepisode, hrefers⟩⟩
      · exact Or.inl (Or.inl ⟨seriesId, hseries, t, ⟨ht, htype⟩, hrefers⟩)
      · exact Or.inl (Or.inr ⟨seasonId, hseason, t, ⟨ht, htype⟩, hrefers⟩)
      · exact Or.inr ⟨episodeId, hepisode, t, ⟨ht, htype⟩, hrefers⟩

theorem eligibleIds_foldl_selectStep (candidates : List ReclaimCandidate) (selection : Selection) :
    (candidates.foldl (selectStep db now) selection).eligibleIds = selection.eligibleIds ++
      (candidates.filter fun c =>
        !isBlocked db now c && (resolveAutoDeletePolicy db now c).isEligible).map (·.id) := by
  induction candidates generalizing selection with
  | nil => simp
  | cons c candidates ih =>
    rw [List.foldl_cons, ih, selectStep]
    split_ifs with hblocked heligible
    · simp [hblocked]
    · simp [hblocked, heligible]
    · simp [heligible]

/-- With different ids, a candidate is selected exactly when it is due and nothing touches its
media. -/
theorem mem_eligibleIds_iff (hids : (db.candidates.map ReclaimCandidate.id).Nodup)
    (hc : c ∈ db.candidates) :
    c.id ∈ (selectAutoDeleteEligibleCandidateIds db now).eligibleIds ↔
      ¬Touched db now c ∧ IsDue db now c := by
  rw [selectAutoDeleteEligibleCandidateIds, eligibleIds_foldl_selectStep, List.nil_append, ← isBlocked_iff,
    List.mem_map]
  constructor
  · rintro ⟨c', hc', hid⟩
    obtain ⟨hmem, hselected⟩ := List.mem_filter.mp hc'
    obtain rfl := List.inj_on_of_nodup_map hids hmem hc hid
    simpa [IsDue] using hselected
  · rintro ⟨hfree, hdue⟩
    have hselected : (!isBlocked db now c && (resolveAutoDeletePolicy db now c).isEligible) = true := by
      rw [Bool.and_eq_true]
      exact ⟨by simpa using hfree, hdue⟩
    exact ⟨c, List.mem_filter.mpr ⟨hc, hselected⟩, rfl⟩

end Selection

/-! ## Agreement -/

/-- Candidates carry the movie or series of their media type. -/
def CarriesParents (db : Tables) : Prop :=
  ∀ c ∈ db.candidates,
    match c.mediaType with
    | .movie => c.movieId.isSome ∧ c.seriesId = none ∧ c.seasonId = none ∧ c.episodeId = none
    | .series => c.seriesId.isSome ∧ c.movieId = none

/-- The status that is shown agrees with what auto-delete selects. -/
structure StatusAgrees (db : Tables) (columns : OtherColumns) (now : Nat) : Prop where
  shown : ∀ item, Built db columns now item → item.status.isCandidate = true →
    (item.status.decision.state = .safeToDelete ↔
      ∃ id ∈ (selectAutoDeleteEligibleCandidateIds db now).eligibleIds, item.status.candidateId = some id)
  selected : ∀ id ∈ (selectAutoDeleteEligibleCandidateIds db now).eligibleIds,
    ∃ item, Built db columns now item ∧ (∃ c ∈ db.candidates, c.id = id ∧ item.target.Names c) ∧
      item.status.decision.state = .safeToDelete

/-- The rows for which statuses and selection agree. -/
structure AgreeingRows (db : Tables) (now : Nat) : Prop where
  held : ∀ target, Listed db target → ∀ c, shownCandidate db target = some c → IsDue db now c →
    (Held db now target ↔ Touched db now c)
  listed : ∀ c ∈ db.candidates, IsDue db now c → ¬Touched db now c →
    ∃ target, Listed db target ∧ target.Names c ∧ ¬Held db now target ∧
      ∃ c', shownCandidate db target = some c' ∧ IsDue db now c'

section Agreement

variable {db : Tables} {columns : OtherColumns} {now : Nat} {target : ItemTarget} {c : ReclaimCandidate}

theorem shownCandidate_mem (h : shownCandidate db target = some c) : c ∈ db.candidates ∧ target.Shows c :=
  ⟨List.mem_reverse.mp (List.mem_of_find?_eq_some h), by simpa using List.find?_some h⟩

theorem shownCandidate_isSome (hc : c ∈ db.candidates) (h : target.Shows c) :
    ∃ c', shownCandidate db target = some c' := by
  rw [← Option.isSome_iff_exists, shownCandidate, List.find?_isSome]
  exact ⟨c, List.mem_reverse.mpr hc, decide_eq_true h⟩

/-- An item computes the deadline of its candidate as auto-delete does. -/
theorem candidatePolicy_eq (hparents : CarriesParents db) (h : shownCandidate db target = some c) :
    candidatePolicy db now target.mediaType c = resolveAutoDeletePolicy db now c := by
  obtain ⟨hc, hshows⟩ := shownCandidate_mem h
  have hparent := hparents c hc
  have hmedia : c.mediaType = target.mediaType := by
    cases htype : c.mediaType <;> rw [htype] at hparent <;> cases target <;>
      simp_all [ItemTarget.Shows, ItemTarget.mediaType]
  rw [candidatePolicy, ← hmedia]

/-- Of rows for media of its own type, what holds a target touches the candidates for it. -/
theorem touches_of_heldBy {t : MediaTarget} (hnames : target.Names c)
    (hmedia : c.mediaType = target.mediaType) (htype : t.mediaType = target.mediaType)
    (h : target.HeldBy t) : Touches db t c := by
  refine ⟨htype.trans hmedia.symm, ?_⟩
  cases target with
  | movie movieId =>
    rw [hmedia]
    exact Or.inl ⟨movieId, hnames, Or.inl h⟩
  | series seriesId =>
    rw [hmedia]
    exact Or.inl ⟨seriesId, hnames.1, Or.inl h.1⟩
  | season seriesId seasonId =>
    rw [hmedia]
    exact Or.inl ⟨seriesId, hnames.1, Or.inl h.1⟩
  | episode seriesId seasonId episodeId =>
    rw [hmedia]
    exact Or.inl ⟨seriesId, hnames.1, Or.inl h.1⟩

theorem StatusSpec.state_iff {item : StatusItem} (h : StatusSpec db now item)
    (hparents : CarriesParents db) (hshown : shownCandidate db item.target = some c) :
    item.status.decision.state = .safeToDelete ↔ ¬Held db now item.target ∧ IsDue db now c := by
  rw [h.state c hshown, candidatePolicy_eq hparents hshown, IsDue]

theorem StatusAgrees.agreeingRows (hids : (db.candidates.map ReclaimCandidate.id).Nodup)
    (hparents : CarriesParents db) (h : StatusAgrees db columns now) : AgreeingRows db now where
  held := by
    intro target hlisted c hshown hdue
    obtain ⟨item, hbuilt, rfl⟩ := hlisted.built columns now
    obtain ⟨-, hspec⟩ := hbuilt.spec
    have hcandidate : item.status.isCandidate = true := by rw [hspec.isCandidate, hshown]; rfl
    have hid : item.status.candidateId = some c.id := by rw [hspec.candidateId, hshown]; rfl
    have hagree := h.shown item hbuilt hcandidate
    simp only [hspec.state_iff hparents hshown, hid, Option.some.injEq, exists_eq_right',
      mem_eligibleIds_iff hids (shownCandidate_mem hshown).1, hdue, and_true] at hagree
    exact not_iff_not.mp hagree
  listed := by
    intro c hc hdue hfree
    obtain ⟨item, hbuilt, ⟨c', hc', hid, hnames⟩, hsafe⟩ :=
      h.selected c.id ((mem_eligibleIds_iff hids hc).mpr ⟨hfree, hdue⟩)
    obtain rfl := List.inj_on_of_nodup_map hids hc' hc hid
    obtain ⟨hlisted, hspec⟩ := hbuilt.spec
    obtain ⟨shown, hshown⟩ := shownCandidate_isSome hc hnames.shows
    obtain ⟨hunheld, hready⟩ := (hspec.state_iff hparents hshown).mp hsafe
    exact ⟨item.target, hlisted, hnames, hunheld, shown, hshown, hready⟩

theorem AgreeingRows.statusAgrees (hids : (db.candidates.map ReclaimCandidate.id).Nodup)
    (hparents : CarriesParents db) (h : AgreeingRows db now) : StatusAgrees db columns now where
  shown := by
    intro item hbuilt hcandidate
    obtain ⟨hlisted, hspec⟩ := hbuilt.spec
    obtain ⟨c, hshown⟩ := Option.isSome_iff_exists.mp (hspec.isCandidate.symm.trans hcandidate)
    have hid : item.status.candidateId = some c.id := by rw [hspec.candidateId, hshown]; rfl
    have hheld : IsDue db now c → (Held db now item.target ↔ Touched db now c) :=
      h.held item.target hlisted c hshown
    simp only [hspec.state_iff hparents hshown, hid, Option.some.injEq, exists_eq_right',
      mem_eligibleIds_iff hids (shownCandidate_mem hshown).1]
    exact and_congr_left fun hdue => not_congr (hheld hdue)
  selected := by
    intro id hid
    obtain ⟨c, hc, rfl⟩ : ∃ c ∈ db.candidates, c.id = id := by
      rw [selectAutoDeleteEligibleCandidateIds, eligibleIds_foldl_selectStep, List.nil_append] at hid
      obtain ⟨c, hc, rfl⟩ := List.mem_map.mp hid
      exact ⟨c, (List.mem_filter.mp hc).1, rfl⟩
    obtain ⟨hfree, hdue⟩ := (mem_eligibleIds_iff hids hc).mp hid
    obtain ⟨target, hlisted, hnames, hunheld, shown, hshown, hready⟩ := h.listed c hc hdue hfree
    obtain ⟨item, hbuilt, rfl⟩ := hlisted.built columns now
    exact ⟨item, hbuilt, ⟨c, hc, rfl, hnames⟩,
      (hbuilt.spec.2.state_iff hparents hshown).mpr ⟨hunheld, hready⟩⟩

end Agreement

/-- Statuses and selection agree exactly when every shown candidate that is due is held at its target
if and only if something touches its media, and every due candidate whose media nothing touches belongs
to a listed target that nothing holds and that shows a due candidate. -/
theorem statusAgrees_iff (db : Tables) (columns : OtherColumns) (now : Nat)
    (hids : (db.candidates.map ReclaimCandidate.id).Nodup) (hparents : CarriesParents db) :
    StatusAgrees db columns now ↔ AgreeingRows db now :=
  ⟨fun h => h.agreeingRows hids hparents, fun h => h.statusAgrees hids hparents⟩

/-- A movie whose candidate is a month old. -/
def candidateMovie : Tables where
  movies := [{ id := 1, tmdbId := 1, title := "Movie" }]
  candidates := [{ id := 1, mediaType := .movie, movieId := some 1 }]

theorem statusAgrees_candidateMovie : StatusAgrees candidateMovie {} (30 * 86400) := by
  have hparents : CarriesParents candidateMovie := by
    intro c hc
    obtain rfl := List.mem_singleton.mp hc
    exact ⟨rfl, rfl, rfl, rfl⟩
  have hfree : heldTargets candidateMovie (30 * 86400) = [] := rfl
  refine (statusAgrees_iff candidateMovie {} (30 * 86400) (by decide) hparents).mpr ⟨?_, ?_⟩
  · intro target _ c _ _
    simp [Held, Touched, hfree]
  · intro c hc hdue _
    obtain rfl := List.mem_singleton.mp hc
    have hlisted : Listed candidateMovie (.movie 1) :=
      .movie (m := { id := 1, tmdbId := 1, title := "Movie" }) (List.mem_singleton_self _)
    exact ⟨.movie 1, hlisted, rfl, by simp [Held, hfree], _, rfl, hdue⟩

/-- A series with a candidate and a protected episode. -/
def protectedEpisode : Tables where
  series := [{ id := 1, tmdbId := 1, title := "Series" }]
  seasons := [{ id := 1, seriesId := 1, seasonNumber := 1 }]
  episodes := [{ id := 1, seasonId := 1, episodeNumber := 1 }]
  candidates := [{ id := 1, mediaType := .series, seriesId := some 1 }]
  protectedMedia := [{ id := 1, mediaType := .series, seriesId := some 1, seasonId := some 1, episodeId := some 1 }]

/-- The series is shown as safe to delete, and auto-delete does not select it. -/
theorem not_statusAgrees : ¬∀ (db : Tables) (columns : OtherColumns) (now : Nat),
    (db.candidates.map ReclaimCandidate.id).Nodup → CarriesParents db → StatusAgrees db columns now := by
  intro h
  have hparents : CarriesParents protectedEpisode := by
    intro c hc
    obtain rfl := List.mem_singleton.mp hc
    exact ⟨rfl, rfl⟩
  have hbuilt : ∀ item ∈ getSeries protectedEpisode {} (30 * 86400) (librarySeries protectedEpisode),
      Built protectedEpisode {} (30 * 86400) item := fun item => .series _ (List.Subset.refl _)
  have hshown := (h protectedEpisode {} (30 * 86400) (by decide) hparents).shown _
    (hbuilt _ List.mem_cons_self) rfl
  obtain ⟨id, hid, -⟩ := hshown.mp (by decide)
  have hnone : (selectAutoDeleteEligibleCandidateIds protectedEpisode (30 * 86400)).eligibleIds = [] := by
    decide
  rw [hnone] at hid
  exact List.not_mem_nil hid

end MediaMasterr.Media
