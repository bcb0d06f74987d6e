import Mathlib.Data.List.Nodup
import MediaMasterr.Database.Tables

/-! # What statements keep

The observations that results about the delete handlers make of the tables, and
what each shared statement does to them. -/

namespace MediaMasterr.Database.Tables

/-- A candidate with this primary key is there. -/
def HasCandidate (db : Tables) (id : Nat) : Prop := ∃ c ∈ db.candidates, c.id = id

/-- The series row is there and not marked as removed. -/
def SeriesInLibrary (db : Tables) (id : Nat) : Prop :=
  ∃ s, db.findSeries id = some s ∧ s.removedAt = none

/-- The movie row is there and not marked as removed. -/
def MovieInLibrary (db : Tables) (id : Nat) : Prop :=
  ∃ m, db.findMovie id = some m ∧ m.removedAt = none

/-- What the schema and the writers of candidates maintain: primary keys are distinct, and the
version that a candidate names belongs to the movie that it names. -/
structure Consistent (db : Tables) : Prop where
  candidateIds : (db.candidates.map ReclaimCandidate.id).Nodup
  versionIds : (db.movieVersions.map MovieVersion.id).Nodup
  candidateVersions : ∀ c ∈ db.candidates, ∀ v ∈ db.movieVersions,
    c.movieVersionId = some v.id → c.movieId = some v.movieId

theorem Consistent.version_ext {db : Tables} (h : db.Consistent) {v w : MovieVersion}
    (hv : v ∈ db.movieVersions) (hw : w ∈ db.movieVersions) (hid : v.id = w.id) : v = w :=
  List.inj_on_of_nodup_map h.versionIds hv hw hid

variable {db db' db'' : Tables} {now id key : Nat}

/-! ## Rows found by primary key -/

theorem find?_map_key {α : Type} (rowId : α → Nat) {f : α → α} (hf : ∀ a, rowId (f a) = rowId a)
    (rows : List α) (key : Nat) :
    (rows.map f).find? (rowId · == key) = (rows.find? (rowId · == key)).map f := by
  induction rows with
  | nil => rfl
  | cons a rows ih =>
    rw [List.map_cons, List.find?_cons, List.find?_cons, hf, ih]
    cases rowId a == key <;> rfl

theorem find?_key_of_mem {α : Type} {rowId : α → Nat} {rows : List α} {a : α}
    (hkeys : (rows.map rowId).Nodup) (ha : a ∈ rows) :
    rows.find? (rowId · == rowId a) = some a := by
  have hsome : (rows.find? (rowId · == rowId a)).isSome :=
    List.find?_isSome.mpr ⟨a, ha, by simp⟩
  obtain ⟨b, hfind⟩ := Option.isSome_iff_exists.mp hsome
  have hid : rowId b = rowId a := by simpa using List.find?_some hfind
  rw [hfind, List.inj_on_of_nodup_map hkeys (List.mem_of_find?_eq_some hfind) ha hid]

theorem findSeries_removeSeries : (db.removeSeries now key).findSeries id =
    (db.findSeries id).map fun s =>
      if s.id = key then { s with removedAt := some now, addedAt := none } else s :=
  find?_map_key Series.id (fun s => by split_ifs <;> rfl) _ _

theorem findMovie_removeMovie : (db.removeMovie now key).findMovie id =
    (db.findMovie id).map fun m =>
      if m.id = key then { m with removedAt := some now, addedAt := none } else m :=
  find?_map_key Movie.id (fun m => by split_ifs <;> rfl) _ _

theorem findSeries_id {s : Series} (h : db.findSeries id = some s) : s.id = id := by
  simpa using List.find?_some h

theorem findMovie_id {m : Movie} (h : db.findMovie id = some m) : m.id = id := by
  simpa using List.find?_some h

@[simp] theorem seriesInLibrary_removeSeries :
    (db.removeSeries now key).SeriesInLibrary id ↔ db.SeriesInLibrary id ∧ id ≠ key := by
  unfold SeriesInLibrary
  rw [findSeries_removeSeries]
  cases h : db.findSeries id with
  | none => simp
  | some s =>
    have hid := findSeries_id h
    by_cases hkey : id = key <;> simp [hid, hkey]

@[simp] theorem movieInLibrary_removeMovie :
    (db.removeMovie now key).MovieInLibrary id ↔ db.MovieInLibrary id ∧ id ≠ key := by
  unfold MovieInLibrary
  rw [findMovie_removeMovie]
  cases h : db.findMovie id with
  | none => simp
  | some m =>
    have hid := findMovie_id h
    by_cases hkey : id = key <;> simp [hid, hkey]

@[simp] theorem hasCandidate_deleteCandidate :
    (db.deleteCandidate key).HasCandidate id ↔ db.HasCandidate id ∧ id ≠ key := by
  constructor
  · rintro ⟨c, hc, rfl⟩
    simp only [deleteCandidate, List.mem_filter, decide_eq_true_eq] at hc
    exact ⟨⟨c, hc.1, rfl⟩, hc.2⟩
  · rintro ⟨⟨c, hc, rfl⟩, hne⟩
    exact ⟨c, by simp [deleteCandidate, hc, hne], rfl⟩

theorem findMovie_shrinkMovie {size : Nat} : (db.shrinkMovie key size).findMovie id =
    (db.findMovie id).map fun m =>
      if m.id = key then { m with size := m.size.map (· - size) } else m :=
  find?_map_key Movie.id (fun m => by split_ifs <;> rfl) _ _

@[simp] theorem movieInLibrary_shrinkMovie {size : Nat} :
    (db.shrinkMovie key size).MovieInLibrary id ↔ db.MovieInLibrary id := by
  unfold MovieInLibrary
  rw [findMovie_shrinkMovie]
  cases db.findMovie id with
  | none => simp
  | some m => by_cases hkey : m.id = key <;> simp [hkey]

/-! ## The soft removal of a movie -/

theorem softRemoveMovieIfEmpty_eq (db : Tables) (now key : Nat) :
    db.softRemoveMovieIfEmpty now key = db ∨
      db.softRemoveMovieIfEmpty now key = db.removeMovie now key := by
  unfold softRemoveMovieIfEmpty
  split_ifs <;> simp

@[simp] theorem softRemoveMovieIfEmpty_candidates :
    (db.softRemoveMovieIfEmpty now key).candidates = db.candidates := by
  rcases softRemoveMovieIfEmpty_eq db now key with h | h <;> simp [h, removeMovie]

@[simp] theorem softRemoveMovieIfEmpty_movieVersions :
    (db.softRemoveMovieIfEmpty now key).movieVersions = db.movieVersions := by
  rcases softRemoveMovieIfEmpty_eq db now key with h | h <;> simp [h, removeMovie]

@[simp] theorem softRemoveMovieIfEmpty_settings :
    (db.softRemoveMovieIfEmpty now key).settings = db.settings := by
  rcases softRemoveMovieIfEmpty_eq db now key with h | h <;> simp [h, removeMovie]

theorem findMovie_softRemoveMovieIfEmpty_isSome :
    ((db.softRemoveMovieIfEmpty now key).findMovie id).isSome = (db.findMovie id).isSome := by
  rcases softRemoveMovieIfEmpty_eq db now key with h | h <;> rw [h]
  rw [findMovie_removeMovie, Option.isSome_map]

theorem MovieInLibrary.softRemoveMovieIfEmpty (h : db.MovieInLibrary id) (hne : id ≠ key) :
    (db.softRemoveMovieIfEmpty now key).MovieInLibrary id := by
  rcases softRemoveMovieIfEmpty_eq db now key with heq | heq <;> rw [heq]
  · exact h
  · exact movieInLibrary_removeMovie.mpr ⟨h, hne⟩

/-! ## Deleting several candidates -/

@[simp] theorem foldl_deleteCandidate_candidates (ids : List Nat) (db : Tables) :
    (ids.foldl deleteCandidate db).candidates = db.candidates.filter (·.id ∉ ids) := by
  induction ids generalizing db with
  | nil => simp
  | cons id ids ih =>
    rw [List.foldl_cons, ih, deleteCandidate, List.filter_filter]
    congr 1
    ext c
    simp [Bool.and_comm]

/-- Deleting candidates changes no other table. -/
theorem foldl_deleteCandidate_eq (ids : List Nat) (db : Tables) :
    ids.foldl deleteCandidate db = { db with candidates :=
      (ids.foldl deleteCandidate db).candidates } := by
  induction ids generalizing db with
  | nil => rfl
  | cons id ids ih =>
    rw [List.foldl_cons, ih]
    rfl

/-! ## Settled requests -/

theorem mem_settleRequests {α : Type} {status : α → RequestStatus} {refers : α → Bool}
    {clear : α → α} {requests : List α} {r : α} (hr : r ∈ requests) (hrefers : refers r = false) :
    r ∈ settleRequests status refers clear requests :=
  List.mem_map.mpr ⟨r, List.mem_filter.mpr ⟨hr, by simp [hrefers]⟩, by simp [hrefers]⟩

/-- The pending requests that refer to a row are gone. -/
theorem notMem_settleRequests {α : Type} {status : α → RequestStatus} {refers : α → Bool}
    {clear : α → α} {requests : List α} {r : α} (hclear : ∀ r, refers (clear r) = false)
    (hrefers : refers r = true) : r ∉ settleRequests status refers clear requests := by
  intro hmem
  obtain ⟨r', -, rfl⟩ := List.mem_map.mp hmem
  by_cases hr' : refers r' = true
  · simp [hr', hclear] at hrefers
  · simp [hr'] at hrefers

/-! ## Marks -/

/-- `db'` differs from `db` in the delete-attempt columns of candidates and in the history
only. -/
def Marks (db db' : Tables) : Prop :=
  ∃ (f : ReclaimCandidate → ReclaimCandidate) (history : List ReclaimHistory),
    (∀ c, (f c).id = c.id ∧ (f c).target = c.target) ∧
      db' = { db with candidates := db.candidates.map f, history }

theorem Marks.refl (db : Tables) : Marks db db :=
  ⟨id, db.history, fun _ => ⟨rfl, rfl⟩, by simp⟩

theorem Marks.trans (h : Marks db db') (h' : Marks db' db'') : Marks db db'' := by
  obtain ⟨f, _, hf, rfl⟩ := h
  obtain ⟨g, history, hg, rfl⟩ := h'
  exact ⟨g ∘ f, history, fun c => ⟨(hg _).1.trans (hf c).1, (hg _).2.trans (hf c).2⟩, by simp⟩

theorem marks_history (db : Tables) (history : List ReclaimHistory) :
    Marks db { db with history } :=
  ⟨id, history, fun _ => ⟨rfl, rfl⟩, by simp⟩

theorem marks_foldl {τ : Type} {step : Tables → τ → Tables} (h : ∀ db t, Marks db (step db t))
    (ts : List τ) (db : Tables) : Marks db (ts.foldl step db) := by
  induction ts generalizing db with
  | nil => exact Marks.refl db
  | cons t ts ih => exact (h db t).trans (ih _)

theorem marks_markCandidateDeleteFailure (now id : Nat) (error : String) :
    Marks db (db.markCandidateDeleteFailure now id error) :=
  ⟨_, db.history, fun c => by split_ifs <;> exact ⟨rfl, rfl⟩, rfl⟩

theorem marks_markCandidateDeleteFailures (now : Nat) (ids : List Nat) (error : String) :
    Marks db (db.markCandidateDeleteFailures now ids error) :=
  marks_foldl (fun _ id => marks_markCandidateDeleteFailure now id error) _ db

theorem marks_markUnexplainedDeleteFailures (now : Nat) (ids : List Nat) (error : String) :
    Marks db (db.markUnexplainedDeleteFailures now ids error) :=
  marks_markCandidateDeleteFailures now _ error

theorem Marks.hasCandidate_iff (h : Marks db db') : db'.HasCandidate id ↔ db.HasCandidate id := by
  obtain ⟨f, -, hf, rfl⟩ := h
  simp [HasCandidate, hf]

theorem Marks.candidateIds_eq (h : Marks db db') :
    db'.candidates.map ReclaimCandidate.id = db.candidates.map ReclaimCandidate.id := by
  obtain ⟨f, -, hf, rfl⟩ := h
  rw [List.map_map]
  exact List.map_congr_left fun c _ => (hf c).1

theorem Marks.seriesInLibrary_iff (h : Marks db db') :
    db'.SeriesInLibrary id ↔ db.SeriesInLibrary id := by
  obtain ⟨-, -, -, rfl⟩ := h
  rfl

theorem Marks.movieInLibrary_iff (h : Marks db db') :
    db'.MovieInLibrary id ↔ db.MovieInLibrary id := by
  obtain ⟨-, -, -, rfl⟩ := h
  rfl

theorem Marks.movieVersions_eq (h : Marks db db') : db'.movieVersions = db.movieVersions := by
  obtain ⟨-, -, -, rfl⟩ := h
  rfl

end MediaMasterr.Database.Tables
