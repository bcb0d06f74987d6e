import MediaMasterr.Candidates.RetentionRanks
import MediaMasterr.Foundations.Maxima

/-! # Collection siblings

`_activate_collection_sibling_rule_data_for_rules`: for every movie the latest time
at which another movie of one of its collections was watched. The rows come in one
for each version of a movie, so that a movie can name a collection several times. -/

namespace MediaMasterr.Candidates

open MediaMasterr.Foundations MediaMasterr.RuleEngine

/-! ## The rows -/

/-- The columns of a movie that are read. -/
structure WatchedMovie where
  id : Nat
  lastViewedAt : Option PyDateTime := none
  removedAt : Option PyDateTime := none

/-- The columns of a movie version that are read. -/
structure CollectedVersion where
  movieId : Nat
  mediaServerCollectionNames : Option (List String) := none

/-- The rows of the query. -/
def siblingRows (movies : List WatchedMovie) (versions : List CollectedVersion) :
    List (WatchedMovie × CollectedVersion) :=
  (joinOn WatchedMovie.id CollectedVersion.movieId movies versions).filter (·.1.removedAt.isNone)

/-- `normalize_leaving_soon_collection_title`. -/
def normalizeLeavingSoonCollectionTitle : Option String → String
  | none => "Leaving Soon"
  | some value => if PythonText.strip value = "" then "Leaving Soon" else PythonText.strip value

section Names

variable (casefold : String → String)

/-- `_normalized_rule_collection_name`. -/
def normalizedRuleCollectionName (value : Option String) : Option String :=
  if value.getD "" = "" then none
  else some (casefold (normalizeLeavingSoonCollectionTitle value))

/-- The collection that a name stands for, if it counts. -/
def siblingCollection (name : String) : Option String :=
  (normalizedRuleCollectionName casefold (some name)).filter fun normalized =>
    normalized ≠ "" ∧
      some normalized ≠ normalizedRuleCollectionName casefold (some "Leaving Soon")

/-- `normalized_names`, as a list without repetitions. -/
def normalizedNames (names : Option (List String)) : List String :=
  ((names.getD []).filterMap (siblingCollection casefold)).eraseDups

/-! ## The index -/

/-- `movie_collections` and `collection_watch_dates`. -/
structure SiblingIndex where
  movieCollections : Dict Nat (List String) := ∅
  collectionWatchDates : Dict String (List (Nat × Int)) := ∅

/-- What the loop does with a row. -/
def SiblingIndex.addRow (index : SiblingIndex) (row : WatchedMovie × CollectedVersion) :
    SiblingIndex :=
  let names := normalizedNames casefold row.2.mediaServerCollectionNames
  if names = [] then index
  else
    let movieCollections :=
      names.foldl (fun d name => d.addTo row.1.id name) index.movieCollections
    match row.1.lastViewedAt with
    | none => { index with movieCollections }
    | some watchedAt =>
      { movieCollections
        collectionWatchDates :=
          names.foldl (fun d name => d.appendTo name (row.1.id, utcMicros watchedAt))
            index.collectionWatchDates }

def siblingIndex (rows : List (WatchedMovie × CollectedVersion)) : SiblingIndex :=
  rows.foldl (SiblingIndex.addRow casefold) {}

/-- `candidates`: the times at which the siblings of a movie were watched. -/
def SiblingIndex.candidates (index : SiblingIndex) (movieId : Nat) (names : List String) :
    List Int :=
  names.flatMap fun name =>
    ((index.collectionWatchDates.listAt name).filter (·.1 ≠ movieId)).map Prod.snd

/-- `latest_by_movie_id`. -/
def SiblingIndex.latestByMovieId (index : SiblingIndex) : Dict Nat (Option Int) :=
  index.movieCollections.entries.foldl
    (fun d entry => d.set entry.1 (index.candidates entry.1 entry.2).max?) ∅

/-! ## The resolver -/

structure CollectionSiblingRuleDataResolver where
  latestByMovieId : Dict Nat (Option Int) := ∅

/-- `latest`; the outer `none` is the unavailable value, the inner one `None`. -/
def CollectionSiblingRuleDataResolver.latest (resolver : CollectionSiblingRuleDataResolver)
    (movieId : Option Nat) : Option (Option Int) :=
  movieId.map fun id => (resolver.latestByMovieId.get? id).join

/-- `COLLECTION_RULE_FIELDS`. -/
def collectionRuleFields : List String :=
  ["collection.latest_sibling_watched_at", "collection.days_since_latest_sibling_watched"]

/-- `_activate_collection_sibling_rule_data_for_rules`: the resolver that it activates. -/
def activateCollectionSiblingRuleDataForRules (py : PythonRuntime) (rules : List DefinedRule)
    (rows : List (WatchedMovie × CollectedVersion)) : CollectionSiblingRuleDataResolver :=
  if !rulesUseAnyField py rules collectionRuleFields then {}
  else { latestByMovieId := (siblingIndex casefold rows).latestByMovieId }

end Names

/-! ## What the index holds -/

section Index

variable {casefold : String → String} {rows : List (WatchedMovie × CollectedVersion)}
variable {index : SiblingIndex} {row : WatchedMovie × CollectedVersion} {name : String} {id : Nat}

/-- The collections that a row names. -/
def rowNames (casefold : String → String) (row : WatchedMovie × CollectedVersion) : List String :=
  normalizedNames casefold row.2.mediaServerCollectionNames

theorem mem_setAt_addRow : name ∈ (index.addRow casefold row).movieCollections.setAt id ↔
    row.1.id = id ∧ name ∈ rowNames casefold row ∨ name ∈ index.movieCollections.setAt id := by
  have hfold (names : List String) (d : Dict Nat (List String)) :
      name ∈ (names.foldl (fun d name => d.addTo row.1.id name) d).setAt id ↔
        row.1.id = id ∧ name ∈ names ∨ name ∈ d.setAt id := by
    induction names generalizing d with
    | nil => simp
    | cons n names ih =>
      rw [List.foldl_cons, ih, Dict.mem_setAt_addTo, List.mem_cons]
      tauto
  unfold SiblingIndex.addRow
  dsimp only
  split_ifs with hnone
  · rw [rowNames, hnone]
    simp
  · cases row.1.lastViewedAt <;> exact hfold _ _

theorem mem_listAt_addRow {t : Int} :
    (id, t) ∈ (index.addRow casefold row).collectionWatchDates.listAt name ↔
      (row.1.id = id ∧ name ∈ rowNames casefold row ∧ row.1.lastViewedAt.map utcMicros = some t) ∨
        (id, t) ∈ index.collectionWatchDates.listAt name := by
  have hfold (watchedAt : Int) (names : List String) (d : Dict String (List (Nat × Int))) :
      (id, t) ∈ (names.foldl (fun d name => d.appendTo name (row.1.id, watchedAt)) d).listAt name ↔
        (row.1.id = id ∧ name ∈ names ∧ watchedAt = t) ∨ (id, t) ∈ d.listAt name := by
    induction names generalizing d with
    | nil => simp
    | cons n names ih =>
      rw [List.foldl_cons, ih, Dict.mem_listAt_appendTo, List.mem_cons, Prod.mk.injEq]
      tauto
  unfold SiblingIndex.addRow
  dsimp only
  split_ifs with hnone
  · rw [rowNames, hnone]
    simp
  · cases hviewed : row.1.lastViewedAt with
    | none => simp
    | some watchedAt =>
      dsimp only
      rw [hfold, Option.map_some, Option.some.injEq]
      rfl

theorem mem_setAt_siblingIndex : name ∈ (siblingIndex casefold rows).movieCollections.setAt id ↔
    ∃ row ∈ rows, row.1.id = id ∧ name ∈ rowNames casefold row := by
  induction rows using List.reverseRecOn with
  | nil => simp [siblingIndex, Dict.setAt]
  | append_singleton rows row ih =>
    rw [siblingIndex, List.foldl_concat, mem_setAt_addRow, ← siblingIndex, ih]
    simp only [List.mem_append, List.mem_singleton, or_and_right, exists_or, exists_eq_left]
    exact or_comm

theorem mem_listAt_siblingIndex {t : Int} :
    (id, t) ∈ (siblingIndex casefold rows).collectionWatchDates.listAt name ↔
      ∃ row ∈ rows, row.1.id = id ∧ name ∈ rowNames casefold row ∧
        row.1.lastViewedAt.map utcMicros = some t := by
  induction rows using List.reverseRecOn with
  | nil => simp [siblingIndex, Dict.listAt]
  | append_singleton rows row ih =>
    rw [siblingIndex, List.foldl_concat, mem_listAt_addRow, ← siblingIndex, ih]
    simp only [List.mem_append, List.mem_singleton, or_and_right, exists_or, exists_eq_left]
    exact or_comm

/-- What the resolver finds for a movie: the latest candidate under its collections. -/
theorem get?_latestByMovieId_join (index : SiblingIndex) (id : Nat) :
    (index.latestByMovieId.get? id).join =
      (index.candidates id (index.movieCollections.setAt id)).max? := by
  have hentries : index.latestByMovieId.get? id =
      (index.movieCollections.get? id).map fun names => (index.candidates id names).max? := by
    cases hget : index.movieCollections.get? id with
    | none =>
      refine Dict.get?_foldl_set_eq_none fun entry hentry hid => ?_
      rw [Dict.get?_eq_none_iff] at hget
      exact hget (List.mem_map.mpr ⟨entry, hentry, hid⟩)
    | some names =>
      have hmem := Dict.get?_eq_some_iff.mp hget
      refine Dict.get?_foldl_set_of_mem hmem rfl fun entry hentry hid => ?_
      rw [List.inj_on_of_nodup_map index.movieCollections.nodup hentry hmem hid]
  rw [hentries, Dict.setAt]
  cases index.movieCollections.get? id with
  | none => rfl
  | some names => rfl

end Index

/-! ## The latest sibling -/

section Latest

variable (casefold : String → String) (py : PythonRuntime) (rules : List DefinedRule)
variable (movies : List WatchedMovie) (versions : List CollectedVersion)
variable {rows : List (WatchedMovie × CollectedVersion)} {m : WatchedMovie}

/-- A movie is in a collection when one of its versions names it. -/
def InCollection (id : Nat) (name : String) : Prop :=
  ∃ version ∈ versions, version.movieId = id ∧
    ∃ raw ∈ version.mediaServerCollectionNames.getD [], siblingCollection casefold raw = some name

/-- The times at which other movies that share a collection with a movie were watched. -/
def siblingWatchTimes (m : WatchedMovie) : Set Int :=
  {t | ∃ n ∈ movies, n.removedAt = none ∧ n.id ≠ m.id ∧ n.lastViewedAt.map utcMicros = some t ∧
    ∃ name, InCollection casefold versions m.id name ∧ InCollection casefold versions n.id name}

theorem mem_rowNames {row : WatchedMovie × CollectedVersion} {name : String} :
    name ∈ rowNames casefold row ↔ ∃ raw ∈ row.2.mediaServerCollectionNames.getD [],
      siblingCollection casefold raw = some name := by
  simp [rowNames, normalizedNames]

theorem mem_candidates {index : SiblingIndex} {id : Nat} {names : List String} {t : Int} :
    t ∈ index.candidates id names ↔
      ∃ name ∈ names, ∃ sibling, sibling ≠ id ∧
        (sibling, t) ∈ index.collectionWatchDates.listAt name := by
  simp [SiblingIndex.candidates, and_comm]

theorem mem_siblingRows {row : WatchedMovie × CollectedVersion} :
    row ∈ siblingRows movies versions ↔ row.1 ∈ movies ∧ row.2 ∈ versions ∧
      row.2.movieId = row.1.id ∧ row.1.removedAt = none := by
  obtain ⟨n, version⟩ := row
  simp [siblingRows, and_assoc]

/-- The candidates of a movie are the watch times of its siblings, in whatever order and however
often the rows come in. -/
theorem mem_candidates_iff (hrows : ∀ row, row ∈ rows ↔ row ∈ siblingRows movies versions)
    (hm : m ∈ movies) (hpresent : m.removedAt = none) {t : Int} :
    t ∈ (siblingIndex casefold rows).candidates m.id
        ((siblingIndex casefold rows).movieCollections.setAt m.id) ↔
      t ∈ siblingWatchTimes casefold movies versions m := by
  simp only [mem_candidates, mem_setAt_siblingIndex, mem_listAt_siblingIndex, hrows,
    mem_siblingRows, mem_rowNames]
  constructor
  · rintro ⟨name, ⟨row, ⟨-, hversion, hmovie, -⟩, hid, hnames⟩, sibling, hne, row', hrow', rfl,
      hnames', ht⟩
    obtain ⟨hmem', hversion', hmovie', hpresent'⟩ := hrow'
    exact ⟨row'.1, hmem', hpresent', hne, ht, name, ⟨row.2, hversion, hmovie.trans hid, hnames⟩,
      row'.2, hversion', hmovie', hnames'⟩
  · rintro ⟨n, hn, hpresent', hne, ht, name, ⟨version, hversion, hmovie, hnames⟩, version',
      hversion', hmovie', hnames'⟩
    exact ⟨name, ⟨(m, version), ⟨hm, hversion, hmovie, hpresent⟩, rfl, hnames⟩, n.id, hne,
      (n, version'), ⟨hn, hversion', hmovie', hpresent'⟩, rfl, hnames', ht⟩

/-- For rules that ask for it, the resolver has for every movie that is not removed the latest
time at which another one of its collections was watched, or `None` when there is none. -/
theorem latest_activateCollectionSiblingRuleData
    (hrows : ∀ row, row ∈ rows ↔ row ∈ siblingRows movies versions) (hm : m ∈ movies)
    (hpresent : m.removedAt = none) :
    let resolver := activateCollectionSiblingRuleDataForRules casefold py rules rows
    (rulesUseAnyField py rules collectionRuleFields = true →
      (∀ t, resolver.latest (some m.id) = some (some t) ↔
        IsGreatest (siblingWatchTimes casefold movies versions m) t) ∧
      (resolver.latest (some m.id) = some none ↔
        siblingWatchTimes casefold movies versions m = ∅)) ∧
    (rulesUseAnyField py rules collectionRuleFields = false →
      resolver.latest (some m.id) = some none) := by
  have hcandidates : {t | t ∈ (siblingIndex casefold rows).candidates m.id
      ((siblingIndex casefold rows).movieCollections.setAt m.id)} =
        siblingWatchTimes casefold movies versions m := by
    ext t
    exact mem_candidates_iff casefold movies versions hrows hm hpresent
  constructor
  · intro huse
    have hlatest : (activateCollectionSiblingRuleDataForRules casefold py rules rows).latest
        (some m.id) = some ((siblingIndex casefold rows).candidates m.id
          ((siblingIndex casefold rows).movieCollections.setAt m.id)).max? := by
      rw [← get?_latestByMovieId_join]
      simp [activateCollectionSiblingRuleDataForRules, huse,
        CollectionSiblingRuleDataResolver.latest]
    rw [hlatest]
    refine ⟨fun t => ?_, ?_⟩
    · rw [Option.some.injEq, max?_eq_some_iff_isGreatest, hcandidates]
    · rw [Option.some.injEq, List.max?_eq_none_iff, ← hcandidates, Set.eq_empty_iff_forall_notMem,
        List.eq_nil_iff_forall_not_mem]
      rfl
  · intro hunused
    simp [activateCollectionSiblingRuleDataForRules, hunused,
      CollectionSiblingRuleDataResolver.latest]

end Latest

/-- A collection of two movies, each watched; one has two versions. -/
def siblingMovies : List WatchedMovie :=
  [{ id := 1, lastViewedAt := some ⟨9, none⟩ }, { id := 2, lastViewedAt := some ⟨5, none⟩ }]

def siblingVersions : List CollectedVersion :=
  [⟨1, some ["Alien", "Leaving Soon"]⟩, ⟨1, some [" alien "]⟩, ⟨2, some ["Alien"]⟩]

/-- Movies whose collection nobody watches. -/
def idleCollectionRule : DefinedRule where
  rule := { id := 1, mediaType := .movie }
  root := some (.condition "collection.latest_sibling_watched_at" "is_empty" .none)

/-- The own watch date of a movie does not count, although two of its versions are in the
collection. -/
theorem latest_activateCollectionSiblingRuleData_pair :
    IsGreatest (siblingWatchTimes PythonText.asciiLower siblingMovies siblingVersions
      { id := 1, lastViewedAt := some ⟨9, none⟩ }) 5 := by
  have h := latest_activateCollectionSiblingRuleData PythonText.asciiLower
    PythonRuntime.plainRuntime
    [idleCollectionRule] siblingMovies siblingVersions
    (fun row => (Iff.rfl : row ∈ siblingRows siblingMovies siblingVersions ↔ _)) (.head _) rfl
  have huse : rulesUseAnyField PythonRuntime.plainRuntime [idleCollectionRule]
      collectionRuleFields = true := by
    decide +kernel
  exact ((h.1 huse).1 5).mp (by decide +kernel)

end MediaMasterr.Candidates
