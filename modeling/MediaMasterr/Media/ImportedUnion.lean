import MediaMasterr.Media.PagedTotals

/-! # Imported filters in a selection

What a selection of imported filters stands for, the union of the filters with each one
on its own Arr instance, and when `apply_spec` selects it. The code applies the first
filter of the media type only, on the references of every instance, and reads an empty
list of ids as a name. -/

namespace MediaMasterr.Media

open MediaMasterr.Foundations MediaMasterr.Database MediaMasterr.RuleEngine

/-- A row of `query_filters`, with its user and the provider that it was imported from. -/
structure StoredFilter extends QueryFilter where
  userId : Option Nat := none
  readOnly : Bool := false
  providerService : Option Service := none
  providerConfigId : Option Nat := none
  providerFilterId : Option String := none

/-! ## Rows that statements admit -/

/-- The row meets every clause and has rows in every join. -/
def Statements.Admits (s : Statements) (row : MediaRow) : Prop :=
  s.query.Meets row ∧ ∀ j ∈ s.query.joins, j row ≠ []

theorem admits_filter_iff {s : Statements} {clause : MediaClause} {row : MediaRow} :
    (s.filter clause).Admits row ↔ s.Admits row ∧ clause row = some true := by
  simp only [Statements.Admits, Statements.filter, SelectStatement.filter, SelectStatement.Meets,
    List.forall_mem_append, List.forall_mem_singleton]
  exact and_right_comm

theorem admits_join_iff {s : Statements} {joined : MediaRow → List JoinedRow} {row : MediaRow} :
    (s.join joined).Admits row ↔ s.Admits row ∧ joined row ≠ [] := by
  simp only [Statements.Admits, Statements.join, SelectStatement.join, SelectStatement.distinct,
    SelectStatement.Meets, List.forall_mem_append, List.forall_mem_singleton]
  exact and_assoc.symm

/-- The second statements admit those rows of the first that meet the condition. -/
def Narrowed (C : MediaRow → Prop) (s s' : Statements) : Prop :=
  ∀ row, s'.Admits row ↔ s.Admits row ∧ C row

section Narrowed

variable {rt : QueryRuntime} {db : Tables} {now : Nat} {mediaType : MediaType}
  {C : MediaRow → Prop} {s s' : Statements}

theorem Narrowed.filter (h : Narrowed C s s') (clause : MediaClause) :
    Narrowed C (s.filter clause) (s'.filter clause) := fun row => by
  rw [admits_filter_iff, admits_filter_iff, h row]
  exact and_right_comm

theorem Narrowed.join (h : Narrowed C s s') (joined : MediaRow → List JoinedRow) :
    Narrowed C (s.join joined) (s'.join joined) := fun row => by
  rw [admits_join_iff, admits_join_iff, h row]
  exact and_right_comm

theorem Narrowed.applyCandidatesOnly (h : Narrowed C s s') (candidatesOnly : Bool) :
    Narrowed C (applyCandidatesOnly db mediaType candidatesOnly s)
      (Media.applyCandidatesOnly db mediaType candidatesOnly s') := by
  unfold Media.applyCandidatesOnly
  split_ifs
  · exact h.join _
  · exact h

theorem Narrowed.applySmartSearch (h : Narrowed C s s') (search : PyValue) :
    Narrowed C (applySmartSearch rt search s) (Media.applySmartSearch rt search s') := by
  unfold Media.applySmartSearch
  split
  · split_ifs
    · exact h
    · exact h.filter _
  · exact h

/-- The smart filters do the same to both statements. -/
theorem Narrowed.foldlM_applySmartFilter (h : Narrowed C s s') {smarts : List QueryFilter}
    {ids : List Int} {t : Statements} {ids' : List Int}
    (hrun : smarts.foldlM (applySmartFilter rt db mediaType) (s, ids) = .ok (t, ids')) :
    ∃ t', smarts.foldlM (applySmartFilter rt db mediaType) (s', ids) = .ok (t', ids') ∧
      Narrowed C t t' := by
  induction smarts generalizing s s' ids with
  | nil =>
    obtain ⟨rfl, rfl⟩ := Prod.mk.inj (Except.ok.inj hrun)
    exact ⟨s', rfl, h⟩
  | cons smart smarts ih =>
    rw [List.foldlM_cons] at hrun ⊢
    cases hdecision : payloadIds rt smart.definition "decision_filter_ids" with
    | error e => simp [applySmartFilter, hdecision, bind, Except.bind] at hrun
    | ok decisionIds =>
      cases harr : payloadIds rt smart.definition "arr_filter_ids" with
      | error e => simp [applySmartFilter, hdecision, harr, bind, Except.bind] at hrun
      | ok arrIds =>
        simp only [applySmartFilter, hdecision, harr, bind, Except.bind, pure, Except.pure]
          at hrun ⊢
        exact ih ((h.applySmartSearch _).applyCandidatesOnly _) hrun

theorem Narrowed.foldlM_applyDecisionFilter (h : Narrowed C s s') {decisions : List QueryFilter}
    {t : Statements}
    (hrun : decisions.foldlM (applyDecisionFilter rt db now mediaType) s = .ok t) :
    ∃ t', decisions.foldlM (applyDecisionFilter rt db now mediaType) s' = .ok t' ∧
      Narrowed C t t' := by
  induction decisions generalizing s s' with
  | nil =>
    obtain rfl := Except.ok.inj hrun
    exact ⟨s', rfl, h⟩
  | cons f decisions ih =>
    rw [List.foldlM_cons] at hrun ⊢
    cases hexpression : definitionExpression rt db now mediaType f.definition with
    | error e => simp [applyDecisionFilter, hexpression, Except.map, bind, Except.bind] at hrun
    | ok expression =>
      simp only [applyDecisionFilter, hexpression, Except.map, bind, Except.bind] at hrun ⊢
      cases expression with
      | none => exact ih h hrun
      | some expression => exact ih (h.filter expression) hrun

end Narrowed

/-! ## What a filter stands for -/

section Meaning

variable (rt : QueryRuntime) (db : Tables) (mediaType : MediaType)

/-- A list of ids, possibly empty. -/
def isIdList : PyValue → Bool
  | .list items => items.all fun item => (rt.int item).isSome
  | _ => false

mutual

/-- Somewhere in the mapping an id list stands under a direct key. -/
def carriesIdList : PyValue → Bool
  | .dict entries =>
    (directKeys mediaType).any (fun key => isIdList rt (entryOf entries key)) ||
      carriesIdListEntries entries
  | .list items => items.all isMapping && carriesIdListItems items
  | _ => false

def carriesIdListEntries : List (String × PyValue) → Bool
  | [] => false
  | (_, value) :: entries => carriesIdList value || carriesIdListEntries entries

def carriesIdListItems : List PyValue → Bool
  | [] => false
  | item :: items => carriesIdList item || carriesIdListItems items

end

/-- The ids that the definition of the filter lists, if it carries a list. -/
def explicitIds (f : QueryFilter) : Option (List Int) :=
  let ids := importedArrIds rt mediaType f
  if ids ≠ [] ∨ carriesIdList rt mediaType (entryOf f.definition "raw") then some ids else none

/-- The movie or series has an Arr reference with an id of the list. -/
def HasRef (ids : List Int) (row : MediaRow) (configs : Nat → Prop) : Prop :=
  match mediaType with
  | .movie => ∃ ref ∈ db.movieArrRefs, ref.movieId = row.id ∧ configs ref.serviceConfigId ∧
      (ref.arrMovieId : Int) ∈ ids
  | .series => ∃ ref ∈ db.seriesArrRefs, ref.seriesId = row.id ∧ configs ref.serviceConfigId ∧
      (ref.arrSeriesId : Int) ∈ ids

/-- Every word of the name is a tag of the row or in its title. -/
def MatchesName (f : QueryFilter) (row : MediaRow) : Prop :=
  ∀ token ∈ (textTokens rt f.name).filter (3 ≤ ·.length),
    arrTagClause rt token row = some true ∨ titleClause rt ("%" ++ token ++ "%") row = some true

/-- The row passes the filter: on the references of the filter's own instance when its definition
carries ids, otherwise by its name. -/
def Passes (f : StoredFilter) (row : MediaRow) : Prop :=
  match explicitIds rt mediaType f.toQueryFilter with
  | some ids => HasRef db mediaType ids row fun config => f.providerConfigId = some config
  | none => MatchesName rt f.toQueryFilter row

/-- The row passes the filter as the code applies it: on the references of every instance, and by
its name when no ids are found. -/
def LetsThrough (f : QueryFilter) (row : MediaRow) : Prop :=
  if importedArrIds rt mediaType f ≠ [] then
    HasRef db mediaType (importedArrIds rt mediaType f) row fun _ => True
  else MatchesName rt f row

end Meaning

section Selection

variable (rt : QueryRuntime) (db : Tables) (filters : List StoredFilter) (now : Nat)
  (spec : QueryEngineSpec)

def queryFilters : List QueryFilter := filters.map (·.toQueryFilter)

/-- The imported filters that the smart filters select. -/
def smartArrIds : List Int :=
  (enabledFilters (queryFilters filters) "smart" spec.smartFilterIds).flatMap fun smart =>
    match payloadIds rt smart.definition "arr_filter_ids" with
    | .ok ids => ids
    | .error _ => []

/-- The ids of imported filters that are selected, directly or through a smart filter. -/
def selectedIds : List Int := spec.importedFilterIds ++ smartArrIds rt filters spec

/-- The enabled filters of the media type that are selected. -/
def selectedFilters : List StoredFilter :=
  filters.filter fun f => (f.id : Int) ∈ selectedIds rt filters spec ∧ f.kind = "imported_arr" ∧
    f.enabled ∧ f.mediaType = some spec.mediaType

/-- Nothing is selected, or the row passes a filter that is. -/
def PassesSelection (row : MediaRow) : Prop :=
  selectedIds rt filters spec = [] ∨
    ∃ f ∈ selectedFilters rt filters spec, Passes rt db spec.mediaType f row

/-- `apply_spec` selects, of the rows that pass the other filters, those that pass the selection,
whatever the order of the ids. -/
def CombinesImported (table : List MediaRow) (s : Statements) : Prop :=
  ∀ others, applySpec rt db (queryFilters filters) now { spec with importedFilterIds := [] } s =
      .ok others →
    ∃ combined, applySpec rt db (queryFilters filters) now spec s = .ok combined ∧
      (∀ row, row ∈ combined.query.rows table ↔
        row ∈ others.query.rows table ∧ PassesSelection rt db filters spec row) ∧
      ∀ ids, ids.Perm spec.importedFilterIds →
        applySpec rt db (queryFilters filters) now { spec with importedFilterIds := ids } s =
          .ok combined

/-- What the code asks of a row. -/
def MeetsImported (row : MediaRow) : Prop :=
  match appliedImport (queryFilters filters) spec.mediaType spec.importedFilterIds with
  | some f => LetsThrough rt db spec.mediaType f row
  | none => enabledFilters (queryFilters filters) "imported_arr" spec.importedFilterIds = []

variable {rt db filters now spec} {s : Statements} {row : MediaRow}

theorem arrRefRelation_ne_nil_iff {mediaType : MediaType} {ids : List Int} :
    arrRefRelation db mediaType ids row ≠ [] ↔ HasRef db mediaType ids row fun _ => True := by
  cases mediaType with
  | movie => simp [arrRefRelation, HasRef]
  | series => simp [arrRefRelation, HasRef]

theorem admits_applyImportedFilter_iff {mediaType : MediaType} {f : QueryFilter} :
    (applyImportedFilter rt db mediaType s f).Admits row ↔
      s.Admits row ∧ LetsThrough rt db mediaType f row := by
  unfold applyImportedFilter LetsThrough
  split_ifs with hids
  · rw [admits_join_iff, arrRefRelation_ne_nil_iff]
  · simp only
    split_ifs with htokens
    · rw [admits_filter_iff, ThreeValued.conj_eq_true_iff, List.forall_mem_map]
      simp only [ThreeValued.disj_eq_true_iff, List.mem_cons, List.not_mem_nil, or_false,
        eq_comm (a := some true), MatchesName]
    · rw [not_not] at htokens
      simp [MatchesName, htokens]

theorem applyImported_nil (s : Statements) :
    applyImported rt db (queryFilters filters) spec.mediaType [] s = s := by
  simp [applyImported, enabledFilters]

/-- The imported filters narrow what the rest of `apply_spec` is given. -/
theorem narrowed_applyImported :
    Narrowed (MeetsImported rt db filters spec) s
      (applyImported rt db (queryFilters filters) spec.mediaType spec.importedFilterIds s) := by
  intro row
  unfold applyImported MeetsImported appliedImport
  simp only
  cases (enabledFilters (queryFilters filters) "imported_arr" spec.importedFilterIds).filter
      (·.mediaType = some spec.mediaType) with
  | nil =>
    simp only [List.head?_nil]
    split_ifs with hnone
    · simp [List.isEmpty_iff.mp hnone]
    · rw [admits_filter_iff]
      simp [List.isEmpty_iff] at hnone
      simp [hnone]
  | cons first rest => exact admits_applyImportedFilter_iff

theorem exists_applySpec {others : Statements}
    (hothers : applySpec rt db (queryFilters filters) now { spec with importedFilterIds := [] } s =
      .ok others) :
    ∃ combined, applySpec rt db (queryFilters filters) now spec s = .ok combined ∧
      Narrowed (MeetsImported rt db filters spec) others combined := by
  have hplain : applyPlain rt db (queryFilters filters) spec s =
      applyImported rt db (queryFilters filters) spec.mediaType spec.importedFilterIds
        (applyPlain rt db (queryFilters filters) { spec with importedFilterIds := [] } s) := by
    rw [applyPlain, applyPlain, applyImported_nil]
  unfold applySpec at hothers ⊢
  rw [hplain]
  cases hsmart : (enabledFilters (queryFilters filters) "smart" spec.smartFilterIds).foldlM
      (applySmartFilter rt db spec.mediaType)
      (applyPlain rt db (queryFilters filters) { spec with importedFilterIds := [] } s,
        spec.decisionFilterIds) with
  | error e => simp [hsmart, bind, Except.bind] at hothers
  | ok state =>
    obtain ⟨t, ids⟩ := state
    simp only [hsmart, bind, Except.bind] at hothers
    obtain ⟨t', hsmart', hnarrowed⟩ := narrowed_applyImported.foldlM_applySmartFilter hsmart
    obtain ⟨combined, hcombined, hnarrowed⟩ := hnarrowed.foldlM_applyDecisionFilter hothers
    refine ⟨combined, ?_, hnarrowed⟩
    rw [hsmart']
    exact hcombined

theorem enabledFilters_perm {ids ids' : List Int} (h : ids.Perm ids') (all : List QueryFilter)
    (kind : String) : enabledFilters all kind ids = enabledFilters all kind ids' :=
  List.filter_congr fun f _ => by simp [h.mem_iff]

theorem applySpec_perm {ids : List Int} (h : ids.Perm spec.importedFilterIds)
    (all : List QueryFilter) :
    applySpec rt db all now { spec with importedFilterIds := ids } s =
      applySpec rt db all now spec s := by
  have himported (t : Statements) : applyImported rt db all spec.mediaType ids t =
      applyImported rt db all spec.mediaType spec.importedFilterIds t := by
    rw [applyImported, applyImported, enabledFilters_perm h]
  unfold applySpec applyPlain
  rw [himported]

end Selection

/-! ## Agreement -/

section Agreement

variable (rt : QueryRuntime) (db : Tables) (filters : List StoredFilter) (now : Nat)
  (spec : QueryEngineSpec)

/-- The code and the selection agree on a row. Without an enabled filter that is selected directly
the code does not restrict the rows; when these are all for the other media type it lets none
through; otherwise the first for the media type decides. -/
structure ImportsAgree (row : MediaRow) : Prop where
  unrestricted : enabledFilters (queryFilters filters) "imported_arr" spec.importedFilterIds = [] →
    PassesSelection rt db filters spec row
  foreign : enabledFilters (queryFilters filters) "imported_arr" spec.importedFilterIds ≠ [] →
    appliedImport (queryFilters filters) spec.mediaType spec.importedFilterIds = none →
      ∀ g ∈ selectedFilters rt filters spec, ¬Passes rt db spec.mediaType g row
  lost : ∀ f, appliedImport (queryFilters filters) spec.mediaType spec.importedFilterIds = some f →
    ∀ g ∈ selectedFilters rt filters spec, Passes rt db spec.mediaType g row →
      LetsThrough rt db spec.mediaType f row
  stranger : ∀ f,
    appliedImport (queryFilters filters) spec.mediaType spec.importedFilterIds = some f →
      LetsThrough rt db spec.mediaType f row →
        ∃ g ∈ selectedFilters rt filters spec, Passes rt db spec.mediaType g row

variable {rt db filters now spec} {row : MediaRow}

theorem selectedIds_ne_nil
    (h : enabledFilters (queryFilters filters) "imported_arr" spec.importedFilterIds ≠ []) :
    selectedIds rt filters spec ≠ [] := by
  obtain ⟨f, hf⟩ := List.exists_mem_of_ne_nil _ h
  have hid := (of_decide_eq_true (List.mem_filter.mp hf).2).1
  exact List.ne_nil_of_mem (List.mem_append_left _ hid)

theorem appliedImport_eq_none
    (h : enabledFilters (queryFilters filters) "imported_arr" spec.importedFilterIds = []) :
    appliedImport (queryFilters filters) spec.mediaType spec.importedFilterIds = none := by
  rw [appliedImport, h]
  rfl

theorem meetsImported_iff_passesSelection :
    (MeetsImported rt db filters spec row ↔ PassesSelection rt db filters spec row) ↔
      ImportsAgree rt db filters spec row := by
  by_cases hnone : enabledFilters (queryFilters filters) "imported_arr" spec.importedFilterIds = []
  · have happlied := appliedImport_eq_none hnone
    rw [MeetsImported, happlied]
    simp only [hnone, true_iff]
    constructor
    · intro h
      exact ⟨fun _ => h, fun hne => absurd hnone hne, fun f hf => by simp [happlied] at hf,
        fun f hf => by simp [happlied] at hf⟩
    · intro h
      exact h.unrestricted hnone
  · have hpasses : PassesSelection rt db filters spec row ↔
        ∃ g ∈ selectedFilters rt filters spec, Passes rt db spec.mediaType g row :=
      or_iff_right (selectedIds_ne_nil hnone)
    rw [hpasses]
    cases happlied : appliedImport (queryFilters filters) spec.mediaType spec.importedFilterIds with
    | none =>
      rw [MeetsImported, happlied]
      simp only [hnone, false_iff]
      constructor
      · intro h
        exact ⟨fun hnil => absurd hnil hnone, fun _ _ g hg hpass => h ⟨g, hg, hpass⟩,
          fun f hf => by simp [happlied] at hf, fun f hf => by simp [happlied] at hf⟩
      · rintro h ⟨g, hg, hpass⟩
        exact h.foreign hnone happlied g hg hpass
    | some first =>
      rw [MeetsImported, happlied]
      simp only
      constructor
      · intro h
        refine ⟨fun hnil => absurd hnil hnone, fun _ hnil => by simp [happlied] at hnil, ?_, ?_⟩
        · rintro f hf g hg hpass
          obtain rfl := Option.some.inj (happlied.symm.trans hf)
          exact h.mpr ⟨g, hg, hpass⟩
        · rintro f hf hthrough
          obtain rfl := Option.some.inj (happlied.symm.trans hf)
          exact h.mp hthrough
      · intro h
        constructor
        · exact h.stranger first happlied
        · rintro ⟨g, hg, hpass⟩
          exact h.lost first happlied g hg hpass

theorem mem_rows_iff_admits {s : Statements} {table : List MediaRow} :
    row ∈ s.query.rows table ↔ row ∈ table ∧ s.Admits row := SelectStatement.mem_rows_iff _ _

/-- The imported filters that are selected combine as a union, each on its own instance, exactly
when on every row that passes the other filters the first filter of the media type, on the
references of every instance and with an empty list read as a name, agrees with that union. -/
theorem combinesImported_iff (rt : QueryRuntime) (db : Tables) (filters : List StoredFilter)
    (now : Nat) (spec : QueryEngineSpec) (table : List MediaRow) (s : Statements) :
    CombinesImported rt db filters now spec table s ↔
      ∀ others, applySpec rt db (queryFilters filters) now { spec with importedFilterIds := [] } s =
          .ok others →
        ∀ row ∈ others.query.rows table, ImportsAgree rt db filters spec row := by
  constructor
  · intro h others hothers row hrow
    obtain ⟨combined, hcombined, hrows, -⟩ := h others hothers
    obtain ⟨combined', hcombined', hnarrowed⟩ := exists_applySpec hothers
    obtain rfl := Except.ok.inj (hcombined.symm.trans hcombined')
    obtain ⟨hmem, hadmits⟩ := mem_rows_iff_admits.mp hrow
    have hsame := hrows row
    rw [mem_rows_iff_admits, hnarrowed row, and_iff_right hmem, and_iff_right hadmits,
      and_iff_right hrow] at hsame
    exact meetsImported_iff_passesSelection.mp hsame
  · intro h others hothers
    obtain ⟨combined, hcombined, hnarrowed⟩ := exists_applySpec hothers
    refine ⟨combined, hcombined, fun row => ?_, fun ids hids => ?_⟩
    · rw [mem_rows_iff_admits, hnarrowed row, ← and_assoc, ← mem_rows_iff_admits]
      exact and_congr_right fun hrow =>
        meetsImported_iff_passesSelection.mpr (h others hothers row hrow)
    · rw [applySpec_perm hids, hcombined]

end Agreement

/-! ## Two filters of one instance -/

/-- The first movie is in the first list and the second movie in the second. -/
def twoLists : List StoredFilter :=
  [{ id := 1, name := "Marvel", kind := "imported_arr", mediaType := some .movie,
     providerConfigId := some 1,
     definition := [("raw", .dict [("movieIds", .list [.int ⟨101, by decide +kernel⟩])])] },
   { id := 2, name := "Horror", kind := "imported_arr", mediaType := some .movie,
     providerConfigId := some 1,
     definition := [("raw", .dict [("movieIds", .list [.int ⟨202, by decide +kernel⟩])])] }]

def twoMovies : Tables where
  movies := [{ id := 1, tmdbId := 1, title := "First" },
    { id := 2, tmdbId := 2, title := "Second" }]
  movieArrRefs := [{ id := 1, movieId := 1, serviceConfigId := 1, arrMovieId := 101 },
    { id := 2, movieId := 2, serviceConfigId := 1, arrMovieId := 202 }]

def bothLists : QueryEngineSpec := { mediaType := .movie, importedFilterIds := [1, 2] }

/-- The second movie is lost, as only the first filter is applied. -/
theorem not_combinesImported_bothLists :
    ¬CombinesImported asciiQueryRuntime twoMovies twoLists 0 bothLists
      (LibraryColumns.mediaTable {} twoMovies .movie) listingStart := by
  intro h
  have hothers : applySpec asciiQueryRuntime twoMovies (queryFilters twoLists) 0
    { bothLists with importedFilterIds := [] } listingStart = .ok listingStart := rfl
  obtain ⟨combined, hcombined, hrows, -⟩ := h listingStart hothers
  obtain ⟨combined', hcombined', hnarrowed⟩ := exists_applySpec hothers
  obtain rfl := Except.ok.inj (hcombined.symm.trans hcombined')
  have hpasses : PassesSelection asciiQueryRuntime twoMovies twoLists bothLists
      { id := 2, title := "Second" } :=
    .inr ⟨twoLists[1], List.mem_filter.mpr ⟨List.getElem_mem _, by decide⟩,
      twoMovies.movieArrRefs[1], List.getElem_mem _, rfl, rfl, by decide⟩
  have hselected : ({ id := 2, title := "Second" } : MediaRow) ∈
      combined.query.rows (LibraryColumns.mediaTable {} twoMovies .movie) :=
    (hrows _).mpr ⟨by decide, hpasses⟩
  have hmeets := ((hnarrowed _).mp (mem_rows_iff_admits.mp hselected).2).2
  obtain ⟨ref, href, hid, -, hlisted⟩ := hmeets
  have hother : ∀ ref ∈ twoMovies.movieArrRefs, ref.movieId = 2 → ((ref.arrMovieId : Nat) : Int) ∉
      importedArrIds asciiQueryRuntime .movie twoLists[0].toQueryFilter := by decide
  exact hother ref href hid hlisted

end MediaMasterr.Media
