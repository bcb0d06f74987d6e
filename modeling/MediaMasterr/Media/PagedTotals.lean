import MediaMasterr.Media.QueryEngine

/-! # Totals and pages

When the total of a listing is the number of rows that its pages share. Both
statements take the same clauses and joins, but a row is counted once for every
choice of the rows joined to it. -/

namespace MediaMasterr.Media

open MediaMasterr.Foundations MediaMasterr.Database MediaMasterr.RuleEngine

/-! ## The joins of the statements -/

/-- Both statements are the same, and their joins are those with the property. -/
structure Assembled (s : Statements) (joined : (MediaRow → List JoinedRow) → Prop) : Prop where
  parallel : s.countQuery = s.query
  joins : ∀ j, j ∈ s.query.joins ↔ joined j

section Assembled

variable {s : Statements} {joined : (MediaRow → List JoinedRow) → Prop}

theorem Assembled.congr (h : Assembled s joined) {joined' : (MediaRow → List JoinedRow) → Prop}
    (hsame : ∀ j, joined j ↔ joined' j) : Assembled s joined' :=
  ⟨h.parallel, fun j => (h.joins j).trans (hsame j)⟩

theorem Assembled.filter (h : Assembled s joined) (clause : MediaClause) :
    Assembled (s.filter clause) joined where
  parallel := congrArg (·.filter clause) h.parallel
  joins := h.joins

theorem Assembled.join (h : Assembled s joined) (relation : MediaRow → List JoinedRow) :
    Assembled (s.join relation) fun j => joined j ∨ j = relation where
  parallel := congrArg (fun q => (q.join relation).distinct) h.parallel
  joins := fun j => by
    rw [← h.joins]
    exact List.mem_append.trans (or_congr_right List.mem_singleton)

end Assembled

section Joins

variable (rt : QueryRuntime) (db : Tables) (filters : List QueryFilter) (now : Nat)
  (mediaType : MediaType)

/-- The imported filter that is applied. -/
def appliedImport (ids : List Int) : Option QueryFilter :=
  ((enabledFilters filters "imported_arr" ids).filter (·.mediaType = some mediaType)).head?

/-- The relations that `apply_spec` joins to the movies or series. -/
inductive JoinedBySpec (spec : QueryEngineSpec) : (MediaRow → List JoinedRow) → Prop
  | candidatesOnly (h : spec.candidatesOnly = true) :
    JoinedBySpec spec (candidateRelation db spec.mediaType)
  | smart (f : QueryFilter) (hf : f ∈ enabledFilters filters "smart" spec.smartFilterIds)
    (h : (entryOf f.definition "candidates_only").truthy = true) :
    JoinedBySpec spec (candidateRelation db spec.mediaType)
  | arrRefs (f : QueryFilter)
    (hf : appliedImport filters spec.mediaType spec.importedFilterIds = some f)
    (h : importedArrIds rt spec.mediaType f ≠ []) :
    JoinedBySpec spec (arrRefRelation db spec.mediaType (importedArrIds rt spec.mediaType f))

/-- The relations that a request joins. -/
inductive JoinedBy (request : ListingRequest) : (MediaRow → List JoinedRow) → Prop
  | spec (j : MediaRow → List JoinedRow)
    (h : JoinedBySpec rt db filters (listingSpec filters mediaType request) j) : JoinedBy request j
  | safeToDelete (h : request.decisionState = some "safe_to_delete") :
    JoinedBy request (candidateRelation db mediaType)
  | protections (h : request.decisionState = some "protected") :
    JoinedBy request (protectionRelation db mediaType)
  | waiting (h : request.decisionState = some "waiting") :
    JoinedBy request (pendingRelation db mediaType)

variable {rt db filters now mediaType} {s : Statements}
  {joined : (MediaRow → List JoinedRow) → Prop}

theorem assembled_applySearch (h : Assembled s joined) (search : Option String) :
    Assembled (applySearch rt search s) joined := by
  unfold applySearch
  split
  · exact h
  · split_ifs
    · exact h
    · exact h.filter _

theorem assembled_applyCandidatesOnly (h : Assembled s joined) (candidatesOnly : Bool) :
    Assembled (applyCandidatesOnly db mediaType candidatesOnly s) fun j =>
      joined j ∨ (candidatesOnly = true ∧ j = candidateRelation db mediaType) := by
  unfold applyCandidatesOnly
  split_ifs with honly
  · exact (h.join _).congr fun j => by simp [honly]
  · exact h.congr fun j => by simp [honly]

theorem assembled_applyMonitored (h : Assembled s joined) (monitored : Option Bool) :
    Assembled (applyMonitored monitored s) joined := by
  unfold applyMonitored
  split
  · exact h
  · exact h.filter _

theorem assembled_applyStatus (h : Assembled s joined) (mediaStatus : Option String) :
    Assembled (applyStatus rt mediaStatus s) joined := by
  unfold applyStatus
  simp only
  split_ifs
  · exact h
  · exact h.filter _

theorem assembled_applyImportedFilter (h : Assembled s joined) (f : QueryFilter) :
    Assembled (applyImportedFilter rt db mediaType s f) fun j => joined j ∨
      (importedArrIds rt mediaType f ≠ [] ∧
        j = arrRefRelation db mediaType (importedArrIds rt mediaType f)) := by
  unfold applyImportedFilter
  by_cases hids : importedArrIds rt mediaType f ≠ []
  · rw [if_pos hids]
    exact (h.join _).congr fun j => by simp [hids]
  · rw [if_neg hids]
    have hsame : ∀ j, joined j ↔ joined j ∨ (importedArrIds rt mediaType f ≠ [] ∧
        j = arrRefRelation db mediaType (importedArrIds rt mediaType f)) := fun j => by simp [hids]
    simp only
    split_ifs
    · exact (h.filter _).congr hsame
    · exact h.congr hsame

theorem assembled_applyImported (h : Assembled s joined) (ids : List Int) :
    Assembled (applyImported rt db filters mediaType ids s) fun j => joined j ∨
      ∃ f, appliedImport filters mediaType ids = some f ∧ importedArrIds rt mediaType f ≠ [] ∧
        j = arrRefRelation db mediaType (importedArrIds rt mediaType f) := by
  unfold applyImported appliedImport
  simp only
  cases (enabledFilters filters "imported_arr" ids).filter (·.mediaType = some mediaType) with
  | nil =>
    simp only [List.head?_nil, reduceCtorEq, false_and, exists_false, or_false]
    split_ifs
    · exact h
    · exact h.filter _
  | cons first rest => exact (assembled_applyImportedFilter h first).congr fun j => by simp

theorem assembled_applySmartSearch (h : Assembled s joined) (search : PyValue) :
    Assembled (applySmartSearch rt search s) joined := by
  unfold applySmartSearch
  split
  · split_ifs
    · exact h
    · exact h.filter _
  · exact h

theorem assembled_applySmartFilter {state state' : Statements × List Int}
    (h : Assembled state.1 joined)
    {smart : QueryFilter} (hrun : applySmartFilter rt db mediaType state smart = .ok state') :
    Assembled state'.1 fun j => joined j ∨
      ((entryOf smart.definition "candidates_only").truthy = true ∧
        j = candidateRelation db mediaType) := by
  unfold applySmartFilter at hrun
  cases hdecision : payloadIds rt smart.definition "decision_filter_ids" with
  | error e => simp [hdecision, bind, Except.bind] at hrun
  | ok decisionIds =>
    cases harr : payloadIds rt smart.definition "arr_filter_ids" with
    | error e => simp [hdecision, harr, bind, Except.bind] at hrun
    | ok arrIds =>
      simp only [hdecision, harr, bind, Except.bind, pure, Except.pure, Except.ok.injEq] at hrun
      subst hrun
      exact assembled_applyCandidatesOnly (assembled_applySmartSearch h _) _

/-- The smart filters of a run join the candidates when one of them asks for candidates only. -/
theorem assembled_foldlM_applySmartFilter {state state' : Statements × List Int}
    (h : Assembled state.1 joined) {smarts : List QueryFilter}
    (hrun : smarts.foldlM (applySmartFilter rt db mediaType) state = .ok state') :
    Assembled state'.1 fun j => joined j ∨ ∃ smart ∈ smarts,
      (entryOf smart.definition "candidates_only").truthy = true ∧
        j = candidateRelation db mediaType := by
  induction smarts generalizing state joined with
  | nil =>
    obtain rfl := Except.ok.inj hrun
    exact h.congr fun j => by simp
  | cons smart smarts ih =>
    rw [List.foldlM_cons] at hrun
    cases hstep : applySmartFilter rt db mediaType state smart with
    | error e => simp [hstep, bind, Except.bind] at hrun
    | ok next =>
      simp only [hstep, bind, Except.bind] at hrun
      refine (ih (assembled_applySmartFilter h hstep) hrun).congr fun j => ?_
      simp only [List.mem_cons, exists_eq_or_imp, or_assoc]

theorem assembled_foldlM_applyDecisionFilter {s' : Statements} (h : Assembled s joined)
    {decisions : List QueryFilter}
    (hrun : decisions.foldlM (applyDecisionFilter rt db now mediaType) s = .ok s') :
    Assembled s' joined := by
  induction decisions generalizing s with
  | nil =>
    obtain rfl := Except.ok.inj hrun
    exact h
  | cons f decisions ih =>
    rw [List.foldlM_cons] at hrun
    cases hexpression : definitionExpression rt db now mediaType f.definition with
    | error e => simp [applyDecisionFilter, hexpression, Except.map, bind, Except.bind] at hrun
    | ok expression =>
      simp only [applyDecisionFilter, hexpression, Except.map, bind, Except.bind] at hrun
      cases expression with
      | none => exact ih h hrun
      | some expression => exact ih (h.filter expression) hrun

theorem assembled_applyLegacyDecisionState (h : Assembled s joined)
    (decisionState : Option String) :
    Assembled (applyLegacyDecisionState db now mediaType decisionState s) fun j => joined j ∨
      (decisionState = some "safe_to_delete" ∧ j = candidateRelation db mediaType) ∨
      (decisionState = some "protected" ∧ j = protectionRelation db mediaType) ∨
      (decisionState = some "waiting" ∧ j = pendingRelation db mediaType) := by
  unfold applyLegacyDecisionState
  split
  · exact (h.join _).congr fun j => by simp
  · exact (h.join _).congr fun j => by simp
  · exact (h.join _).congr fun j => by simp
  · exact ((h.filter _).filter _).congr fun j => by simp
  · exact ((h.filter _).filter _).congr fun j => by simp
  · rename_i hsafe hprotected hwaiting _ _
    exact h.congr fun j => by simp_all

theorem assembled_listingStart : Assembled listingStart fun _ => False :=
  ⟨rfl, fun _ => by simp [listingStart]⟩

theorem assembled_applyPlain {spec : QueryEngineSpec} (h : Assembled s joined) :
    Assembled (applyPlain rt db filters spec s) fun j =>
      (joined j ∨ (spec.candidatesOnly = true ∧ j = candidateRelation db spec.mediaType)) ∨
        ∃ f, appliedImport filters spec.mediaType spec.importedFilterIds = some f ∧
          importedArrIds rt spec.mediaType f ≠ [] ∧
          j = arrRefRelation db spec.mediaType (importedArrIds rt spec.mediaType f) :=
  assembled_applyImported (assembled_applyStatus (assembled_applyMonitored
    (assembled_applyCandidatesOnly (assembled_applySearch h _) _) _) _) _

theorem assembled_applySpec {spec : QueryEngineSpec} {s' : Statements}
    (h : Assembled s fun _ => False)
    (hrun : applySpec rt db filters now spec s = .ok s') :
    Assembled s' (JoinedBySpec rt db filters spec) := by
  unfold applySpec at hrun
  cases hsmart : (enabledFilters filters "smart" spec.smartFilterIds).foldlM
      (applySmartFilter rt db spec.mediaType)
      (applyPlain rt db filters spec s, spec.decisionFilterIds) with
  | error e => simp [hsmart, bind, Except.bind] at hrun
  | ok state =>
    simp only [hsmart, bind, Except.bind] at hrun
    have hsmarts := assembled_foldlM_applySmartFilter (assembled_applyPlain h) hsmart
    refine (assembled_foldlM_applyDecisionFilter hsmarts hrun).congr fun j => ?_
    constructor
    · rintro (((h | ⟨honly, rfl⟩) | ⟨f, hf, hids, rfl⟩) | ⟨f, hf, honly, rfl⟩)
      · exact h.elim
      · exact .candidatesOnly honly
      · exact .arrRefs f hf hids
      · exact .smart f hf honly
    · rintro (honly | ⟨f, hf, honly⟩ | ⟨f, hf, hids⟩)
      · exact Or.inl (Or.inl (Or.inr ⟨honly, rfl⟩))
      · exact Or.inr ⟨f, hf, honly, rfl⟩
      · exact Or.inl (Or.inr ⟨f, hf, hids, rfl⟩)

/-- Both statements of a listing are the same, with the joins that the request asks for. -/
theorem assembled_listingStatements {request : ListingRequest}
    (hrun : listingStatements rt db filters now mediaType request = .ok s) :
    Assembled s (JoinedBy rt db filters mediaType request) := by
  unfold listingStatements at hrun
  cases hspec : applySpec rt db filters now
    (listingSpec filters mediaType request) listingStart with
  | error e => simp [hspec, Except.map] at hrun
  | ok s' =>
    simp only [hspec, Except.map, Except.ok.injEq] at hrun
    subst hrun
    have hassembled := assembled_applySpec assembled_listingStart hspec
    refine (assembled_applyLegacyDecisionState hassembled request.decisionState).congr fun j => ?_
    constructor
    · rintro (h | ⟨hstate, rfl⟩ | ⟨hstate, rfl⟩ | ⟨hstate, rfl⟩)
      · exact .spec j h
      · exact .safeToDelete hstate
      · exact .protections hstate
      · exact .waiting hstate
    · rintro (⟨_, h⟩ | hstate | hstate | hstate)
      · exact Or.inl h
      · exact Or.inr (Or.inl ⟨hstate, rfl⟩)
      · exact Or.inr (Or.inr (Or.inl ⟨hstate, rfl⟩))
      · exact Or.inr (Or.inr (Or.inr ⟨hstate, rfl⟩))

end Joins

/-! ## Totals -/

section Totals

variable (rt : QueryRuntime) (columns : LibraryColumns) (db : Tables) (filters : List QueryFilter)
  (now : Nat) (mediaType : MediaType) (request : ListingRequest) (s : Statements)

/-- The total is the number of different rows that are selected, each of them is on exactly one of
the
pages up to the last, and none of these pages is empty. -/
structure TotalCountsRows (order : MediaRow → MediaRow → Bool) : Prop where
  total : listingTotal columns db mediaType s = (listingRows columns db mediaType s).dedup.length
  pages : ∀ row ∈ listingRows columns db mediaType s, ∃! page,
    (1 ≤ page ∧ page ≤ totalPages (listingTotal columns db mediaType s) request.perPage) ∧
      row ∈ listingPage columns db mediaType order request.perPage page s
  filled : ∀ page, 1 ≤ page →
    page ≤ totalPages (listingTotal columns db mediaType s) request.perPage →
      listingPage columns db mediaType order request.perPage page s ≠ []

/-- Of every relation that the request joins, a row that meets the filters and has rows in all of
them
has one row. -/
def JoinedOnce : Prop :=
  ∀ row ∈ columns.mediaTable db mediaType, s.query.Meets row →
    (∀ j, JoinedBy rt db filters mediaType request j → j row ≠ []) →
      ∀ j, JoinedBy rt db filters mediaType request j → (j row).length = 1

variable {rt columns db filters now mediaType request s}

theorem listingTotal_eq_iff (htable : (columns.mediaTable db mediaType).Nodup)
    (hrun : listingStatements rt db filters now mediaType request = .ok s) :
    listingTotal columns db mediaType s = (listingRows columns db mediaType s).dedup.length ↔
      JoinedOnce rt columns db filters mediaType request s := by
  have hassembled := assembled_listingStatements hrun
  rw [listingTotal, listingRows, hassembled.parallel, SelectStatement.count_eq_iff _ _ htable,
    JoinedOnce]
  simp only [hassembled.joins]

/-- The total of a listing counts the rows of its pages exactly when no selected movie or series
has two
rows in a table that the filters join: two candidates under a filter on candidates, two references
among
the ids of an imported filter, two protections, or two pending requests. -/
theorem totalCountsRows_iff (order : MediaRow → MediaRow → Bool)
    (hids : ((columns.mediaTable db mediaType).map (·.id)).Nodup) (hper : 0 < request.perPage)
    (hrun : listingStatements rt db filters now mediaType request = .ok s) :
    TotalCountsRows columns db mediaType request s order ↔
      JoinedOnce rt columns db filters mediaType request s := by
  have htotal := listingTotal_eq_iff (List.Nodup.of_map _ hids) hrun
  constructor
  · intro h
    exact htotal.mp h.total
  · intro honce
    have hcount := htotal.mpr honce
    have hparallel := (assembled_listingStatements hrun).parallel
    have hnodup : (listingRows columns db mediaType s).Nodup := by
      refine SelectStatement.rows_nodup_of_count_eq _ _ ?_
      rw [listingTotal, hparallel] at hcount
      exact hcount
    have hsorted := List.mergeSort_perm (listingRows columns db mediaType s) order
    have hlength : listingTotal columns db mediaType s =
        ((listingRows columns db mediaType s).mergeSort order).length := by
      rw [hcount, List.dedup_eq_self.mpr hnodup, hsorted.length_eq]
    refine ⟨hcount, ?_, ?_⟩
    · intro row hrow
      rw [hlength]
      exact existsUnique_page hper (hsorted.nodup_iff.mpr hnodup) (hsorted.mem_iff.mpr hrow)
    · intro page hpos hpage
      rw [hlength] at hpage
      exact pageOf_ne_nil hper hpos hpage

end Totals

/-! ## Movies with one and with two candidates -/

/-- A movie with a candidate for each of the versions. -/
def versionCandidates (versionIds : List Nat) : Tables where
  movies := [{ id := 1, tmdbId := 1, title := "Movie" }]
  candidates := versionIds.map fun versionId =>
    { id := versionId, mediaType := .movie, movieId := some 1, movieVersionId := some versionId }

def candidatesListing (db : Tables) : Statements := listingStart.join (candidateRelation db .movie)

theorem listingStatements_candidatesOnly (db : Tables) :
    listingStatements asciiQueryRuntime db [] 0 .movie { candidatesOnly := true } =
      .ok (candidatesListing db) := rfl

theorem totalCountsRows_oneCandidate :
    TotalCountsRows {} (versionCandidates [1]) .movie { candidatesOnly := true }
      (candidatesListing (versionCandidates [1])) fun _ _ => true := by
  refine (totalCountsRows_iff _ (by decide) (by decide)
    (listingStatements_candidatesOnly (versionCandidates [1]))).mpr ?_
  intro row hrow _ _ j hj
  obtain rfl := List.mem_singleton.mp hrow
  cases hj with
  | spec j h =>
    cases h with
    | candidatesOnly => rfl
    | smart => rfl
    | arrRefs f hf => cases hf
  | safeToDelete => rfl
  | protections h => cases h
  | waiting h => cases h

/-- A movie with two versions up for deletion is listed once and counted twice. -/
theorem not_totalCountsRows : ¬∀ (rt : QueryRuntime) (columns : LibraryColumns) (db : Tables)
    (filters : List QueryFilter) (now : Nat) (mediaType : MediaType) (request : ListingRequest)
    (s : Statements) (order : MediaRow → MediaRow → Bool),
    ((columns.mediaTable db mediaType).map (·.id)).Nodup → 0 < request.perPage →
      listingStatements rt db filters now mediaType request = .ok s →
        TotalCountsRows columns db mediaType request s order := by
  intro h
  have hcounts := h asciiQueryRuntime {} (versionCandidates [1, 2]) [] 0 .movie
    { candidatesOnly := true } _ (fun _ _ => true) (by decide) (by decide)
    (listingStatements_candidatesOnly _)
  exact absurd hcounts.total (by decide)

end MediaMasterr.Media
