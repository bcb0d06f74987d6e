import MediaMasterr.Media.QueryEngine
import MediaMasterr.Media.StatusAgreement

/-! # Decision filters and shown states

Where a filter on `decision.state` selects the movies or series that show the
state. The filter looks for rows that name the movie or series; the state that is
shown goes by priority and only counts what is active, due or for the whole
series. -/

namespace MediaMasterr.Media

open MediaMasterr.Foundations MediaMasterr.Database MediaMasterr.Candidates MediaMasterr.RuleEngine

/-- The states that a filter can ask for. -/
inductive FilteredState where
  | safeToDelete
  | protectedState
  | waiting
  | unwatched
  | watching
  deriving DecidableEq, Repr

namespace FilteredState

def text : FilteredState → String
  | .safeToDelete => "safe_to_delete"
  | .protectedState => "protected"
  | .waiting => "waiting"
  | .unwatched => "unwatched"
  | .watching => "watching"

def state : FilteredState → DecisionState
  | .safeToDelete => .safeToDelete
  | .protectedState => .protectedState
  | .waiting => .waiting
  | .unwatched => .unwatched
  | .watching => .watching

end FilteredState

def targetOf : MediaType → Nat → ItemTarget
  | .movie, id => .movie id
  | .series, id => .series id

/-- The items of the whole library. -/
def libraryItems (db : Tables) (columns : OtherColumns) (now : Nat) : MediaType → List StatusItem
  | .movie => getMovies db columns now (libraryMovies db)
  | .series => getSeries db columns now (librarySeries db)

/-! ## The state that is shown -/

/-- The state that `evaluate` decides, without its texts. -/
def decidedState (signals : DecisionSignals) (now : Nat) : DecisionState :=
  if signals.isProtected then .protectedState
  else if signals.hasPendingDeleteRequest || signals.hasPendingRequest then .waiting
  else if signals.isCandidate then
    if signals.candidateEligibleAt.any ((now : Int) < ·) then .waiting else .safeToDelete
  else if 0 < signals.childCandidateCount then .safeToDelete
  else if signals.sizeBytes = none then .incomplete
  else if signals.viewCount = 0 ∧ signals.lastViewedAt = none then .unwatched
  else if signals.lastViewedAt.any fun lastViewedAt => (now : Int) - lastViewedAt ≤ 14 * 86400 then
    .watching
  else .attentionRequired

theorem evaluate_state (signals : DecisionSignals) (now : Nat) :
    (evaluate signals now).state = decidedState signals now := by
  have hcandidate : (decideCandidate signals now).state =
      if signals.candidateEligibleAt.any ((now : Int) < ·) then .waiting else .safeToDelete := by
    cases heligible : signals.candidateEligibleAt with
    | none => simp [decideCandidate, heligible]
    | some eligibleAt => by_cases h :
      (now : Int) < eligibleAt <;> simp [decideCandidate, heligible, h]
  have hidle : (decideIdle signals now).state =
      if 0 < signals.childCandidateCount then .safeToDelete
      else if signals.sizeBytes = none then .incomplete
      else if signals.viewCount = 0 ∧ signals.lastViewedAt = none then .unwatched
      else if signals.lastViewedAt.any fun lastViewedAt =>
        (now : Int) - lastViewedAt ≤ 14 * 86400 then
        .watching
      else .attentionRequired := by
    unfold decideIdle
    cases hviewed : signals.lastViewedAt with
    | none => simp only [apply_ite Decision.state]; simp
    | some lastViewedAt => simp only [apply_ite Decision.state]; simp
  simp only [evaluate, decideSignals, apply_ite Decision.state, hcandidate, hidle, decidedState]
  cases signals.hasPendingDeleteRequest <;> simp

/-- Some request holds back the deletion. -/
def DecisionSignals.isRequested (signals : DecisionSignals) : Bool :=
  signals.hasPendingDeleteRequest || signals.hasPendingRequest

/-- The deadline of the candidate is ahead. -/
def DecisionSignals.waits (signals : DecisionSignals) (now : Nat) : Bool :=
  signals.candidateEligibleAt.any ((now : Int) < ·)

def DecisionSignals.isRecent (signals : DecisionSignals) (now : Nat) : Bool :=
  signals.lastViewedAt.any fun lastViewedAt => (now : Int) - lastViewedAt ≤ 14 * 86400

/-- Nothing holds the media, it is no candidate, and nothing below it is one. -/
def DecisionSignals.IsIdle (signals : DecisionSignals) : Prop :=
  signals.isProtected = false ∧ signals.isRequested = false ∧ signals.isCandidate = false ∧
    ¬0 < signals.childCandidateCount ∧ signals.sizeBytes ≠ none

/-- When each of the states is decided. -/
def Decides (signals : DecisionSignals) (now : Nat) : FilteredState → Prop
  | .safeToDelete => signals.isProtected = false ∧ signals.isRequested = false ∧
      ((signals.isCandidate = true ∧ signals.waits now = false) ∨
        (signals.isCandidate = false ∧ 0 < signals.childCandidateCount))
  | .protectedState => signals.isProtected = true
  | .waiting => signals.isProtected = false ∧
      (signals.isRequested = true ∨ (signals.isCandidate = true ∧ signals.waits now = true))
  | .unwatched => signals.IsIdle ∧ signals.viewCount = 0 ∧ signals.lastViewedAt = none
  | .watching => signals.IsIdle ∧ signals.isRecent now = true

theorem evaluate_decides_iff (signals : DecisionSignals) (now : Nat) (state : FilteredState) :
    (evaluate signals now).state = state.state ↔ Decides signals now state := by
  have hrecent : signals.lastViewedAt = none → signals.isRecent now = false := fun hviewed => by
    simp [DecisionSignals.isRecent, hviewed]
  rw [evaluate_state, decidedState]
  change (if signals.isProtected then _ else if signals.isRequested then _ else if signals.isCandidate then
    (if signals.waits now then _ else _) else if 0 < signals.childCandidateCount then _
    else if signals.sizeBytes = none then _
    else if signals.viewCount = 0 ∧ signals.lastViewedAt = none then _
    else if signals.isRecent now then _ else _) = _ ↔ _
  split_ifs <;> cases state <;> simp_all [Decides, DecisionSignals.IsIdle, FilteredState.state]

section Shown

variable (db : Tables) (now : Nat) (mediaType : MediaType)

/-- An active protection for the movie or the whole series. -/
def Protected (target : ItemTarget) : Prop :=
  ∃ row ∈ activeProtections db now, target.HeldBy row.target

/-- A pending request, to protect or to delete, for the movie or the whole series. -/
def Requested (target : ItemTarget) : Prop :=
  (∃ row ∈ pendingRequests db, target.HeldBy row.target) ∨
    ∃ row ∈ pendingDeleteRequests db, target.HeldBy row.target

/-- The retention window of the candidate that is shown, if there is one, is over. -/
def ShownDue (target : ItemTarget) : Prop :=
  ∀ c, shownCandidate db target = some c → (candidatePolicy db now mediaType c).isEligible = true

/-- A candidate for the movie, for the series or below the series. -/
def HasCandidates (id : Nat) : Prop :=
  ∃ c ∈ db.candidates, isOf mediaType c.movieId c.seriesId id = true

def Unviewed (row : MediaRow) : Prop := row.viewCount = 0 ∧ row.lastViewedAt = none

/-- Viewed in the last two weeks. -/
def ViewedRecently (row : MediaRow) : Prop :=
  ∃ lastViewedAt, row.lastViewedAt = some lastViewedAt ∧ (now : Int) - 14 * 86400 ≤ lastViewedAt

/-- Nothing holds the movie or series, it has no candidates, and its size is known. -/
structure Idle (row : MediaRow) : Prop where
  unheld : ¬Held db now (targetOf mediaType row.id)
  noCandidates : ¬HasCandidates db mediaType row.id
  size : row.size ≠ none

/-- The row shows the state. -/
def Shows (row : MediaRow) : FilteredState → Prop
  | .safeToDelete => ¬Held db now (targetOf mediaType row.id) ∧ HasCandidates db mediaType row.id ∧
      ShownDue db now mediaType (targetOf mediaType row.id)
  | .protectedState => Protected db now (targetOf mediaType row.id)
  | .waiting => ¬Protected db now (targetOf mediaType row.id) ∧
      (Requested db (targetOf mediaType row.id) ∨
        ¬ShownDue db now mediaType (targetOf mediaType row.id))
  | .unwatched => Idle db now mediaType row ∧ Unviewed row
  | .watching => Idle db now mediaType row ∧ ViewedRecently now row

end Shown

section Items

variable {db : Tables} {columns : LibraryColumns} {now : Nat} {mediaType : MediaType}

theorem held_iff {target : ItemTarget} :
    Held db now target ↔ Protected db now target ∨ Requested db target := exists_heldTargets

theorem candidatePolicy_waits_iff {c : ReclaimCandidate} :
    (now : Int) < (candidatePolicy db now mediaType c).eligibleAt ↔
      ¬(candidatePolicy db now mediaType c).isEligible = true := by
  simp [candidatePolicy, resolveAutoDeletePolicy]

theorem viewedRecently_iff {row : MediaRow} : ViewedRecently now row ↔
    (row.lastViewedAt.any fun lastViewedAt => (now : Int) - lastViewedAt ≤ 14 * 86400) = true := by
  cases hviewed : row.lastViewedAt with
  | none => simp [ViewedRecently, hviewed]
  | some lastViewedAt =>
    simp [ViewedRecently, hviewed]
    omega

/-- The rows found for a movie or series and its columns give the state that it shows. -/
theorem mediaStatus_shows_iff (row : MediaRow) {found : FoundRows}
    (hfound : FoundSpec db now (targetOf mediaType row.id) found)
    (hchildren : HasCandidates db mediaType row.id ↔
      found.candidate.isSome ∨ 0 < found.childCandidateCount) (state : FilteredState) :
    (mediaStatus db columns.toOtherColumns now mediaType found
      ⟨row.size, row.viewCount, row.lastViewedAt⟩).decision.state = state.state ↔
        Shows db now mediaType row state := by
  have hprotected : found.protection.isSome = true ↔ Protected db now (targetOf mediaType row.id) :=
    hfound.protection
  have hrequested : (found.deleteRequest.isSome || found.request.isSome) = true ↔
      Requested db (targetOf mediaType row.id) := by
    rw [Bool.or_eq_true, hfound.deleteRequest, hfound.request, or_comm, Requested]
  have hwaits : ((found.candidate.map (candidatePolicy db now mediaType)).map (·.eligibleAt)).any
      ((now : Int) < ·) = true ↔ ¬ShownDue db now mediaType (targetOf mediaType row.id) := by
    rw [ShownDue, ← hfound.candidate]
    cases found.candidate with
    | none => simp
    | some c =>
      simp only [Option.map_some, Option.any_some, decide_eq_true_eq, Option.some.injEq, forall_eq']
      exact candidatePolicy_waits_iff
  have hdue : ¬found.candidate.isSome = true →
    ShownDue db now mediaType (targetOf mediaType row.id) := by
    intro hnone c hc
    exact absurd (by rw [hfound.candidate, hc]; rfl) hnone
  have hidle : ¬found.protection.isSome = true ∧
      ¬(found.deleteRequest.isSome || found.request.isSome) = true ∧
        ¬found.candidate.isSome = true ∧
        ¬0 < found.childCandidateCount ∧ row.size ≠ none ↔ Idle db now mediaType row := by
    rw [hprotected, hrequested, ← and_assoc, ← not_or, ← held_iff, ← and_assoc (a := ¬_ = true),
      ← not_or,
      ← hchildren]
    exact ⟨fun h => ⟨h.1, h.2.1, h.2.2⟩, fun h => ⟨h.unheld, h.noCandidates, h.size⟩⟩
  simp only [mediaStatus, evaluate_decides_iff]
  cases state with
  | safeToDelete =>
    simp only [Decides, DecisionSignals.isRequested, DecisionSignals.waits, Shows,
      ← Bool.not_eq_true,
      hprotected, hrequested, hwaits, held_iff, hchildren, not_not, not_or, and_assoc]
    by_cases hcandidate : found.candidate.isSome = true
    · simp [hcandidate]
    · simp [hcandidate, hdue hcandidate]
  | protectedState => exact hprotected
  | waiting =>
    simp only [Decides, DecisionSignals.isRequested, DecisionSignals.waits, Shows,
      ← Bool.not_eq_true,
      hprotected, hrequested, hwaits]
    by_cases hcandidate : found.candidate.isSome = true
    · simp [hcandidate]
    · simp [hcandidate, hdue hcandidate]
  | unwatched =>
    simp only [Decides, DecisionSignals.IsIdle, DecisionSignals.isRequested, ← Bool.not_eq_true]
    exact and_congr_left fun _ => hidle
  | watching =>
    simp only [Decides, DecisionSignals.IsIdle, DecisionSignals.isRequested,
      DecisionSignals.isRecent,
      ← Bool.not_eq_true, Shows, viewedRecently_iff]
    exact and_congr_left fun _ => hidle

theorem shownCandidate_isSome_iff {target : ItemTarget} :
    (shownCandidate db target).isSome ↔ ∃ c ∈ db.candidates, target.Shows c := by
  rw [shownCandidate, List.find?_isSome]
  simp only [List.mem_reverse, decide_eq_true_eq]

theorem hasCandidates_movie_iff {id : Nat} :
    HasCandidates db .movie id ↔ (shownCandidate db (.movie id)).isSome := by
  rw [shownCandidate_isSome_iff]
  simp [HasCandidates, isOf, ItemTarget.Shows]

/-- A candidate of a series is one without a season, which the series shows, or one below it. -/
theorem hasCandidates_series_iff {id : Nat} :
    HasCandidates db .series id ↔
      (shownCandidate db (.series id)).isSome ∨ 0 < (childCandidateStats db id).1 := by
  have hchildren : 0 < (childCandidateStats db id).1 ↔
      ∃ c ∈ db.candidates, c.seriesId = some id ∧ (c.seasonId.isSome ∨ c.episodeId.isSome) := by
    simp [childCandidateStats, List.length_pos_iff_exists_mem, List.mem_filter]
  rw [hchildren, shownCandidate_isSome_iff]
  simp only [HasCandidates, isOf, ItemTarget.Shows, decide_eq_true_eq]
  constructor
  · rintro ⟨c, hc, hseries⟩
    cases hseason : c.seasonId with
    | none => exact Or.inl ⟨c, hc, hseries, hseason⟩
    | some seasonId => exact Or.inr ⟨c, hc, hseries, Or.inl (by simp [hseason])⟩
  · rintro (⟨c, hc, hseries, -⟩ | ⟨c, hc, hseries, -⟩)
    · exact ⟨c, hc, hseries⟩
    · exact ⟨c, hc, hseries⟩

theorem libraryItem_shows {item : StatusItem}
    (h : item ∈ libraryItems db columns.toOtherColumns now mediaType) :
    ∃ row ∈ columns.mediaTable db mediaType, row.removedAt = none ∧
      item.target = targetOf mediaType row.id ∧
      ∀ state : FilteredState, item.status.decision.state = state.state ↔
        Shows db now mediaType row state := by
  cases mediaType with
  | movie =>
    obtain ⟨m, hm, found, hfound, hcount, rfl⟩ := getMovies_found h
    obtain ⟨hmem, hkept⟩ := List.mem_filter.mp hm
    refine ⟨columns.movieRow m, List.mem_map_of_mem hmem, Option.isNone_iff_eq_none.mp hkept,
      rfl, ?_⟩
    refine mediaStatus_shows_iff (columns.movieRow m) hfound ?_
    rw [hcount, hfound.candidate, hasCandidates_movie_iff]
    simp [LibraryColumns.movieRow]
  | series =>
    obtain ⟨s, hs, found, hfound, hcount, rfl⟩ := getSeries_found h
    obtain ⟨hmem, hkept⟩ := List.mem_filter.mp hs
    refine ⟨columns.seriesRow s, List.mem_map_of_mem hmem, Option.isNone_iff_eq_none.mp hkept,
      rfl, ?_⟩
    refine mediaStatus_shows_iff (columns.seriesRow s) hfound ?_
    rw [hcount, hfound.candidate, hasCandidates_series_iff]
    rfl

variable (columns now) in
theorem exists_libraryItem {row : MediaRow} (hrow : row ∈ columns.mediaTable db mediaType)
    (hkept : row.removedAt = none) :
    ∃ item ∈ libraryItems db columns.toOtherColumns now mediaType,
      item.target = targetOf mediaType row.id := by
  cases mediaType with
  | movie =>
    obtain ⟨m, hm, rfl⟩ := List.mem_map.mp hrow
    have hlisted : m ∈ libraryMovies db :=
      List.mem_filter.mpr ⟨hm, Option.isNone_iff_eq_none.mpr hkept⟩
    exact ⟨_, List.mem_map_of_mem hlisted, rfl⟩
  | series =>
    obtain ⟨s, hs, rfl⟩ := List.mem_map.mp hrow
    have hlisted : s ∈ librarySeries db :=
      List.mem_filter.mpr ⟨hs, Option.isNone_iff_eq_none.mpr hkept⟩
    exact ⟨_, List.mem_map_of_mem hlisted, rfl⟩

end Items

/-! ## The rows that a filter selects -/

/-- `str` of a text, and `lower` of a text in small ASCII letters. -/
structure QueryRuntime.Lawful (rt : QueryRuntime) : Prop where
  str_str : ∀ s, rt.str (.str s) = s
  lower_ascii : ∀ s, s.toList.all (·.toNat < 128) = true → rt.lower s = PythonText.asciiLower s

/-- The filter is stored and enabled, and its only clause asks for the state. -/
structure AsksFor (rt : QueryRuntime) (filters : List QueryFilter) (f : QueryFilter)
    (state : FilteredState) : Prop where
  stored : f ∈ filters
  kind : f.kind = "decision"
  enabled : f.enabled = true
  clause : ∃ operator, normalizeDefinitionNodes rt f.definition =
    [.condition (.str "decision.state") operator (.str state.text)]

section Filters

variable (db : Tables) (now : Nat) (mediaType : MediaType)

/-- The row meets the clause on the state. -/
def Filters (row : MediaRow) : FilteredState → Prop
  | .safeToDelete => HasCandidates db mediaType row.id
  | .protectedState => ∃ p ∈ db.protectedMedia, isOf mediaType p.movieId p.seriesId row.id = true
  | .waiting => ∃ r ∈ pendingRequests db, isOf mediaType r.movieId r.seriesId row.id = true
  | .unwatched => Unviewed row
  | .watching => ViewedRecently now row

variable {db now mediaType} {rt : QueryRuntime} {columns : LibraryColumns}
    {filters : List QueryFilter}
  {f : QueryFilter} {state : FilteredState}

theorem lower_text (hrt : rt.Lawful) (state : FilteredState) :
    rt.lower (PythonText.strip state.text) = state.text := by
  rw [hrt.lower_ascii _ (by cases state <;> rfl)]
  cases state <;> decide

variable (db now mediaType) in
theorem decisionStateExpression_meets (hrt : rt.Lawful) (state : FilteredState) :
    ∃ expression, decisionStateExpression rt db now mediaType state.text = some expression ∧
      ∀ row, expression row = some true ↔ Filters db now mediaType row state := by
  unfold decisionStateExpression
  rw [lower_text hrt]
  cases state with
  | safeToDelete => exact ⟨_, rfl, fun row => by simp [Filters, HasCandidates]⟩
  | protectedState => exact ⟨_, rfl, fun row => by simp [Filters]⟩
  | waiting => exact ⟨_, rfl, fun row => by simp [Filters, pendingRequests, and_assoc]⟩
  | unwatched =>
    exact ⟨_, rfl, fun row => by simp [Filters, Unviewed, ThreeValued.conj_eq_true_iff]⟩
  | watching =>
    refine ⟨_, rfl, fun row => ?_⟩
    cases hviewed : row.lastViewedAt <;>
      simp [Filters, ViewedRecently, ThreeValued.conj_eq_true_iff, hviewed]

/-- With one clause, both combinators give the clause. -/
theorem combine_singleton (combinator : String) (expression : MediaClause) :
    ∃ combined, combine combinator [expression] = some combined ∧
      ∀ row, combined row = some true ↔ expression row = some true := by
  unfold combine
  by_cases hor : combinator ≠ "or"
  · exact ⟨_, by rw [if_neg (by simp), if_pos hor], fun row => by
      simp [ThreeValued.conj_eq_true_iff]⟩
  · refine ⟨_, by rw [if_neg (by simp), if_neg hor], fun row => ?_⟩
    rw [ThreeValued.disj_eq_true_iff, List.map_singleton, List.mem_singleton, eq_comm]

theorem definitionExpression_meets (hrt : rt.Lawful) (h : AsksFor rt filters f state) :
    ∃ expression, definitionExpression rt db now mediaType f.definition = .ok (some expression) ∧
      ∀ row, expression row = some true ↔ Filters db now mediaType row state := by
  obtain ⟨operator, hnodes⟩ := h.clause
  obtain ⟨expression, hexpression, hmeets⟩ :=
    decisionStateExpression_meets db now mediaType hrt state
  have hvalue : rt.strOr (.str state.text) "" = state.text := by
    rw [QueryRuntime.strOr, if_pos (by cases state <;> decide), hrt.str_str]
  have hfield : rt.strOr (.str "decision.state") "" = "decision.state" := by
    rw [QueryRuntime.strOr, if_pos (by decide), hrt.str_str]
  have hclause : decisionClauseExpression rt db now mediaType "decision.state"
    (rt.strOr operator "")
      (.str state.text) = .ok (some expression) := by
    rw [decisionClauseExpression, show PythonText.strip "decision.state" = "decision.state" by
      decide]
    simp only [hvalue, hexpression]
  obtain ⟨combined, hcombined, hsame⟩ := combine_singleton (combinatorOf rt f.definition) expression
  refine ⟨combined, ?_, fun row => (hsame row).trans (hmeets row)⟩
  rw [definitionExpression, hnodes, nodeExpressions, nodeExpression, hfield, hclause, ← hcombined]
  rfl

theorem enabledFilters_nil (filters : List QueryFilter) (kind : String) :
    enabledFilters filters kind [] = [] := by
  simp [enabledFilters]

theorem enabledFilters_self (hids : (filters.map (·.id)).Nodup) (h : AsksFor rt filters f state) :
    enabledFilters filters "decision" [(f.id : Int)] = [f] := by
  have hall : ∀ g ∈ enabledFilters filters "decision" [(f.id : Int)], g = f := by
    intro g hg
    obtain ⟨hmem, hkept⟩ := List.mem_filter.mp hg
    have hid : g.id = f.id := by simpa using (of_decide_eq_true hkept).1
    exact List.inj_on_of_nodup_map hids hmem h.stored hid
  have hmem : f ∈ enabledFilters filters "decision" [(f.id : Int)] :=
    List.mem_filter.mpr ⟨h.stored, by simp [h.kind, h.enabled]⟩
  have hnodup : (enabledFilters filters "decision" [(f.id : Int)]).Nodup :=
    (List.Nodup.of_map _ hids).filter _
  rw [List.eq_replicate_of_mem hall] at hnodup hmem ⊢
  have hone := List.nodup_replicate.mp hnodup
  have hpos := List.length_pos_of_mem hmem
  rw [List.length_replicate] at hpos
  rw [show (enabledFilters filters "decision" [(f.id : Int)]).length = 1 by omega]
  rfl

theorem applyPlain_stateSpec (hrt : rt.Lawful) (s : Statements) :
    applyPlain rt db filters { mediaType := mediaType, decisionFilterIds := [(f.id : Int)] } s =
      s := by
  have hlower : rt.lower (PythonText.strip "") = "" := by
    rw [hrt.lower_ascii _ rfl]
    decide
  have hstatus : applyStatus rt none s = s := if_pos hlower
  have himported : applyImported rt db filters mediaType [] s = s := by
    simp [applyImported, enabledFilters_nil]
  exact (congrArg _ hstatus).trans himported

/-- The statements under a filter that asks for a state. -/
theorem applySpec_asksFor (hrt : rt.Lawful) (hids : (filters.map (·.id)).Nodup)
    (h : AsksFor rt filters f state) :
    ∃ expression, applySpec rt db filters now
        { mediaType := mediaType, decisionFilterIds := [(f.id : Int)] } listingStart =
          .ok (listingStart.filter expression) ∧
      ∀ row, expression row = some true ↔ Filters db now mediaType row state := by
  obtain ⟨expression, hexpression, hmeets⟩ := definitionExpression_meets hrt h
  refine ⟨expression, ?_, hmeets⟩
  rw [applySpec, applyPlain_stateSpec hrt]
  simp only [enabledFilters_nil]
  simp [enabledFilters_self hids h, applyDecisionFilter, hexpression, Except.map]

end Filters

/-! ## Agreement -/

section Agreement

variable (rt : QueryRuntime) (columns : LibraryColumns) (db : Tables) (filters : List QueryFilter)
  (now : Nat) (mediaType : MediaType) (f : QueryFilter) (state : FilteredState)

/-- The filter selects the movies or series that show the state. -/
def FilterAgrees : Prop :=
  ∃ s, applySpec rt db filters now { mediaType := mediaType, decisionFilterIds := [(f.id : Int)] }
      listingStart = .ok s ∧
    ∀ id, (∃ row ∈ listingRows columns db mediaType s, row.id = id) ↔
      ∃ item ∈ libraryItems db columns.toOtherColumns now mediaType,
        item.target = targetOf mediaType id ∧ item.status.decision.state = state.state

/-- What the rows of the database have to say about a movie or series. -/
def RowsAgree (row : MediaRow) : FilteredState → Prop
  | .safeToDelete => HasCandidates db mediaType row.id →
      ¬Held db now (targetOf mediaType row.id) ∧
        ShownDue db now mediaType (targetOf mediaType row.id)
  | .protectedState => (∃ p ∈ db.protectedMedia,
    isOf mediaType p.movieId p.seriesId row.id = true) →
      Protected db now (targetOf mediaType row.id)
  | .waiting =>
      ((∃ r ∈ pendingRequests db, isOf mediaType r.movieId r.seriesId row.id = true) →
        ¬Protected db now (targetOf mediaType row.id) ∧
          (Requested db (targetOf mediaType row.id) ∨
            ¬ShownDue db now mediaType (targetOf mediaType row.id))) ∧
      ((¬∃ r ∈ pendingRequests db, isOf mediaType r.movieId r.seriesId row.id = true) →
        Protected db now (targetOf mediaType row.id) ∨
          (¬Requested db (targetOf mediaType row.id) ∧
            ShownDue db now mediaType (targetOf mediaType row.id)))
  | .unwatched => Unviewed row → Idle db now mediaType row
  | .watching => ViewedRecently now row → Idle db now mediaType row

variable {rt columns db filters now mediaType f state}

theorem isOf_of_heldBy {t : MediaTarget} {id : Nat} (h : (targetOf mediaType id).HeldBy t) :
    isOf mediaType t.movieId t.seriesId id = true := by
  cases mediaType with
  | movie => exact decide_eq_true h
  | series => exact decide_eq_true h.1

theorem filters_shows_iff {row : MediaRow} :
    (Filters db now mediaType row state ↔ Shows db now mediaType row state) ↔
      RowsAgree db now mediaType row state := by
  cases state with
  | safeToDelete =>
    constructor
    · intro h hhas
      exact ⟨(h.mp hhas).1, (h.mp hhas).2.2⟩
    · intro h
      exact ⟨fun hhas => ⟨(h hhas).1, hhas, (h hhas).2⟩, fun hshows => hshows.2.1⟩
  | protectedState =>
    refine ⟨Iff.mp, fun h => ⟨h, ?_⟩⟩
    rintro ⟨p, hp, hheld⟩
    exact ⟨p, (List.mem_filter.mp hp).1, isOf_of_heldBy hheld⟩
  | waiting =>
    simp only [Filters, Shows, RowsAgree]
    by_cases hpending : ∃ r ∈ pendingRequests db, isOf mediaType r.movieId r.seriesId row.id = true
    · simp only [hpending, true_iff, forall_const, not_true_eq_false, false_imp_iff, and_true]
    · simp only [hpending, false_iff, false_imp_iff, true_and, not_false_eq_true, forall_const,
        not_and, not_or, not_not, or_iff_not_imp_left (a := Protected _ _ _)]
  | unwatched =>
    exact ⟨fun h hview => (h.mp hview).1, fun h => ⟨fun hview => ⟨h hview, hview⟩, And.right⟩⟩
  | watching =>
    exact ⟨fun h hview => (h.mp hview).1, fun h => ⟨fun hview => ⟨h hview, hview⟩, And.right⟩⟩

theorem targetOf_inj {id id' : Nat} (h : targetOf mediaType id = targetOf mediaType id') :
    id = id' := by
  cases mediaType with
  | movie => exact ItemTarget.movie.inj h
  | series => exact ItemTarget.series.inj h

/-- With different ids, every item about a row shows what the row shows. -/
theorem libraryItem_shows_of_target {row : MediaRow} {item : StatusItem}
    (hrows : ((columns.mediaTable db mediaType).map (·.id)).Nodup)
    (hrow : row ∈ columns.mediaTable db mediaType)
    (hitem : item ∈ libraryItems db columns.toOtherColumns now mediaType)
    (htarget : item.target = targetOf mediaType row.id) (state : FilteredState) :
    item.status.decision.state = state.state ↔ Shows db now mediaType row state := by
  obtain ⟨row', hrow', -, htarget', hshows⟩ := libraryItem_shows hitem
  have hid := targetOf_inj (htarget.symm.trans htarget')
  obtain rfl := List.inj_on_of_nodup_map hrows hrow hrow' hid
  exact hshows state

variable (columns) in
theorem mem_listingRows_iff {expression : MediaClause} {row : MediaRow}
    (hmeets : ∀ row, expression row = some true ↔ Filters db now mediaType row state) :
    row ∈ listingRows columns db mediaType (listingStart.filter expression) ↔
      row ∈ columns.mediaTable db mediaType ∧ row.removedAt = none ∧
        Filters db now mediaType row state := by
  rw [listingRows, SelectStatement.mem_rows_iff, ← hmeets]
  simp [listingStart, Statements.filter, SelectStatement.filter, SelectStatement.Meets]

/-- A filter on a state selects the movies or series that show it exactly when the rows of each one
that is in the library agree: with candidates, none is held or shows a candidate that is not due;
with
protections, one is active and for the whole movie or series; with pending protection requests, it
is
not protected and shows that it waits, and without, it is protected or waits for nothing; not
viewed, or
viewed recently, it is idle. -/
theorem filterAgrees_iff (hrt : rt.Lawful)
    (hrows : ((columns.mediaTable db mediaType).map (·.id)).Nodup)
    (hids : (filters.map (·.id)).Nodup) (hf : AsksFor rt filters f state) :
    FilterAgrees rt columns db filters now mediaType f state ↔
      ∀ row ∈ columns.mediaTable db mediaType, row.removedAt = none →
        RowsAgree db now mediaType row state := by
  obtain ⟨expression, hspec, hmeets⟩ :
      ∃ expression, applySpec rt db filters now
          { mediaType := mediaType, decisionFilterIds := [(f.id : Int)] } listingStart =
            .ok (listingStart.filter expression) ∧
        ∀ row, expression row = some true ↔ Filters db now mediaType row state :=
    applySpec_asksFor hrt hids hf
  constructor
  · rintro ⟨s, hs, hsame⟩ row hrow hkept
    obtain rfl := Except.ok.inj (hs.symm.trans hspec)
    obtain ⟨item, hitem, htarget⟩ := exists_libraryItem columns now hrow hkept
    have hshows := libraryItem_shows_of_target hrows hrow hitem htarget
    rw [← filters_shows_iff]
    constructor
    · intro hfilters
      obtain ⟨item', hitem', htarget', hstate⟩ :=
        (hsame row.id).mp ⟨row,
          (mem_listingRows_iff columns hmeets).mpr ⟨hrow, hkept, hfilters⟩, rfl⟩
      exact (libraryItem_shows_of_target hrows hrow hitem' htarget' state).mp hstate
    · intro hshown
      obtain ⟨row', hmem, hid⟩ :=
        (hsame row.id).mpr ⟨item, hitem, htarget, (hshows state).mpr hshown⟩
      obtain ⟨hrow', -, hfilters⟩ := (mem_listingRows_iff columns hmeets).mp hmem
      obtain rfl := List.inj_on_of_nodup_map hrows hrow' hrow hid
      exact hfilters
  · intro hagree
    refine ⟨_, hspec, fun id => ?_⟩
    constructor
    · rintro ⟨row, hmem, rfl⟩
      obtain ⟨hrow, hkept, hfilters⟩ := (mem_listingRows_iff columns hmeets).mp hmem
      obtain ⟨item, hitem, htarget⟩ := exists_libraryItem columns now hrow hkept
      have hshown := (filters_shows_iff.mpr (hagree row hrow hkept)).mp hfilters
      exact ⟨item, hitem, htarget,
        (libraryItem_shows_of_target hrows hrow hitem htarget state).mpr hshown⟩
    · rintro ⟨item, hitem, htarget, hstate⟩
      obtain ⟨row, hrow, hkept, htarget', hshows⟩ := libraryItem_shows hitem
      obtain rfl := targetOf_inj (htarget.symm.trans htarget')
      have hfilters := (filters_shows_iff.mpr (hagree row hrow hkept)).mpr
        ((hshows state).mp hstate)
      exact ⟨row, (mem_listingRows_iff columns hmeets).mpr ⟨hrow, hkept, hfilters⟩, rfl⟩

end Agreement

/-! ## A candidate that is due, and an expired protection -/

theorem asciiQueryRuntime_lawful : asciiQueryRuntime.Lawful := ⟨fun _ => rfl, fun _ _ => rfl⟩

def stateFilter (state : FilteredState) : QueryFilter :=
  { id := 1
    name := "State"
    definition := [("clauses", .list [.dict [("type", .str "condition"),
      ("field", .str "decision.state"), ("operator", .str "equals"),
        ("value", .str state.text)]])] }

theorem stateFilter_asksFor (state : FilteredState) :
    AsksFor asciiQueryRuntime [stateFilter state] (stateFilter state) state :=
  ⟨List.mem_singleton_self _, rfl, rfl, .str "equals", by cases state <;> rfl⟩

theorem filterAgrees_candidateMovie :
    FilterAgrees asciiQueryRuntime {} candidateMovie [stateFilter .safeToDelete] (30 * 86400) .movie
      (stateFilter .safeToDelete) .safeToDelete := by
  have hfree : heldTargets candidateMovie (30 * 86400) = [] := rfl
  refine (filterAgrees_iff asciiQueryRuntime_lawful (by decide) (by decide)
    (stateFilter_asksFor .safeToDelete)).mpr ?_
  intro row hrow _ _
  obtain rfl := List.mem_singleton.mp hrow
  refine ⟨by simp [Held, hfree], fun c hc => ?_⟩
  obtain rfl := List.mem_singleton.mp (shownCandidate_mem hc).1
  decide

/-- A movie whose protection has expired. -/
def expiredProtection : Tables where
  movies := [{ id := 1, tmdbId := 1, title := "Movie" }]
  protectedMedia :=
    [{ id := 1, mediaType := .movie, movieId := some 1, permanent := false, expiresAt := some 5 }]

/-- The filter on protected media selects a movie whose protection has expired. -/
theorem not_filterAgrees : ¬∀ (rt : QueryRuntime) (columns : LibraryColumns) (db : Tables)
    (filters : List QueryFilter) (now : Nat) (mediaType : MediaType) (f : QueryFilter)
    (state : FilteredState), rt.Lawful → ((columns.mediaTable db mediaType).map (·.id)).Nodup →
      (filters.map (·.id)).Nodup → AsksFor rt filters f state →
        FilterAgrees rt columns db filters now mediaType f state := by
  intro h
  have hasks := stateFilter_asksFor .protectedState
  obtain ⟨s, hs, hsame⟩ := h asciiQueryRuntime {} expiredProtection _ 10 .movie _ .protectedState
    asciiQueryRuntime_lawful (by decide) (by decide) hasks
  obtain ⟨expression, hspec, hmeets⟩ := applySpec_asksFor asciiQueryRuntime_lawful (by decide) hasks
  obtain rfl := Except.ok.inj (hs.symm.trans hspec)
  have hfilters : Filters expiredProtection 10 .movie
    { id := 1, title := "Movie" } .protectedState :=
    ⟨_, List.mem_singleton_self _, rfl⟩
  have hselected := (mem_listingRows_iff {} hmeets).mpr
    ⟨List.mem_singleton_self _, rfl, hfilters⟩
  obtain ⟨item, hitem, -, hstate⟩ := (hsame 1).mp ⟨_, hselected, rfl⟩
  have hshown : ∀ item ∈ libraryItems expiredProtection {} 10 .movie,
      item.status.decision.state ≠ .protectedState := by decide
  exact hshown item hitem hstate

end MediaMasterr.Media
