import MediaMasterr.Candidates.SonarrRuleData
import MediaMasterr.RuleEngine.Agreement

/-! # Lazy fetching

Fetching the episodes of fewer series changes no decision: what the statistics
say of a ref is repeated by its episodes, the values of a series become better
known with those of its refs, and a rule keeps the state that it has when values
become known. -/

namespace MediaMasterr.Candidates

open MediaMasterr.Foundations MediaMasterr.Database MediaMasterr.RuleEngine

section

variable (py : SonarrRuntime) (w : SonarrWorld) (rows : List ArrRefRow)

/-- A ref whose statistics report a later airing has a later episode in the latest season, when its
episodes can be fetched. -/
def AiringsListed : Prop :=
  ∀ row ∈ rows, ∀ series, sonarrSeriesOf w rows row = some series →
    ∀ season, latestSeason series = some season → airsLater py w season = true →
      ∀ client, (effectiveClients w rows).lookup row.configId = some client →
        ∀ episodes, w.getEpisodes client row.arrId season.seasonNumber = some episodes →
          ∃ episode ∈ episodes, sonarrEpisodeSeasonNumber py episode = some season.seasonNumber ∧
            isLater py w episode.airDateUtc = true

def booleanOperators : List String := ["is_true", "is_false", "exists", "not_exists"]

/-- What `validate_rule_definition` checks of the conditions on the two Boolean Sonarr fields
before a rule is stored. -/
def ValidSonarrConditions (rule : DefinedRule) : Prop :=
  ∀ field ∈ [sonarrUnairedField, sonarrFinaleField],
    ∀ condition ∈ collectRuleConditions py.toPythonRuntime field rule,
      py.strEntry condition.operator ∈ booleanOperators

/-- The values when the episodes of every series are fetched. -/
def eagerValues (db : Tables) : Nat → SonarrValues :=
  fetchedValues py w (presentRefRows db) (presentSeriesIds db)

end

/-! ## Refs -/

/-- The second state repeats what the first one knows. -/
structure StateRefines (s s' : SonarrRefRuleState) : Prop where
  unaired : ThreeValued.Refines s.hasUnairedEpisodes s'.hasUnairedEpisodes
  finale : ThreeValued.Refines s.hasFinale s'.hasFinale
  status : s'.seriesStatus = s.seriesStatus

theorem StateRefines.refl (s : SonarrRefRuleState) : StateRefines s s :=
  ⟨ThreeValued.Refines.refl _, ThreeValued.Refines.refl _, rfl⟩

variable {py : SonarrRuntime} {w : SonarrWorld} {rows : List ArrRefRow} {row : ArrRefRow}

/-- What a state can know before any episode is fetched. -/
theorem initialState_unaired (py : SonarrRuntime) (w : SonarrWorld) (rows : List ArrRefRow)
    (row : ArrRefRow) :
    (initialState py w rows row).hasUnairedEpisodes = none ∨
      (initialState py w rows row).hasUnairedEpisodes = some true ∧
        ∃ series season, sonarrSeriesOf w rows row = some series ∧
          latestSeason series = some season ∧ airsLater py w season = true ∧
          (initialState py w rows row).latestSeasonNumber = some season.seasonNumber := by
  dsimp only [initialState]
  split_ifs with hlater
  · obtain ⟨season, hseason, hairs⟩ := (Option.any_eq_true _ _).mp hlater
    obtain ⟨series, hseries, hlatest⟩ := Option.bind_eq_some_iff.mp hseason
    exact .inr ⟨rfl, series, season, hseries, hlatest, hairs, by rw [hseason]; rfl⟩
  · exact .inl rfl

theorem isLater_of_fetchedEpisodes (hair : AiringsListed py w rows) (hrow : row ∈ rows)
    (htrue : (initialState py w rows row).hasUnairedEpisodes = some true)
    {episodes : List SonarrEpisodeItem}
    (hfetched : fetchedEpisodes py w rows (initialState py w rows row) = some episodes) :
    (episodes.any fun episode => isLater py w episode.airDateUtc) = true := by
  obtain hnone | ⟨-, series, season, hseries, hseason, hlater, hlatest⟩ :=
    initialState_unaired py w rows row
  · rw [hnone] at htrue
    cases htrue
  · have hconfig : (initialState py w rows row).configId = row.configId := rfl
    have harr : (initialState py w rows row).arrSeriesId = row.arrId := rfl
    rw [fetchedEpisodes, hlatest, hconfig, harr] at hfetched
    simp only [Option.bind_some, Option.bind_eq_some_iff, Option.map_eq_some_iff] at hfetched
    obtain ⟨client, hclient, fetched, hfetch, rfl⟩ := hfetched
    obtain ⟨episode, hepisode, hnumber, hair⟩ :=
      hair row hrow series hseries season hseason hlater client hclient fetched hfetch
    have hpositive : 0 < season.seasonNumber := start_lt_of_bestFrom hseason
    exact List.any_eq_true.mpr
      ⟨episode, List.mem_filter.mpr ⟨hepisode, by simp [hnumber, hpositive]⟩,
      hair⟩

/-- Fetching the latest season repeats what the statistics said. -/
theorem stateRefines_loadLatestSeason (hair : AiringsListed py w rows) (hrow : row ∈ rows) :
    StateRefines (initialState py w rows row)
      (loadLatestSeason py w rows (initialState py w rows row)) := by
  have hfinale : (initialState py w rows row).hasFinale = none := rfl
  unfold loadLatestSeason
  split
  · exact StateRefines.refl _
  · exact StateRefines.refl _
  · rename_i episodes _ hfetched
    refine ⟨?_, ?_, rfl⟩
    · obtain hnone | ⟨htrue, -⟩ := initialState_unaired py w rows row
      · rw [hnone]
        exact ThreeValued.refines_none _
      · rw [htrue, isLater_of_fetchedEpisodes hair hrow htrue hfetched]
        exact ThreeValued.Refines.refl _
    · rw [hfinale]
      exact ThreeValued.refines_none _

/-! ## Values of a series -/

/-- The values of a series are known at least as well. -/
structure ValuesRefine (v v' : SonarrValues) : Prop where
  unaired : ThreeValued.Refines v.hasUnairedEpisodes v'.hasUnairedEpisodes
  finale : ThreeValued.Refines v.hasFinale v'.hasFinale
  status : ThreeValued.Refines v.seriesStatus v'.seriesStatus

/-- The aggregation is the three-valued disjunction over the refs, unknown without any. -/
theorem aggregateSonarrRefField_eq (values : List (Option Bool)) :
    aggregateSonarrRefField values = if values = [] then none else ThreeValued.disj values := by
  have hany : (values.any fun value => value = some true) = true ↔ some true ∈ values := by
    simp
  unfold aggregateSonarrRefField
  by_cases htrue : some true ∈ values
  · rw [if_pos (hany.mpr htrue), if_neg (List.ne_nil_of_mem htrue),
      (ThreeValued.disj_eq_true_iff values).mpr htrue]
  · rw [if_neg (mt hany.mp htrue)]
    by_cases hempty : values = []
    · simp [hempty]
    · by_cases hfalse : ∀ value ∈ values, value = some false
      · rw [if_pos ⟨hempty, by simpa using hfalse⟩, if_neg hempty,
          (ThreeValued.disj_eq_false_iff values).mpr hfalse]
      · rw [if_neg fun h => hfalse (by simpa using h.2), if_neg hempty]
        cases hdisj : ThreeValued.disj values with
        | none => rfl
        | some b =>
          cases b with
          | false => exact absurd ((ThreeValued.disj_eq_false_iff values).mp hdisj) hfalse
          | true => exact absurd ((ThreeValued.disj_eq_true_iff values).mp hdisj) htrue

theorem aggregateSonarrRefField_mono {values values' : List (Option Bool)}
    (h : List.Forall₂ ThreeValued.Refines values values') :
    ThreeValued.Refines (aggregateSonarrRefField values) (aggregateSonarrRefField values') := by
  rw [aggregateSonarrRefField_eq, aggregateSonarrRefField_eq]
  cases h with
  | nil => exact ThreeValued.Refines.refl _
  | cons hab htail => exact ThreeValued.disj_mono (List.Forall₂.cons hab htail)

/-- States of refs that repeat what others know give values of the series that do. -/
theorem sonarrValues_mono {states states' : List SonarrRefRuleState}
    (h : List.Forall₂ StateRefines states states') :
    ValuesRefine (sonarrValues py states) (sonarrValues py states') := by
  have hstatus : states'.map SonarrRefRuleState.seriesStatus =
      states.map SonarrRefRuleState.seriesStatus := by
    induction h with
    | nil => rfl
    | cons hab _ ih => rw [List.map_cons, List.map_cons, ih, hab.status]
  refine ⟨aggregateSonarrRefField_mono ?_, aggregateSonarrRefField_mono ?_, ?_⟩
  · rw [List.forall₂_map_left_iff, List.forall₂_map_right_iff]
    exact h.imp fun _ _ hab => hab.unaired
  · rw [List.forall₂_map_left_iff, List.forall₂_map_right_iff]
    exact h.imp fun _ _ hab => hab.finale
  · simp only [sonarrValues, hstatus]
    exact ThreeValued.Refines.refl _

/-- More fetches make the values of a series better known. -/
theorem fetchedValues_mono (hair : AiringsListed py w rows) {needed all : List Nat}
    {seriesId : Nat} (hall : seriesId ∈ all) :
    ValuesRefine (fetchedValues py w rows needed seriesId)
      (fetchedValues py w rows all seriesId) := by
  apply sonarrValues_mono
  rw [List.forall₂_map_left_iff, List.forall₂_map_right_iff]
  refine List.forall₂_same.mpr fun row hrow => ?_
  obtain ⟨hrow, hid⟩ := List.mem_filter.mp hrow
  rw [decide_eq_true_eq] at hid
  rw [if_pos (hid ▸ hall : row.dbId ∈ all)]
  split_ifs
  · exact StateRefines.refl _
  · exact stateRefines_loadLatestSeason hair hrow

/-! ## Rules -/

theorem completes_seriesContext {v v' : SonarrValues} (h : ValuesRefine v v') (base : Context) :
    PythonRuntime.Completes (seriesContext base v) (seriesContext base v') := by
  have hboolean {a b : Option Bool} (hab : ThreeValued.Refines a b)
      (havailable : (booleanValue a).isUnavailable = false) : booleanValue b = booleanValue a := by
    cases a with
    | none => cases havailable
    | some value => rw [hab value rfl]
  intro field hfield
  unfold seriesContext at hfield ⊢
  split_ifs at hfield ⊢
  · exact hboolean h.unaired hfield
  · exact hboolean h.finale hfield
  · cases hstatus : v.seriesStatus with
    | none =>
      rw [hstatus] at hfield
      cases hfield
    | some status => rw [h.status status hstatus]
  · rfl

mutual

/-- Completing a context brings no exception when the conditions on the completed fields return. -/
theorem noRaisingCondition_of_completes {py : PythonRuntime} {ctx ctx' : Context}
    (hc : PythonRuntime.Completes ctx ctx') (node : RuleNode)
    (hleaf : ∀ field, (ctx field).isUnavailable = true → (ctx' field).isUnavailable = false →
      ∀ condition ∈ iterConditionNodes py field node,
        ∃ b, py.matchesOperator field (ctx' field) (py.strEntry condition.operator)
          condition.value = .ok b)
    (h : py.NoRaisingCondition ctx node) : py.NoRaisingCondition ctx' node := by
  match node with
  | .scalar => exact h
  | .object type op children field operator value =>
    by_cases hgroup : type.isStr "group" = true
    · cases children with
      | none => simp [PythonRuntime.NoRaisingCondition, hgroup]
      | some nodes =>
        have hcondition : type.isStr "condition" = false := by
          cases type <;> simp_all [PyValue.isStr]
        simp only [PythonRuntime.NoRaisingCondition, hgroup, if_true] at h ⊢
        intro hvalid
        refine noRaisingConditions_of_completes hc nodes ?_ (h hvalid)
        simpa [iterConditionNodes, hcondition] using hleaf
    · by_cases htype : type.isStr "condition" = true
      · rw [PythonRuntime.noRaisingCondition_condition hgroup htype] at h ⊢
        intro havailable
        cases hu : (ctx (py.strEntry field)).isUnavailable with
        | true =>
          refine hleaf _ hu havailable ⟨operator, value⟩ ?_
          cases children <;> simp [iterConditionNodes, htype]
        | false =>
          rw [hc _ hu]
          exact h hu
      · cases children <;> simp [PythonRuntime.NoRaisingCondition, hgroup, htype]

theorem noRaisingConditions_of_completes {py : PythonRuntime} {ctx ctx' : Context}
    (hc : PythonRuntime.Completes ctx ctx') (nodes : List RuleNode)
    (hleaf : ∀ field, (ctx field).isUnavailable = true → (ctx' field).isUnavailable = false →
      ∀ condition ∈ iterChildren py field nodes,
        ∃ b, py.matchesOperator field (ctx' field) (py.strEntry condition.operator)
          condition.value = .ok b)
    (h : py.NoRaisingConditions ctx nodes) : py.NoRaisingConditions ctx' nodes := by
  match nodes with
  | [] => exact h
  | node :: nodes =>
    refine ⟨noRaisingCondition_of_completes hc node ?_ h.1,
      noRaisingConditions_of_completes hc nodes ?_ h.2⟩
    · intro field hu ha condition hmem
      exact hleaf field hu ha condition (List.mem_append_left _ hmem)
    · intro field hu ha condition hmem
      exact hleaf field hu ha condition (List.mem_append_right _ hmem)

end

/-- A valid condition on a Boolean Sonarr field returns. -/
theorem matchesOperator_boolean {py : PythonRuntime} {field operator : String}
    {actual value : PyValue}
    (hfield : field ∉ languageFields) (hoperator : operator ∈ booleanOperators) :
    ∃ b, py.matchesOperator field actual operator value = .ok b := by
  simp only [booleanOperators, List.mem_cons, List.not_mem_nil, or_false] at hoperator
  cases havailable : actual.isUnavailable with
  | true => exact ⟨false, PythonRuntime.matchesOperator_unavailable havailable⟩
  | false =>
    rcases hoperator with rfl | rfl | rfl | rfl <;>
      simp [PythonRuntime.matchesOperator, havailable, hfield]

/-- A rule keeps a definite state on a series when values become known, if its conditions on them
are valid. -/
theorem evaluateSeriesRuleState_mono {base : DefinedRule → Context} {v v' : SonarrValues}
    {rule : DefinedRule} (hv : ValuesRefine v v') (hvalid : ValidSonarrConditions py rule)
    (hstatus : v'.seriesStatus = v.seriesStatus ∨
      collectRuleConditions py.toPythonRuntime sonarrStatusField rule = []) {b : Bool}
    (h : evaluateSeriesRuleState py base v rule = .ok (some b)) :
    evaluateSeriesRuleState py base v' rule = .ok (some b) := by
  unfold evaluateSeriesRuleState at h ⊢
  unfold ValidSonarrConditions collectRuleConditions at hvalid
  unfold collectRuleConditions at hstatus
  cases hroot : rule.root with
  | none => simpa [hroot] using h
  | some root =>
    simp only [hroot] at h hvalid hstatus ⊢
    have hc := completes_seriesContext hv (base rule)
    rw [PythonRuntime.definiteState_stable_iff_noRaisingCondition py.toPythonRuntime hc root h]
    have hreturns := (PythonRuntime.evaluateNodeState_returns_iff root).mp ⟨_, h⟩
    refine noRaisingCondition_of_completes hc root ?_ hreturns
    intro field hunavailable havailable condition hcondition
    have hlanguage : sonarrUnairedField ∉ languageFields ∧ sonarrFinaleField ∉ languageFields := by
      decide
    by_cases hunaired : field = sonarrUnairedField
    · subst hunaired
      exact matchesOperator_boolean hlanguage.1 (hvalid _ (by simp) condition hcondition)
    · by_cases hfinale : field = sonarrFinaleField
      · subst hfinale
        exact matchesOperator_boolean hlanguage.2 (hvalid _ (by simp) condition hcondition)
      · -- on every other field the two contexts agree, or the rule has no condition
        unfold seriesContext at hunavailable havailable
        simp only [hunaired, hfinale, if_false] at hunavailable havailable
        split_ifs at hunavailable havailable with hfield
        · subst hfield
          obtain hsame | hnone := hstatus
          · rw [hsame, hunavailable] at havailable
            cases havailable
          · rw [hnone] at hcondition
            cases hcondition
        · rw [hunavailable] at havailable
          cases havailable

theorem fetchedValues_status (needed all : List Nat) (seriesId : Nat) :
    (fetchedValues py w rows all seriesId).seriesStatus =
      (fetchedValues py w rows needed seriesId).seriesStatus := by
  have hload (state : SonarrRefRuleState) :
      (loadLatestSeason py w rows state).seriesStatus = state.seriesStatus := by
    unfold loadLatestSeason
    split <;> rfl
  have hstatus (ids : List Nat) : (fetchedValues py w rows ids seriesId).seriesStatus =
      aggregateSonarrStatus py ((rows.filter (·.dbId = seriesId)).map fun row =>
        (initialState py w rows row).seriesStatus) := by
    simp only [fetchedValues, valuesOf, sonarrValues, List.map_map]
    congr 1
    apply List.map_congr_left
    intro row _
    simp only [Function.comp_apply]
    split_ifs
    · exact hload _
    · rfl
  rw [hstatus, hstatus]

/-- Without Sonarr rules, a series rule has no condition on a Sonarr field. -/
theorem collectRuleConditions_eq_nil {rules : List DefinedRule} {rule : DefinedRule}
    (hnone : (sonarrRules py rules).isEmpty = true) (hrule : rule ∈ rules)
    (hseries : normalizeRuleTarget rule.rule = targetSeries) {field : String}
    (hfield : field ∈ [sonarrStatusField, sonarrUnairedField, sonarrFinaleField]) :
    collectRuleConditions py.toPythonRuntime field rule = [] := by
  by_contra hne
  have hmem : rule ∈ sonarrRules py rules := by
    refine List.mem_filter.mpr ⟨List.mem_filter.mpr ⟨hrule, ?_⟩, ?_⟩
    · rw [hseries]
      decide
    · refine List.any_eq_true.mpr ⟨field, hfield, ?_⟩
      simpa using hne
  rw [List.isEmpty_iff.mp hnone] at hmem
  cases hmem

/-- A series rule with a definite state on a series under the values that the lazy fetch activates
has the same state under the values of a fetch for every series. -/
theorem lazyFetching_keepsStates (py : SonarrRuntime) (w : SonarrWorld) (db : Tables)
    (base : DefinedRule → Nat → Context) (preserved : List (Nat × Nat)) (rules : List DefinedRule)
    (hair : AiringsListed py w (presentRefRows db)) {result : SonarrRuleDataResult}
    (hrun : activateSonarrRuleDataForRules py w base db preserved rules = .ok result)
    {rule : DefinedRule} (hrule : rule ∈ rules)
    (hseries : normalizeRuleTarget rule.rule = targetSeries)
    (hvalid : ValidSonarrConditions py rule) {seriesId : Nat}
    (hid : seriesId ∈ presentSeriesIds db) {b : Bool}
    (h : evaluateSeriesRuleState py (fun rule => base rule seriesId) (result.values seriesId) rule =
      .ok (some b)) :
    evaluateSeriesRuleState py (fun rule => base rule seriesId)
      (eagerValues py w db seriesId) rule =
      .ok (some b) := by
  unfold activateSonarrRuleDataForRules at hrun
  split_ifs at hrun with hnone
  · obtain rfl := Except.ok.inj hrun
    have hrefines : ValuesRefine {} (eagerValues py w db seriesId) :=
      ⟨ThreeValued.refines_none _, ThreeValued.refines_none _, ThreeValued.refines_none _⟩
    exact evaluateSeriesRuleState_mono hrefines hvalid
      (.inr (collectRuleConditions_eq_nil hnone hrule hseries (by simp))) h
  · cases hneeded : neededSeriesIds py w base (presentRefRows db) rules (presentSeriesIds db) with
    | error err => simp [hneeded, bind, Except.bind] at hrun
    | ok needed =>
      cases hlacking : lackingSeries py base rules (fetchedValues py w (presentRefRows db) needed)
        (presentSeriesIds db) with
      | error err => simp [hneeded, hlacking, bind, Except.bind] at hrun
      | ok lacking =>
        have hvalues : result.values = fetchedValues py w (presentRefRows db) needed := by
          simp only [hneeded, hlacking, bind, Except.bind, pure, Except.pure,
            Except.ok.injEq] at hrun
          rw [← hrun]
        rw [hvalues] at h
        exact evaluateSeriesRuleState_mono (fetchedValues_mono hair hid) hvalid
          (.inl (fetchedValues_status _ _ _)) h

/-! ## A series that airs -/

/-- A series with a ref to a Sonarr series. -/
def airingTables : Tables :=
  { series := [{ id := 1, tmdbId := 1399, title := "Game of Thrones" }]
    seriesArrRefs := [{ id := 1, seriesId := 1, serviceConfigId := 1, arrSeriesId := 7 }] }

def airingTime : PyValue := .datetime ⟨10, none⟩

/-- The second season airs later, and its episodes say so. -/
def airingWorld : SonarrWorld where
  clients := [(1, 1)]
  getAllSeries _ := some
    [{ id := some 7, status := .str "continuing", seasons := [⟨1, none⟩, ⟨2, some airingTime⟩] }]
  getEpisodes _ _ _ := some [{ seasonNumber := .str "2", airDateUtc := airingTime }]
  now := 5

def sonarrRuntime : SonarrRuntime :=
  { PythonRuntime.plainRuntime with intOfStr := fun s => if s = "2" then some 2 else none }

/-- Nothing is left to air. -/
def nothingToAirRule : DefinedRule where
  rule := { id := 1, mediaType := .series }
  root := some (.condition sonarrUnairedField "is_false" .none)

theorem airingWorld_airingsListed :
    AiringsListed sonarrRuntime airingWorld (presentRefRows airingTables) := by
  intro row hrow series hseries season hseason _ client _ episodes hepisodes
  obtain rfl : row = ⟨7, 1, 1⟩ := by simpa [presentRefRows, seriesRefRows, airingTables] using
    (List.mem_filter.mp hrow).1
  obtain rfl : _ = series := Option.some.inj hseries
  obtain rfl : _ = season := Option.some.inj hseason
  obtain rfl : _ = episodes := Option.some.inj hepisodes
  exact ⟨_, .head _, rfl, rfl⟩

theorem nothingToAirRule_valid : ValidSonarrConditions sonarrRuntime nothingToAirRule := by
  intro field hfield condition hcondition
  simp only [List.mem_cons, List.not_mem_nil, or_false] at hfield
  obtain rfl | rfl := hfield
  · obtain rfl : condition = ⟨some (.str "is_false"), .none⟩ := List.mem_singleton.mp hcondition
    decide
  · exact absurd hcondition List.not_mem_nil

theorem lazyFetching_keepsStates_airing :
    evaluateSeriesRuleState sonarrRuntime (fun _ _ => .none)
      (eagerValues sonarrRuntime airingWorld airingTables 1) nothingToAirRule = .ok (some false) :=
  lazyFetching_keepsStates sonarrRuntime airingWorld airingTables (fun _ _ _ => .none) []
    [nothingToAirRule] airingWorld_airingsListed rfl (.head _) rfl nothingToAirRule_valid
      (by decide) rfl

end MediaMasterr.Candidates
