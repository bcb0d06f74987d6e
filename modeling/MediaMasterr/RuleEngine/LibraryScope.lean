import MediaMasterr.Foundations.Loops
import MediaMasterr.RuleEngine.Explanations

/-! # The library scope of a definition

`derive_path_scope_library_ids` collects the libraries that a definition names, without
regard to the groups around the conditions. What a match says about its library depends on
them: the libraries bound a match exactly when the definition does not match with its
library hidden. -/

namespace MediaMasterr.RuleEngine

open MediaMasterr.Foundations

def pathLibraryInclusionOperators : List String := ["contains_any", "contains_all", "in", "equals"]

def pathLibraryUnsupportedOperators : List String :=
  ["not_in", "not_contains_any", "not_contains_all", "not_equals", "exists", "not_exists"]

namespace PythonRuntime

variable (py : PythonRuntime)

/-- The loop of `derive_path_scope_library_ids`: what one condition adds to the ids. -/
def addLibraryIds (libraryIds : List String) (condition : ConditionNode) : Option (List String) :=
  let operator := py.lower (py.strEntry condition.operator)
  if operator ∈ pathLibraryUnsupportedOperators then none
  else if operator ∉ pathLibraryInclusionOperators then none
  else
    let values := py.normalizeConditionValues condition.value
    if values.isEmpty then none
    else some (Loops.appendMissing libraryIds values)

/-- `derive_path_scope_library_ids`. -/
def derivePathScopeLibraryIds (definition : RuleDefinition) : Option (List String) :=
  let conditions := py.collectRuleConditions definition (some "library.id")
  if conditions.isEmpty then none
  else (conditions.foldlM py.addLibraryIds []).filter fun ids => !ids.isEmpty

/-- Some library of a context is one of the ids, without regard to case and outer blanks. -/
def InLibraries (ids : List String) (library : PyValue) : Prop :=
  ∃ item ∈ library.asList, ∃ id ∈ ids, py.normalize item = py.lower id

/-- A match of the definition is in one of the libraries that are derived from it. -/
def BoundsLibraries (definition : RuleDefinition) (ctx : Context) : Prop :=
  ∀ ids root, py.derivePathScopeLibraryIds definition = some ids → definition.root? = some root →
    py.holds ctx root = true → py.InLibraries ids (ctx "library.id")

/-- What the derivation relies on of the interpreter's texts. -/
structure PlainTexts : Prop where
  lower_operator : ∀ operator ∈ libraryOperators, py.lower operator = operator
  str_nonblank : ∀ value : PyValue, value.exists = true → PythonText.strip (py.str value) ≠ ""

end PythonRuntime

/-- The context with another library. -/
def Context.withLibrary (ctx : Context) (library : PyValue) : Context :=
  Function.update ctx "library.id" library

namespace PythonRuntime

variable {py : PythonRuntime} {ctx ctx' : Context}

theorem holds_congr {node : RuleNode}
    (h : ∀ c ∈ node.conditionNodes, py.answer ctx c = py.answer ctx' c) :
    py.holds ctx node = py.holds ctx' node := by
  unfold holds
  rcases map_eq_map_cases (evaluateNode_congr node h {} {}) with
    ⟨err, hctx, hctx'⟩ | ⟨result, result', hctx, hctx', hverdict⟩
  · rw [hctx, hctx']
  · rw [hctx, hctx']
    exact hverdict

/-! ## The libraries that a definition names -/

section Derivation

variable {definition : RuleDefinition} {root : RuleNode} {ids acc : List String}
  {c : ConditionNode} {library : PyValue}

theorem addLibraryIds_eq_some (h : py.addLibraryIds acc c = some ids) :
    py.lower (py.strEntry c.operator) ∈ pathLibraryInclusionOperators ∧
      ∀ id, id ∈ ids ↔ id ∈ acc ∨ id ∈ py.normalizeConditionValues c.value := by
  unfold addLibraryIds at h
  dsimp only at h
  split_ifs at h with hunsupported hinclusion hempty
  obtain rfl := Option.some.inj h
  exact ⟨hinclusion, fun id => Loops.mem_appendMissing⟩

theorem of_foldlM_addLibraryIds {conditions : List ConditionNode}
    (h : conditions.foldlM py.addLibraryIds acc = some ids) :
    (∀ id ∈ acc, id ∈ ids) ∧ ∀ c ∈ conditions,
      py.lower (py.strEntry c.operator) ∈ pathLibraryInclusionOperators ∧
        ∀ id ∈ py.normalizeConditionValues c.value, id ∈ ids := by
  induction conditions generalizing acc with
  | nil =>
    obtain rfl := Option.some.inj h
    exact ⟨fun _ h => h, fun _ hc => absurd hc List.not_mem_nil⟩
  | cons c conditions ih =>
    rw [List.foldlM_cons] at h
    obtain ⟨middle, hfirst, hrest⟩ := Option.bind_eq_some_iff.mp h
    obtain ⟨hoperator, hmiddle⟩ := addLibraryIds_eq_some hfirst
    obtain ⟨hkept, hconditions⟩ := ih hrest
    refine ⟨fun id hid => hkept id ((hmiddle id).mpr (.inl hid)),
      List.forall_mem_cons.mpr ⟨⟨hoperator, fun id hid => ?_⟩, hconditions⟩⟩
    exact hkept id ((hmiddle id).mpr (.inr hid))

/-- The derivation has gone over every library condition. -/
theorem of_derivePathScopeLibraryIds (h : py.derivePathScopeLibraryIds definition = some ids)
    (hroot : definition.root? = some root) (hc : c ∈ root.conditionNodes)
    (hfield : py.strEntry c.field = "library.id") :
    py.lower (py.strEntry c.operator) ∈ pathLibraryInclusionOperators ∧
      ∀ id ∈ py.normalizeConditionValues c.value, id ∈ ids := by
  have hmem : c ∈ py.collectRuleConditions definition (some "library.id") := by
    rw [collectRuleConditions, hroot]
    exact List.mem_filter.mpr ⟨hc, by simp [hfield]⟩
  unfold derivePathScopeLibraryIds at h
  dsimp only at h
  split_ifs at h
  obtain ⟨hfold, -⟩ := Option.filter_eq_some_iff.mp h
  exact (of_foldlM_addLibraryIds hfold).2 c hmem

end Derivation

/-! ## Library conditions -/

section LibraryConditions

variable {ctx : Context} {c : ConditionNode} {library library' : PyValue}

theorem withLibrary_of_ne {field : String} (h : field ≠ "library.id") :
    ctx.withLibrary library field = ctx field := Function.update_of_ne h _ _

@[simp] theorem withLibrary_library : ctx.withLibrary library "library.id" = library :=
  Function.update_self _ _ _

/-- The other conditions do not see the library. -/
theorem answer_withLibrary (h : py.strEntry c.field ≠ "library.id") :
    py.answer (ctx.withLibrary library) c = py.answer (ctx.withLibrary library') c := by
  rw [answer, answer, withLibrary_of_ne h, withLibrary_of_ne h]

theorem answer_hidden (h : py.strEntry c.field = "library.id") :
    py.answer (ctx.withLibrary .unavailable) c = .ok false := by
  rw [answer, h, withLibrary_library]
  exact matchesOperator_unavailable rfl

/-- The values that an inclusion compares. -/
def libraryValues (py : PythonRuntime) (value : PyValue) : List String :=
  (value.asList.filter PyValue.exists).map py.normalize

variable (ctx) in
/-- The inclusions of a library condition. -/
theorem answer_library (h : py.strEntry c.field = "library.id")
    (hoperator : py.strEntry c.operator ∈ ["contains_any", "contains_all", "in"])
    (hlibrary : library ≠ .unavailable) : ∃ verdict,
      py.answer (ctx.withLibrary library) c = .ok verdict ∧
        (verdict = true → ∃ text ∈ py.libraryValues library, text ∈ py.libraryValues c.value) := by
  have hunavailable : library.isUnavailable = false := by
    cases library <;> first | rfl | exact absurd rfl hlibrary
  have hlist : py.answer (ctx.withLibrary library) c =
      py.matchesListOperator "library.id" library (py.strEntry c.operator) c.value := by
    rw [answer, h, withLibrary_library]
    simp only [List.mem_cons, List.not_mem_nil, or_false] at hoperator
    rcases hoperator with heq | heq | heq <;>
      simp [matchesOperator, hunavailable, heq, listOperators]
  have hvalues : ∀ value, py.listValues "library.id" value = .ok (py.libraryValues value) := by
    intro value
    rw [listValues, if_neg (by decide), if_neg (by decide)]
    rfl
  have hfield : "library.id" ∉ failClosedListFields := by decide
  rw [hlist, matchesListOperator, if_neg (by decide), hvalues, hvalues]
  simp only [bind, Except.bind, hfield, false_and, if_false, pure, Except.pure]
  by_cases hempty : py.libraryValues c.value = []
  · rw [if_pos hempty]
    exact ⟨false, rfl, fun hfalse => absurd hfalse Bool.false_ne_true⟩
  · rw [if_neg hempty]
    refine ⟨_, rfl, fun hverdict => ?_⟩
    simp only [List.mem_cons, List.not_mem_nil, or_false] at hoperator
    rcases hoperator with heq | heq | heq
    · simpa [listVerdict, heq] using hverdict
    · obtain ⟨text, rest, hcons⟩ := List.exists_cons_of_ne_nil hempty
      have htext : text ∈ py.libraryValues c.value := hcons ▸ List.mem_cons_self
      have hall : ∀ text ∈ py.libraryValues c.value, text ∈ py.libraryValues library := by
        simpa [listVerdict, heq] using hverdict
      exact ⟨text, hall text htext, htext⟩
    · simpa [listVerdict, heq] using hverdict

end LibraryConditions

/-! ## Soundness -/

section Soundness

variable {definition : RuleDefinition} {root : RuleNode} {ids : List String} {c : ConditionNode}
  {library : PyValue} {text : String}

/-- What an inclusion compares is named in the condition. -/
theorem exists_conditionValue (hpy : py.PlainTexts) {value : PyValue}
    (h : text ∈ py.libraryValues value) :
    ∃ id ∈ py.normalizeConditionValues value, text = py.lower id := by
  obtain ⟨item, hitem, rfl⟩ := List.mem_map.mp h
  obtain ⟨hitem, hexists⟩ := List.mem_filter.mp hitem
  have hsome : item.isNone = false := by
    cases item <;> first | rfl | simp [PyValue.exists] at hexists
  refine ⟨PythonText.strip (py.str item), List.mem_filter.mpr ⟨List.mem_map.mpr ⟨item, ?_, rfl⟩,
    decide_eq_true (hpy.str_nonblank item hexists)⟩, rfl⟩
  refine List.mem_filter.mpr ⟨?_, by rw [hsome]; rfl⟩
  cases value <;> first | exact hitem | exact absurd hitem List.not_mem_nil

theorem inclusion_of_derived (hpy : py.PlainTexts)
    (haccepted : py.validateRuleDefinition (some definition) = .ok ())
    (hids : py.derivePathScopeLibraryIds definition = some ids)
    (hroot : definition.root? = some root) (hc : c ∈ root.conditionNodes)
    (hfield : py.strEntry c.field = "library.id") :
    py.strEntry c.operator ∈ ["contains_any", "contains_all", "in"] := by
  obtain ⟨allowed, hallowed, hmem⟩ := allowed_of_validateCondition
    (validateCondition_of_validateRuleDefinition haccepted hroot hc)
  have htable : fieldAllowedOperators "library.id" = some libraryOperators := by decide +kernel
  rw [hfield, htable] at hallowed
  obtain rfl := Option.some.inj hallowed
  obtain ⟨hinclusion, -⟩ := of_derivePathScopeLibraryIds hids hroot hc hfield
  rw [hpy.lower_operator _ hmem] at hinclusion
  have hequals : py.strEntry c.operator ≠ "equals" := fun heq =>
    absurd (heq ▸ hmem) (by decide)
  simpa [pathLibraryInclusionOperators, hequals] using hinclusion

/-- With no library condition that holds, the definition does not see its library. -/
theorem holds_hidden (h : ∀ c ∈ root.conditionNodes, py.strEntry c.field = "library.id" →
    py.answer (ctx.withLibrary library) c = .ok false) :
    py.holds (ctx.withLibrary library) root = py.holds (ctx.withLibrary .unavailable) root := by
  refine holds_congr fun c hc => ?_
  by_cases hfield : py.strEntry c.field = "library.id"
  · rw [h c hc hfield, answer_hidden hfield]
  · exact answer_withLibrary hfield

/-- The derived libraries bound the matches of a definition in every library exactly when it
matches only by its library conditions. -/
theorem boundsLibraries_iff (hpy : py.PlainTexts)
    (haccepted : py.validateRuleDefinition (some definition) = .ok ())
    (hroot : definition.root? = some root) (ctx : Context) :
    (∀ library, library ≠ .unavailable → py.BoundsLibraries definition (ctx.withLibrary library)) ↔
      py.derivePathScopeLibraryIds definition = none ∨
        py.holds (ctx.withLibrary .unavailable) root = false := by
  constructor
  · intro hbounds
    cases hids : py.derivePathScopeLibraryIds definition with
    | none => exact .inl rfl
    | some ids =>
      refine .inr (Bool.eq_false_iff.mpr fun hhidden => ?_)
      -- a medium of no library matches as well
      have hmatch : py.holds (ctx.withLibrary (.list [])) root = true := by
        rw [holds_hidden fun c hc hfield => ?_]
        · exact hhidden
        · obtain ⟨verdict, hanswer, hverdict⟩ := answer_library ctx hfield
            (inclusion_of_derived hpy haccepted hids hroot hc hfield)
            (PyValue.noConfusion : PyValue.list [] ≠ .unavailable)
          cases verdict with
          | false => exact hanswer
          | true =>
            obtain ⟨text, htext, -⟩ := hverdict rfl
            exact absurd htext List.not_mem_nil
      obtain ⟨item, hitem, -⟩ := hbounds (.list []) PyValue.noConfusion ids root hids hroot hmatch
      rw [withLibrary_library] at hitem
      exact absurd hitem List.not_mem_nil
  · rintro (hnone | hhidden) library hlibrary ids root' hids hroot' hmatch
    · cases hnone.symm.trans hids
    · obtain rfl := Option.some.inj (hroot.symm.trans hroot')
      by_contra hout
      have hhidden' : py.holds (ctx.withLibrary library) root = false := by
        rw [holds_hidden fun c hc hfield => ?_]
        · exact hhidden
        · obtain ⟨verdict, hanswer, hverdict⟩ := answer_library ctx hfield
            (inclusion_of_derived hpy haccepted hids hroot hc hfield) hlibrary
          cases verdict with
          | false => exact hanswer
          | true =>
            obtain ⟨text, hlibraryText, hconditionText⟩ := hverdict rfl
            obtain ⟨item, hitem, rfl⟩ := List.mem_map.mp hlibraryText
            obtain ⟨id, hid, heq⟩ := exists_conditionValue hpy hconditionText
            refine absurd ⟨item, ?_, id, ?_, heq⟩ hout
            · rw [withLibrary_library]
              exact List.mem_of_mem_filter hitem
            · exact (of_derivePathScopeLibraryIds hids hroot hc hfield).2 id hid
      exact Bool.false_ne_true (hhidden'.symm.trans hmatch)

end Soundness

/-! ## Two definitions -/

/-- The interpreter, which prints every value. -/
def printingRuntime : PythonRuntime :=
  { plainRuntime with
    str := fun
      | .none => "None"
      | .bool b => if b then "True" else "False"
      | .str s => s
      | _ => "object" }

theorem printingRuntime_plainTexts : printingRuntime.PlainTexts where
  lower_operator := by decide +kernel
  str_nonblank value h := by
    have hobject : PythonText.strip "object" ≠ "" := by decide
    cases value with
    | none => cases h
    | str s =>
      have hs : PythonText.strip s ≠ "" := by simpa [PyValue.exists] using h
      exact hs
    | bool b => cases b <;> decide
    | int | float | list | dict | datetime | date | unavailable => exact hobject

/-- A movie below `/movies`. -/
def movieContext : Context := fun field =>
  if field = "media.path" then .list [.str "/movies/Film/film.mkv"] else .none

/-- The definition of one group over a library and a path. -/
def libraryAndPath (op : String) : RuleDefinition :=
  [("root", .group op
    [.condition "library.id" "contains_any" (.list [.str "lib-1"]),
     .condition "media.path" "contains_any" (.list [.str "/movies"])])]

/-- A movie of another library matches by its path alone. -/
theorem not_boundsLibraries_or :
    printingRuntime.validateRuleDefinition (some (libraryAndPath "or")) = .ok () ∧
      ¬printingRuntime.BoundsLibraries (libraryAndPath "or")
        (movieContext.withLibrary (.list [.str "lib-2"])) := by
  refine ⟨by rfl, fun hbounds => ?_⟩
  obtain ⟨item, hitem, id, hid, heq⟩ :=
    hbounds ["lib-1"] _ (by decide +kernel) rfl (by decide +kernel)
  rw [withLibrary_library] at hitem
  obtain rfl := List.mem_singleton.mp hitem
  obtain rfl := List.mem_singleton.mp hid
  exact absurd heq (by decide +kernel)

theorem boundsLibraries_iff_and :
    (∀ library, library ≠ .unavailable → printingRuntime.BoundsLibraries (libraryAndPath "and")
      (movieContext.withLibrary library)) ↔
        printingRuntime.derivePathScopeLibraryIds (libraryAndPath "and") = none ∨
          printingRuntime.holds (movieContext.withLibrary .unavailable)
            (.group "and"
              [.condition "library.id" "contains_any" (.list [.str "lib-1"]),
               .condition "media.path" "contains_any" (.list [.str "/movies"])]) = false :=
  boundsLibraries_iff printingRuntime_plainTexts (by rfl) rfl movieContext

end PythonRuntime

end MediaMasterr.RuleEngine
