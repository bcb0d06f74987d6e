import MediaMasterr.Candidates.ArrTags
import MediaMasterr.RuleEngine.Agreement

/-! # Live tags

After a refresh the `arr.tags` conditions of the rules should see the labels that
Radarr has. The refresh takes off and puts back exact lower-case labels, while the
conditions compare without case and search within labels; they agree exactly when
no label between the two is decisive. -/

namespace MediaMasterr.Candidates

open MediaMasterr.Foundations MediaMasterr.Database MediaMasterr.RuleEngine

/-- What the interpreter's `str` and case tables do. -/
structure TextLaws (py : PythonRuntime) : Prop where
  str_str : ∀ s, py.str (.str s) = s
  str_nonblank : ∀ v : PyValue, (∀ s, v ≠ .str s) → PythonText.strip (py.str v) ≠ ""
  lower_empty : py.lower "" = ""
  normalize_normalize : ∀ s, normalizeLabel py (normalizeLabel py s) = normalizeLabel py s

section Row

variable (py : PythonRuntime) (wantedLabels : List String) (configs : List Nat)
variable (fetch : Nat → Option ArrLibrary) (rows : List ArrRefRow) (dbId : Nat)

/-- The catalog with the labels in the letter case of the instance. -/
def rawLabels (tags : List ArrTag) : Dict Nat String :=
  Dict.build (fun tag : ArrTag => if normalizeLabel py tag.label = "" then none else some tag.id)
    (fun tag => tag.label) tags

/-- The labels that the instances have for a row. -/
def liveLabels : List String :=
  (rows.filter (·.dbId = dbId)).flatMap fun row =>
    match fetch row.configId with
    | none => []
    | some library =>
      (library.items.filter (·.id = row.arrId)).flatMap fun item =>
        item.tags.filterMap (rawLabels py library.tags).get?

/-- Every configuration with a ref to the row is asked and answers. -/
def Refreshed : Prop :=
  ∀ row ∈ rows, row.dbId = dbId → row.configId ∈ configs ∧ (fetch row.configId).isSome

end Row

variable {py : PythonRuntime} {wantedLabels : List String} {configs : List Nat}
variable {fetch : Nat → Option ArrLibrary} {rows : List ArrRefRow} {dbId : Nat} {label : String}

/-! ## The added labels -/

theorem tagIdToLabel_eq (tags : List ArrTag) (tagId : Nat) :
    (tagIdToLabel py tags).get? tagId = ((rawLabels py tags).get? tagId).map
      (normalizeLabel py) := by
  rw [tagIdToLabel, rawLabels, Dict.get?_build, Dict.get?_build, Option.map_map]
  rfl

theorem mem_liveLabels : label ∈ liveLabels py fetch rows dbId ↔
    ∃ row ∈ rows, row.dbId = dbId ∧ ∃ library, fetch row.configId = some library ∧
      ∃ item ∈ library.items, item.id = row.arrId ∧
        ∃ tagId ∈ item.tags, (rawLabels py library.tags).get? tagId = some label := by
  simp only [liveLabels, List.mem_flatMap, List.mem_filter, decide_eq_true_eq, and_assoc]
  refine exists_congr fun row => and_congr_right fun _ => and_congr_right fun _ => ?_
  cases fetch row.configId with
  | none => simp
  | some library => simp [List.mem_flatMap, List.mem_filter, List.mem_filterMap, and_assoc]

/-- A live label is not blank. -/
theorem normalizeLabel_ne_of_mem_liveLabels (h : label ∈ liveLabels py fetch rows dbId) :
    normalizeLabel py label ≠ "" := by
  obtain ⟨row, -, -, library, -, item, -, -, tagId, -, hlabel⟩ := mem_liveLabels.mp h
  obtain ⟨tag, -, hkey, rfl⟩ := Dict.of_get?_build hlabel
  intro hblank
  simp [hblank] at hkey

/-- The database id of an item: every ref has its own entry. -/
theorem arrToDb_eq_some_iff (hrows : (rows.map fun row => (row.configId, row.arrId)).Nodup)
    {config arrId : Nat} :
    ((arrToDbByConfig rows).get? config).bind (·.get? arrId) = some dbId ↔
      ∃ row ∈ rows, row.configId = config ∧ row.arrId = arrId ∧ row.dbId = dbId := by
  have hget : ((arrToDbByConfig rows).get? config).bind (·.get? arrId) =
      (((arrToDbByConfig rows).get? config).getD ∅).get? arrId := by
    cases (arrToDbByConfig rows).get? config <;> rfl
  rw [hget, arrToDbByConfig, Dict.get?_foldl_setIn, Option.map_eq_some_iff]
  constructor
  · rintro ⟨row, hfind, rfl⟩
    have hkeys := List.find?_some hfind
    simp only [decide_eq_true_eq] at hkeys
    exact ⟨row, List.mem_reverse.mp (List.mem_of_find?_eq_some hfind), hkeys.1, hkeys.2, rfl⟩
  · rintro ⟨row, hrow, rfl, rfl, rfl⟩
    have hsome : (rows.reverse.find? fun t =>
        t.configId = row.configId ∧ t.arrId = row.arrId).isSome :=
      List.find?_isSome.mpr ⟨row, List.mem_reverse.mpr hrow, by simp⟩
    obtain ⟨row', hfind⟩ := Option.isSome_iff_exists.mp hsome
    have hkeys := List.find?_some hfind
    simp only [decide_eq_true_eq] at hkeys
    have hmem := List.mem_reverse.mp (List.mem_of_find?_eq_some hfind)
    obtain rfl := List.inj_on_of_nodup_map hrows hmem hrow (Prod.ext hkeys.1 hkeys.2)
    exact ⟨row', hfind, rfl⟩

theorem mem_labelAdditionsOf {config : Nat} :
    (dbId, label) ∈ labelAdditionsOf py wantedLabels fetch rows config ↔
      label ∈ wantedLabels ∧ ∃ library, fetch config = some library ∧
        ∃ item ∈ library.items, (∃ tagId ∈ item.tags, ∃ live,
          (rawLabels py library.tags).get? tagId = some live ∧ normalizeLabel py live = label) ∧
        ((arrToDbByConfig rows).get? config).bind (·.get? item.id) = some dbId := by
  unfold labelAdditionsOf
  cases fetch config with
  | none => simp
  | some library =>
    have hpairs : ∀ arrId, (label, arrId) ∈ collectArrItemIdsByLabel py wantedLabels library ↔
        label ∈ wantedLabels ∧ ∃ item ∈ library.items, (∃ tagId ∈ item.tags, ∃ live,
          (rawLabels py library.tags).get? tagId = some live ∧ normalizeLabel py live = label) ∧
          item.id = arrId := by
      intro arrId
      simp only [collectArrItemIdsByLabel, List.mem_flatMap, List.mem_filterMap, tagIdToLabel_eq,
        Option.map_eq_some_iff, Option.filter_eq_some_iff, decide_eq_true_eq, Prod.mk.injEq]
      grind
    simp only [List.mem_filterMap, Option.map_eq_some_iff, Prod.mk.injEq, Prod.exists]
    constructor
    · rintro ⟨_, arrId, hpair, dbId', hdb, rfl, rfl⟩
      obtain ⟨hwanted, item, hitem, hlabel, rfl⟩ := (hpairs arrId).mp hpair
      exact ⟨hwanted, library, rfl, item, hitem, hlabel, hdb⟩
    · rintro ⟨hwanted, library', hlibrary, item, hitem, hlabel, hdb⟩
      obtain rfl := Option.some.inj hlibrary
      exact ⟨label, item.id, (hpairs item.id).mpr ⟨hwanted, item, hitem, hlabel, rfl⟩,
        dbId, hdb, rfl, rfl⟩

theorem mem_labelAdditions (hrows : (rows.map fun row => (row.configId, row.arrId)).Nodup)
    (hrefreshed : Refreshed configs fetch rows dbId) :
    label ∈ (labelAdditions py wantedLabels configs fetch rows).setAt dbId ↔
      label ∈ wantedLabels ∧ ∃ live ∈ liveLabels py fetch rows dbId,
        normalizeLabel py live = label := by
  have hempty : label ∉ (∅ : Dict Nat (List String)).setAt dbId := List.not_mem_nil
  rw [labelAdditions, Dict.mem_setAt_foldl_addTo, or_iff_left hempty, List.mem_flatMap]
  simp only [mem_labelAdditionsOf, arrToDb_eq_some_iff hrows, mem_liveLabels]
  constructor
  · rintro ⟨config, -, hwanted, library, hlibrary, item, hitem, ⟨tagId, htag, live, hlive, hlabel⟩,
      row, hrow, rfl, hid, rfl⟩
    exact ⟨hwanted, live, ⟨row, hrow, rfl, library, hlibrary, item, hitem, hid.symm, tagId, htag,
      hlive⟩, hlabel⟩
  · rintro ⟨hwanted, live, ⟨row, hrow, rfl, library, hlibrary, item, hitem, hid, tagId, htag, hlive⟩,
      hlabel⟩
    exact ⟨row.configId, (hrefreshed row hrow rfl).1, hwanted, library, hlibrary, item, hitem,
      ⟨tagId, htag, live, hlive, hlabel⟩, row, hrow, rfl, hid.symm, rfl⟩

/-! ## The tags after a refresh -/

theorem mem_dbIdsOf (hrows : (rows.map fun row => (row.configId, row.arrId)).Nodup)
    {configs : List Nat} :
    dbId ∈ dbIdsOf rows configs ↔ ∃ row ∈ rows, row.configId ∈ configs ∧ row.dbId = dbId := by
  have hentries : dbId ∈ dbIdsOf rows configs ↔ ∃ config ∈ configs, ∃ arrId,
      ((arrToDbByConfig rows).get? config).bind (·.get? arrId) = some dbId := by
    simp only [dbIdsOf, List.mem_flatMap, List.mem_filter, decide_eq_true_eq, Prod.exists,
      Dict.mem_values_iff, ← Dict.get?_eq_some_iff, Option.bind_eq_some_iff]
    constructor
    · rintro ⟨config, mapping, ⟨hget, hconfig⟩, arrId, hid⟩
      exact ⟨config, hconfig, arrId, mapping, hget, hid⟩
    · rintro ⟨config, hconfig, arrId, mapping, hget, hid⟩
      exact ⟨config, mapping, ⟨hget, hconfig⟩, arrId, hid⟩
  rw [hentries]
  simp only [arrToDb_eq_some_iff hrows]
  constructor
  · rintro ⟨config, hconfig, arrId, row, hrow, rfl, -, rfl⟩
    exact ⟨row, hrow, hconfig, rfl⟩
  · rintro ⟨row, hrow, hconfig, rfl⟩
    exact ⟨row.configId, hconfig, row.arrId, row, hrow, rfl, rfl, rfl⟩

theorem mem_refreshableDbIds (hrows : (rows.map fun row => (row.configId, row.arrId)).Nodup) :
    dbId ∈ refreshableDbIds configs fetch rows ↔
      (∃ row ∈ rows, row.dbId = dbId ∧ row.configId ∈ configs ∧ (fetch row.configId).isSome) ∧
        ∀ row ∈ rows, row.dbId = dbId → row.configId ∈ configs → (fetch row.configId).isSome := by
  simp only [refreshableDbIds, List.mem_filter, mem_dbIdsOf hrows, decide_eq_true_eq,
    Option.isNone_iff_eq_none, not_exists, not_and, Option.isSome_iff_ne_none, ne_eq]
  refine and_congr ⟨?_, ?_⟩ ⟨?_, ?_⟩
  · rintro ⟨row, hrow, ⟨hconfig, hfetch⟩, hid⟩
    exact ⟨row, hrow, hid, hconfig, hfetch⟩
  · rintro ⟨row, hrow, hid, hconfig, hfetch⟩
    exact ⟨row, hrow, ⟨hconfig, hfetch⟩, hid⟩
  · exact fun h row hrow hid hconfig hfetch => h row hrow ⟨hconfig, hfetch⟩ hid
  · exact fun h row hrow hfailed hid => h row hrow hid hfailed.1 hfailed.2

/-- The labels of a row that a refresh leaves as they are. -/
def keptLabels (wantedLabels : List String) (rows : List ArrRefRow) (dbId : Nat)
    (arrTags : Option (List String)) : List String :=
  (arrTags.getD []).filter fun label => label ∉ wantedLabels ∨ ∀ row ∈ rows, row.dbId ≠ dbId

theorem mem_refreshTags {arrTags : Option (List String)}
    (hrows : (rows.map fun row => (row.configId, row.arrId)).Nodup)
    (hrefreshed : Refreshed configs fetch rows dbId) :
    label ∈ (refreshTags py wantedLabels configs fetch rows dbId arrTags).getD [] ↔
      label ∈ keptLabels wantedLabels rows dbId arrTags ∨
        (label ∈ wantedLabels ∧ ∃ live ∈ liveLabels py fetch rows dbId,
          normalizeLabel py live = label) := by
  have hrefreshable : dbId ∈ refreshableDbIds configs fetch rows ↔
    ∃ row ∈ rows, row.dbId = dbId := by
    rw [mem_refreshableDbIds hrows]
    constructor
    · rintro ⟨⟨row, hrow, hid, -⟩, -⟩
      exact ⟨row, hrow, hid⟩
    · rintro ⟨row, hrow, hid⟩
      exact ⟨⟨row, hrow, hid, hrefreshed row hrow hid⟩,
        fun row' hrow' hid' _ => (hrefreshed row' hrow' hid').2⟩
  rw [refreshTags, keptLabels]
  by_cases href : ∃ row ∈ rows, row.dbId = dbId
  · have hnot : ¬∀ row ∈ rows, row.dbId ≠ dbId := fun h => by
      obtain ⟨row, hrow, hid⟩ := href
      exact h row hrow hid
    rw [if_pos (hrefreshable.mpr href)]
    simp only [Option.getD_some, List.mem_insertionSort, List.mem_eraseDups, List.mem_append,
      List.mem_filter, decide_eq_true_eq, hnot, or_false, mem_labelAdditions hrows hrefreshed]
  · have hall : ∀ row ∈ rows, row.dbId ≠ dbId := fun row hrow hid => href ⟨row, hrow, hid⟩
    have hnone : ∀ live, live ∉ liveLabels py fetch rows dbId := by
      intro live hlive
      obtain ⟨row, hrow, hid, -⟩ := mem_liveLabels.mp hlive
      exact hall row hrow hid
    have hkept : (∀ row ∈ rows, row.dbId ≠ dbId) ↔ True := iff_true_intro hall
    rw [if_neg fun h => href (hrefreshable.mp h)]
    simp only [hkept, hnone, or_true, decide_true, List.filter_true, false_and, exists_false,
      and_false, or_false]

/-! ## The operators of tag conditions -/

def tagOperators : List String :=
  ["equals", "not_equals", "in", "not_in", "contains_any", "not_contains_any", "contains_all",
    "not_contains_all", "contains_substring", "not_contains_substring"]

/-- The tags of a row, in a rule context. -/
def tagsValue (labels : List String) : PyValue := .list (labels.map .str)

/-- The tags as a condition compares them. -/
def normalizedTags (py : PythonRuntime) (labels : List String) : List String :=
  (labels.filter (PythonText.strip · ≠ "")).map (normalizeLabel py)

/-- The values of a condition as it compares them. -/
def conditionLabels (py : PythonRuntime) (value : PyValue) : List String :=
  (value.asList.filter PyValue.exists).map py.normalize

/-- What an operator finds out about the tags, before a negation. -/
def finds (operator : String) (expected tags : List String) : Bool :=
  if operator ∈ tagSubstringOperators then
    tags.any fun tag => expected.any (PythonText.contains tag)
  else if operator = "contains_all" ∨ operator = "not_contains_all" then
    expected.all (· ∈ tags)
  else tags.any (· ∈ expected)

def negates (operator : String) : Bool :=
  operator ∈ ["not_equals", "not_in", "not_contains_any", "not_contains_all",
    "not_contains_substring"]

theorem normalizedTags_eq (hpy : TextLaws py) (labels : List String) :
    ((tagsValue labels).asList.filter PyValue.exists).map py.normalize =
      normalizedTags py labels := by
  rw [tagsValue, PyValue.asList, List.filter_map, List.map_map, normalizedTags]
  have hexists : (PyValue.exists ∘ PyValue.str) = fun s => decide (PythonText.strip s ≠ "") := by
    funext s
    rw [Bool.eq_iff_iff]
    simp [PyValue.exists]
  have hnormalize : (py.normalize ∘ PyValue.str) = normalizeLabel py := by
    funext s
    simp [PythonRuntime.normalize, normalizeLabel, hpy.str_str]
  rw [hexists, hnormalize]

theorem matchesListOperator_tags (hpy : TextLaws py) (operator : String) (labels : List String)
    (value : PyValue) :
    py.matchesListOperator "arr.tags" (tagsValue labels) operator value =
      .ok (!(conditionLabels py value).isEmpty && PythonRuntime.listVerdict operator
        ((normalizedTags py labels).any (· ∈ conditionLabels py value))
        ((conditionLabels py value).all (· ∈ normalizedTags py labels))) := by
  have hfield : "arr.tags" ∉ languageFields ∧ "arr.tags" ∉ countryFields ∧
      "arr.tags" ∉ failClosedListFields ∧ "arr.tags" ≠ "media.path" := by decide
  have hexpected : (value.asList.filter PyValue.exists).map py.normalize =
      conditionLabels py value := rfl
  obtain ⟨hlanguage, hcountry, hclosed, hpath⟩ := hfield
  simp only [PythonRuntime.matchesListOperator, PythonRuntime.listValues, if_neg hlanguage,
    if_neg hcountry, if_neg hpath, normalizedTags_eq hpy labels, hexpected]
  cases hempty : conditionLabels py value with
  | nil => simp [hclosed, bind, Except.bind, pure, Except.pure]
  | cons e es => simp [hclosed, bind, Except.bind, pure, Except.pure]

theorem matchesSubstring_tags (hpy : TextLaws py) (operator : String) (labels : List String)
    (value : PyValue) :
    py.matchesSubstring (tagsValue labels) operator value =
      (!(conditionLabels py value).isEmpty &&
        (((normalizedTags py labels).any fun tag =>
          (conditionLabels py value).any (PythonText.contains tag)) ^^
            decide (operator ≠ "contains_substring"))) := by
  have hexpected : (value.asList.filter PyValue.exists).map py.normalize =
      conditionLabels py value := rfl
  simp only [PythonRuntime.matchesSubstring, normalizedTags_eq hpy labels, hexpected]
  cases hempty : conditionLabels py value with
  | nil => simp
  | cons e es => by_cases hop : operator = "contains_substring" <;> simp [hop]

theorem matchesOperator_eq (hpy : TextLaws py) {operator : String} (h : operator ∈ tagOperators)
    (labels : List String) (value : PyValue) :
    py.matchesOperator "arr.tags" (tagsValue labels) operator value =
      .ok (!(conditionLabels py value).isEmpty &&
        (finds operator (conditionLabels py value) (normalizedTags py labels) ^^
          negates operator)) := by
  have hlist := matchesListOperator_tags hpy 
  have hsubstring := matchesSubstring_tags hpy 
  have havailable : (tagsValue labels).isUnavailable = false := rfl
  have hmulti : "arr.tags" ∈ multiValueTextFields := by decide
  simp only [tagOperators, List.mem_cons, List.not_mem_nil, or_false] at h
  rcases h with rfl | rfl | rfl | rfl | rfl | rfl | rfl | rfl | rfl | rfl <;>
    simp [PythonRuntime.matchesOperator, havailable, listOperators, tagSubstringOperators, hmulti,
      hlist, hsubstring, PythonRuntime.listVerdict, finds, negates]

/-! ## Conditions after a refresh -/

section Decided

variable (py : PythonRuntime) (operator : String) (value : PyValue)

/-- A stored label that the refresh keeps does not settle a condition on its own; and a live
label that settles a search within labels is named by a rule, or the search has a kept label. -/
def TagsDecided (wantedLabels kept live : List String) : Prop :=
  let expected := conditionLabels py value
  let keptTags := normalizedTags py kept
  let liveTags := normalizedTags py live
  if operator ∈ tagSubstringOperators then
    ((∃ tag ∈ keptTags, ∃ e ∈ expected, PythonText.contains tag e) →
      ∃ tag ∈ liveTags, ∃ e ∈ expected, PythonText.contains tag e) ∧
    ((∃ tag ∈ liveTags, ∃ e ∈ expected, PythonText.contains tag e) →
      (∃ tag ∈ keptTags, ∃ e ∈ expected, PythonText.contains tag e) ∨
        ∃ tag ∈ liveTags, tag ∈ wantedLabels ∧ ∃ e ∈ expected, PythonText.contains tag e)
  else if operator = "contains_all" ∨ operator = "not_contains_all" then
    (∀ e ∈ expected, e ∈ keptTags ∨ e ∈ liveTags) → ∀ e ∈ expected, e ∈ liveTags
  else (∃ e ∈ expected, e ∈ keptTags) → ∃ e ∈ expected, e ∈ liveTags

end Decided

theorem mem_normalizedTags {labels : List String} {tag : String} :
    tag ∈ normalizedTags py labels ↔
      ∃ label ∈ labels, PythonText.strip label ≠ "" ∧ normalizeLabel py label = tag := by
  simp [normalizedTags, and_assoc]

theorem strip_ne_of_normalizeLabel_ne (hpy : TextLaws py) (h : normalizeLabel py label ≠ "") :
    PythonText.strip label ≠ "" := by
  intro hstrip
  rw [normalizeLabel, hstrip, hpy.lower_empty] at h
  exact h rfl

/-- The compared tags of a row after a refresh. -/
theorem mem_normalizedTags_refreshed (hpy : TextLaws py) {after kept : List String}
    (hafter : ∀ label, label ∈ after ↔ label ∈ kept ∨ (label ∈ wantedLabels ∧
      ∃ live ∈ liveLabels py fetch rows dbId, normalizeLabel py live = label)) {tag : String} :
    tag ∈ normalizedTags py after ↔ tag ∈ normalizedTags py kept ∨
      (tag ∈ wantedLabels ∧ tag ∈ normalizedTags py (liveLabels py fetch rows dbId)) := by
  simp only [mem_normalizedTags, hafter]
  constructor
  · rintro ⟨label, hkept | ⟨hwanted, live, hlive, rfl⟩, hstrip, rfl⟩
    · exact .inl ⟨label, hkept, hstrip, rfl⟩
    · rw [hpy.normalize_normalize]
      exact .inr ⟨hwanted, live, hlive, strip_ne_of_normalizeLabel_ne hpy
        (normalizeLabel_ne_of_mem_liveLabels hlive), rfl⟩
  · rintro (⟨label, hkept, hstrip, rfl⟩ | ⟨hwanted, live, hlive, -, rfl⟩)
    · exact ⟨label, .inl hkept, hstrip, rfl⟩
    · refine ⟨_, .inr ⟨hwanted, live, hlive, rfl⟩, ?_, hpy.normalize_normalize live⟩
      apply strip_ne_of_normalizeLabel_ne hpy
      rw [hpy.normalize_normalize]
      exact normalizeLabel_ne_of_mem_liveLabels hlive

/-- The operator finds the same in the compared tags. -/
theorem finds_eq_iff {operator : String} {value : PyValue} {after kept live : List String}
    (hwanted : ∀ e ∈ conditionLabels py value, e ∈ wantedLabels)
    (hafter : ∀ tag, tag ∈ normalizedTags py after ↔ tag ∈ normalizedTags py kept ∨
      (tag ∈ wantedLabels ∧ tag ∈ normalizedTags py live)) :
    finds operator (conditionLabels py value) (normalizedTags py after) =
        finds operator (conditionLabels py value) (normalizedTags py live) ↔
      TagsDecided py operator value wantedLabels kept live := by
  unfold finds TagsDecided
  split_ifs with hsubstring hall
  · have hfound : (∃ tag ∈ normalizedTags py after, ∃ e ∈ conditionLabels py value,
          PythonText.contains tag e) ↔
        (∃ tag ∈ normalizedTags py kept, ∃ e ∈ conditionLabels py value,
          PythonText.contains tag e) ∨
        ∃ tag ∈ normalizedTags py live, tag ∈ wantedLabels ∧ ∃ e ∈ conditionLabels py value,
          PythonText.contains tag e := by
      simp only [hafter, or_and_right, exists_or, and_assoc, and_left_comm]
    have hlive : (∃ tag ∈ normalizedTags py live, tag ∈ wantedLabels ∧
          ∃ e ∈ conditionLabels py value, PythonText.contains tag e) →
        ∃ tag ∈ normalizedTags py live, ∃ e ∈ conditionLabels py value,
          PythonText.contains tag e := fun ⟨tag, htag, _, hfinds⟩ => ⟨tag, htag, hfinds⟩
    rw [Bool.eq_iff_iff]
    simp only [List.any_eq_true, hfound]
    exact ⟨fun h => ⟨fun hkept => h.mp (.inl hkept), h.mpr⟩,
      fun h => ⟨fun hfinds => hfinds.elim h.1 hlive, h.2⟩⟩
  · have hfound : (∀ e ∈ conditionLabels py value, e ∈ normalizedTags py after) ↔
        ∀ e ∈ conditionLabels py value, e ∈ normalizedTags py kept ∨
          e ∈ normalizedTags py live := by
      refine forall₂_congr fun e he => ?_
      rw [hafter, and_iff_right (hwanted e he)]
    rw [Bool.eq_iff_iff]
    simp only [List.all_eq_true, decide_eq_true_eq, hfound]
    exact ⟨Iff.mp, fun h => ⟨h, fun hall e he => .inr (hall e he)⟩⟩
  · have hfound : (∃ tag ∈ normalizedTags py after, tag ∈ conditionLabels py value) ↔
        (∃ e ∈ conditionLabels py value, e ∈ normalizedTags py kept) ∨
          ∃ e ∈ conditionLabels py value, e ∈ normalizedTags py live := by
      rw [← exists_or]
      refine exists_congr fun e => ?_
      rw [hafter, ← and_or_left, and_comm]
      refine and_congr_right fun he => ?_
      rw [and_iff_right (hwanted e he)]
    have hlive : (∃ tag ∈ normalizedTags py live, tag ∈ conditionLabels py value) ↔
        ∃ e ∈ conditionLabels py value, e ∈ normalizedTags py live :=
      exists_congr fun e => and_comm
    rw [Bool.eq_iff_iff]
    simp only [List.any_eq_true, decide_eq_true_eq, hfound, hlive]
    exact or_iff_right_iff_imp

/-- A condition finds the same exactly when its operator does. -/
theorem matchesOperator_eq_iff (hpy : TextLaws py) {operator : String}
    (hoperator : operator ∈ tagOperators) {value : PyValue} {labels labels' : List String} :
    py.matchesOperator "arr.tags" (tagsValue labels) operator value =
        py.matchesOperator "arr.tags" (tagsValue labels') operator value ↔
      finds operator (conditionLabels py value) (normalizedTags py labels) =
        finds operator (conditionLabels py value) (normalizedTags py labels') := by
  rw [matchesOperator_eq hpy hoperator, matchesOperator_eq hpy hoperator, Except.ok.injEq]
  cases hempty : conditionLabels py value with
  | nil =>
    have hfinds : ∀ tags, finds operator [] tags = finds operator [] [] := by
      intro tags
      unfold finds
      split_ifs <;> simp
    simp [hfinds (normalizedTags py labels), hfinds (normalizedTags py labels')]
  | cons e es => simp

/-! ## The labels that rules name -/

theorem conditionLabels_subset (hpy : TextLaws py) {rules : List DefinedRule}
    {condition : Condition}
    (h : condition ∈ rules.flatMap (collectRuleConditions py "arr.tags")) :
    ∀ e ∈ conditionLabels py condition.value, e ∈ collectArrTagLabels py rules := by
  intro e he
  obtain ⟨v, hv, rfl⟩ := List.mem_map.mp he
  obtain ⟨hmem, hexists⟩ := List.mem_filter.mp hv
  have hnone : v.isNone = false := by
    cases v <;> simp [PyValue.exists] at hexists <;> rfl
  have hstrip : PythonText.strip (py.str v) ≠ "" := by
    cases v with
    | str s => simpa [hpy.str_str, PyValue.exists] using hexists
    | _ => exact hpy.str_nonblank _ (by simp)
  have hvalues : v ∈ conditionValues condition.value := by
    cases hvalue : condition.value <;> simp_all [PyValue.asList, conditionValues]
  simp only [collectArrTagLabels, List.mem_eraseDups, List.mem_filterMap, List.mem_flatMap]
  exact ⟨v, ⟨condition, by simpa using h, hvalues⟩, by simp [hnone, hstrip]⟩

/-- The labels are in the form in which they are compared. -/
theorem normalizeLabel_of_mem (hpy : TextLaws py) {rules : List DefinedRule}
    (h : label ∈ collectArrTagLabels py rules) : normalizeLabel py label = label := by
  simp only [collectArrTagLabels, List.mem_eraseDups, List.mem_filterMap] at h
  obtain ⟨v, -, hv⟩ := h
  split_ifs at hv
  obtain rfl := Option.some.inj hv
  exact hpy.normalize_normalize (py.str v)

/-! ## The refresh of the movies -/

section Movies

variable (py : PythonRuntime) (services : Deletion.Services) (fetches : TagFetches) (db : Tables)
variable (rules : List DefinedRule)

/-- `movie.arr_tags or []`. -/
def movieTags (movie : Movie) : List String := movie.arrTags.getD []

/-- The `arr.tags` conditions of the movie rules. -/
def tagConditions : List Condition :=
  (movieRules rules).flatMap (collectRuleConditions py "arr.tags")

/-- Every configuration with a ref to the movie refreshes. -/
def MovieRefreshed (movieId : Nat) : Prop :=
  Refreshed (services.radarrClientsOrMain.map Prod.fst) fetches.radarr (movieRefRows db) movieId

/-- A configuration with a ref to the movie is asked and does not answer. -/
def MovieFetchFailed (movieId : Nat) : Prop :=
  ∃ row ∈ movieRefRows db, row.dbId = movieId ∧
    row.configId ∈ services.radarrClientsOrMain.map Prod.fst ∧ fetches.radarr row.configId = none

/-- After a refresh the conditions on a refreshed movie's tags hold as they do on its live labels,
labels that no rule names stay as they were, and so do movies with a failed fetch. -/
def SeesLiveTags : Prop :=
  ∀ movie ∈ db.movies, ∀ movie' ∈ (refreshArrTagsForRules py services fetches db rules).movies,
    movie'.id = movie.id →
      (MovieRefreshed services fetches db movie.id → ∀ condition ∈ tagConditions py rules,
        py.strEntry condition.operator ∈ tagOperators →
          py.matchesOperator "arr.tags" (tagsValue (movieTags movie'))
              (py.strEntry condition.operator) condition.value =
            py.matchesOperator "arr.tags"
              (tagsValue (liveLabels py fetches.radarr (movieRefRows db) movie.id))
              (py.strEntry condition.operator) condition.value) ∧
      (∀ label, normalizeLabel py label ∉ collectArrTagLabels py (movieRules rules) →
        (label ∈ movieTags movie' ↔ label ∈ movieTags movie)) ∧
      (MovieFetchFailed services fetches db movie.id → movie' = movie)

/-- No condition on a refreshed movie is settled by a label that the refresh overlooks. -/
def TagConditionsDecided : Prop :=
  ∀ movie ∈ db.movies, MovieRefreshed services fetches db movie.id →
    ∀ condition ∈ tagConditions py rules, py.strEntry condition.operator ∈ tagOperators →
      TagsDecided py (py.strEntry condition.operator) condition.value
        (collectArrTagLabels py (movieRules rules))
        (keptLabels (collectArrTagLabels py (movieRules rules)) (movieRefRows db) movie.id
          movie.arrTags)
        (liveLabels py fetches.radarr (movieRefRows db) movie.id)

end Movies

section

variable {services : Deletion.Services} {fetches : TagFetches} {db : Tables}
variable {rules : List DefinedRule} {movie : Movie}

theorem movieRefRows_nodup
    (hrefs : (db.movieArrRefs.map fun ref => (ref.serviceConfigId, ref.arrMovieId)).Nodup) :
    ((movieRefRows db).map fun row => (row.configId, row.arrId)).Nodup := by
  rw [movieRefRows, List.map_map]
  exact hrefs

/-- A movie after the refresh. -/
def refreshedMovie (py : PythonRuntime) (services : Deletion.Services) (fetches : TagFetches)
    (db : Tables) (labels : List String) (movie : Movie) : Movie :=
  if labels.isEmpty then movie
  else
    { movie with
      arrTags := refreshTags py labels (services.radarrClientsOrMain.map Prod.fst) fetches.radarr
        (movieRefRows db) movie.id movie.arrTags }

theorem refreshArrTagsForRules_movies :
    (refreshArrTagsForRules py services fetches db rules).movies = db.movies.map
      (refreshedMovie py services fetches db (collectArrTagLabels py (movieRules rules))) := by
  dsimp only [refreshArrTagsForRules, refreshMovieTags]
  unfold refreshedMovie
  split_ifs
  · exact (List.map_id _).symm
  · rfl

theorem refreshedMovie_id {labels : List String} :
    (refreshedMovie py services fetches db labels movie).id = movie.id := by
  unfold refreshedMovie
  split_ifs <;> rfl

/-- The row of a movie after the refresh is the only one with its key. -/
theorem forall_refreshed_iff (hmovies : (db.movies.map Movie.id).Nodup) {P : Movie → Movie → Prop} :
    (∀ movie ∈ db.movies, ∀ movie' ∈ (refreshArrTagsForRules py services fetches db rules).movies,
        movie'.id = movie.id → P movie movie') ↔
      ∀ movie ∈ db.movies, P movie (refreshedMovie py services fetches db
        (collectArrTagLabels py (movieRules rules)) movie) := by
  rw [refreshArrTagsForRules_movies]
  refine forall₂_congr fun movie hmovie => ?_
  constructor
  · intro h
    exact h _ (List.mem_map_of_mem hmovie) refreshedMovie_id
  · intro h movie' hmovie' hid
    obtain ⟨movie'', hmovie'', rfl⟩ := List.mem_map.mp hmovie'
    rw [refreshedMovie_id] at hid
    obtain rfl := List.inj_on_of_nodup_map hmovies hmovie'' hmovie hid
    exact h

theorem refreshTags_of_fetchFailed {wantedLabels : List String} {arrTags : Option (List String)}
    (hrows : (rows.map fun row => (row.configId, row.arrId)).Nodup)
    (hfailed : ∃ row ∈ rows, row.dbId = dbId ∧ row.configId ∈ configs ∧ fetch row.configId = none) :
    refreshTags py wantedLabels configs fetch rows dbId arrTags = arrTags := by
  obtain ⟨row, hrow, hid, hconfig, hfetch⟩ := hfailed
  refine if_neg fun hrefreshable => ?_
  have hanswer := ((mem_refreshableDbIds hrows).mp hrefreshable).2 row hrow hid hconfig
  simp [hfetch] at hanswer

theorem mem_labelAdditions_wanted
    (h : label ∈ (labelAdditions py wantedLabels configs fetch rows).setAt dbId) :
    label ∈ wantedLabels := by
  have hempty : label ∉ (∅ : Dict Nat (List String)).setAt dbId := List.not_mem_nil
  rw [labelAdditions, Dict.mem_setAt_foldl_addTo, or_iff_left hempty, List.mem_flatMap] at h
  obtain ⟨config, -, hmem⟩ := h
  exact (mem_labelAdditionsOf.mp hmem).1

theorem mem_refreshTags_of_notMem {arrTags : Option (List String)} (hlabel : label ∉ wantedLabels) :
    label ∈ (refreshTags py wantedLabels configs fetch rows dbId arrTags).getD [] ↔
      label ∈ arrTags.getD [] := by
  have hadded : label ∉ (labelAdditions py wantedLabels configs fetch rows).setAt dbId :=
    fun h => hlabel (mem_labelAdditions_wanted h)
  unfold refreshTags
  split_ifs
  · simp [hlabel, hadded]
  · rfl

/-- The tags of a refreshed movie. -/
theorem mem_movieTags_refreshed {labels : List String}
    (hrefs : (db.movieArrRefs.map fun ref => (ref.serviceConfigId, ref.arrMovieId)).Nodup)
    (hrefreshed : MovieRefreshed services fetches db movie.id) :
    label ∈ movieTags (refreshedMovie py services fetches db labels movie) ↔
      label ∈ keptLabels labels (movieRefRows db) movie.id movie.arrTags ∨
        (label ∈ labels ∧ ∃ live ∈ liveLabels py fetches.radarr (movieRefRows db) movie.id,
          normalizeLabel py live = label) := by
  unfold refreshedMovie
  split_ifs with hempty
  · simp [List.isEmpty_iff.mp hempty, keptLabels, movieTags]
  · exact mem_refreshTags (movieRefRows_nodup hrefs) hrefreshed

theorem mem_movieTags_of_notMem {labels : List String} (hlabel : label ∉ labels) :
    label ∈ movieTags (refreshedMovie py services fetches db labels movie) ↔
      label ∈ movieTags movie := by
  unfold refreshedMovie
  split_ifs
  · rfl
  · exact mem_refreshTags_of_notMem hlabel

theorem refreshedMovie_of_fetchFailed {labels : List String}
    (hrefs : (db.movieArrRefs.map fun ref => (ref.serviceConfigId, ref.arrMovieId)).Nodup)
    (hfailed : MovieFetchFailed services fetches db movie.id) :
    refreshedMovie py services fetches db labels movie = movie := by
  unfold refreshedMovie
  split_ifs
  · rfl
  · rw [refreshTags_of_fetchFailed (movieRefRows_nodup hrefs) hfailed]

theorem seesLiveTags_iff (hpy : TextLaws py) (hmovies : (db.movies.map Movie.id).Nodup)
    (hrefs : (db.movieArrRefs.map fun ref => (ref.serviceConfigId, ref.arrMovieId)).Nodup) :
    SeesLiveTags py services fetches db rules ↔
      TagConditionsDecided py services fetches db rules := by
  refine (forall_refreshed_iff hmovies).trans (forall₂_congr fun movie _ => ?_)
  have hunnamed : ∀ label, normalizeLabel py label ∉ collectArrTagLabels py (movieRules rules) →
      (label ∈ movieTags (refreshedMovie py services fetches db
        (collectArrTagLabels py (movieRules rules)) movie) ↔ label ∈ movieTags movie) := by
    intro label hlabel
    refine mem_movieTags_of_notMem fun hmem => hlabel ?_
    rw [normalizeLabel_of_mem hpy hmem]
    exact hmem
  rw [and_iff_left ⟨hunnamed, refreshedMovie_of_fetchFailed hrefs⟩]
  refine forall_congr' fun hrefreshed => forall₂_congr fun condition hcondition => ?_
  refine forall_congr' fun hoperator => ?_
  rw [matchesOperator_eq_iff hpy hoperator]
  refine finds_eq_iff (conditionLabels_subset hpy hcondition) fun tag => ?_
  exact mem_normalizedTags_refreshed hpy fun label => mem_movieTags_refreshed hrefs hrefreshed

end

/-! ## A tag that was taken off -/

/-- ASCII letter case. -/
def asciiRuntime : PythonRuntime :=
  { PythonRuntime.plainRuntime with
    lower := PythonText.asciiLower
    str
      | .str s => s
      | .none => "None"
      | _ => "..." }

theorem asciiRuntime_textLaws : TextLaws asciiRuntime where
  str_str _ := rfl
  str_nonblank v hv := by
    cases v with
    | str s => exact absurd rfl (hv s)
    | none => exact (by decide : PythonText.strip "None" ≠ "")
    | _ => exact (by decide : PythonText.strip "..." ≠ "")
  lower_empty := by decide
  normalize_normalize s := by
    have hlower : asciiRuntime.lower = PythonText.asciiLower := rfl
    simp only [normalizeLabel, hlower, PythonText.strip_asciiLower, PythonText.strip_strip,
      PythonText.asciiLower_asciiLower]

/-- A movie with stored tags and a ref to a Radarr movie. -/
def taggedTables (tags : List String) : Tables :=
  { movies := [{ id := 1, tmdbId := 603, title := "The Matrix", arrTags := some tags }]
    movieArrRefs := [{ id := 1, movieId := 1, serviceConfigId := 1, arrMovieId := 7 }] }

/-- The Radarr movie has these of the tags of a catalog of one. -/
def catalogFetches (label : String) (itemTags : List Nat) : TagFetches :=
  { radarr := fun _ => some { items := [⟨7, itemTags⟩], tags := [⟨3, label⟩] } }

def tagRule (operator value : String) : List DefinedRule :=
  [⟨{ id := 1, mediaType := .movie }, some (.condition "arr.tags" operator (.list [.str value]))⟩]

def oneRadarr : Deletion.Services := { radarrClients := [(1, 1)] }

/-- A condition of a rule holds of the refreshed tags of the movie as of its live labels. -/
theorem matchesOperator_of_seesLiveTags {fetches : TagFetches} {tags : List String}
    {operator value : String} (hoperator : operator ∈ tagOperators)
    (hanswer : (fetches.radarr 1).isSome)
    (h : SeesLiveTags asciiRuntime oneRadarr fetches (taggedTables tags) (tagRule operator value)) :
    asciiRuntime.matchesOperator "arr.tags"
        (tagsValue (movieTags (refreshedMovie asciiRuntime oneRadarr fetches (taggedTables tags)
          (collectArrTagLabels asciiRuntime (movieRules (tagRule operator value)))
          { id := 1, tmdbId := 603, title := "The Matrix", arrTags := some tags })))
        operator (.list [.str value]) =
      asciiRuntime.matchesOperator "arr.tags"
        (tagsValue (liveLabels asciiRuntime fetches.radarr [⟨7, 1, 1⟩] 1))
        operator (.list [.str value]) := by
  have hrefreshed : MovieRefreshed oneRadarr fetches (taggedTables tags) 1 := by
    intro row hrow _
    obtain rfl := List.mem_singleton.mp hrow
    exact ⟨.head _, hanswer⟩
  exact ((forall_refreshed_iff (by simp [taggedTables])).mp h _ (.head _)).1 hrefreshed
    ⟨some (.str operator), .list [.str value]⟩ (.head _) hoperator

/-- A tag that a search within labels finds is not put on, and a tag stored with a capital is not
taken off. -/
theorem not_seesLiveTags :
    ¬SeesLiveTags asciiRuntime oneRadarr (catalogFetches "kids-movies" [3]) (taggedTables [])
        (tagRule "contains_substring" "kids") ∧
      ¬SeesLiveTags asciiRuntime oneRadarr (catalogFetches "Keep" []) (taggedTables ["Keep"])
        (tagRule "in" "keep") := by
  constructor
  · intro h
    exact absurd (matchesOperator_of_seesLiveTags (by decide) rfl h) (by decide)
  · intro h
    exact absurd (matchesOperator_of_seesLiveTags (by decide) rfl h) (by decide)

/-- A tag in small letters is taken off. -/
theorem seesLiveTags_smallLetters :
    SeesLiveTags asciiRuntime oneRadarr (catalogFetches "keep" []) (taggedTables ["keep"])
      (tagRule "in" "keep") := by
  refine (seesLiveTags_iff asciiRuntime_textLaws (by decide) (by decide)).mpr ?_
  intro movie hmovie hrefreshed condition hcondition hoperator
  obtain rfl := List.mem_singleton.mp hmovie
  obtain rfl := List.mem_singleton.mp hcondition
  unfold TagsDecided
  decide

end MediaMasterr.Candidates
