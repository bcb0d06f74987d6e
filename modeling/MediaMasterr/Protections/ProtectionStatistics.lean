import Mathlib.Algebra.BigOperators.Ring.Finset
import MediaMasterr.Foundations.Coverings
import MediaMasterr.Foundations.Dict
import MediaMasterr.Foundations.PythonText

/-! # Protection statistics

`ProtectionService._snapshot` reconciles the rules that a provider reports with its
protected items. Where it has counts, it takes them; else it infers them from the
reasons of the items. What is left over of the items goes to a derived rule. -/

namespace MediaMasterr.Protections.Statistics

open MediaMasterr.Foundations

structure ProtectionItem where
  path : String
  reason : String
  provider : String
  expiration : Option String := none
  status : String := "Active"
  deriving DecidableEq, Repr

/-- A rule as a provider reports it, and as the snapshot lists it. -/
structure ProtectionRule where
  rule : String
  source : String
  protectedItems : Option Int
  status : String := "Active"
  lastUpdated : Option String := none
  deriving DecidableEq, Repr

/-- What a snapshot reads: the provider's answers, and the rows of the local query, a name of a
rule with the number of its protections. -/
structure ProviderReport where
  provider : String
  lastSync : Option String := none
  items : List ProtectionItem
  rules : List ProtectionRule
  localRows : List (Option String × Nat) := []

structure ProtectionSnapshot where
  rules : List ProtectionRule
  items : List ProtectionItem
  reconciledRuleItems : Int
  unmatchedItems : Int
  deriving DecidableEq, Repr

variable (t : PythonText.CaseTables)

def keyOf (text : String) : String := t.lower (PythonText.strip text)

section Snapshot

variable (w : ProviderReport)

def providerIsReclaimerr : Bool := keyOf t w.provider = "reclaimerr"

/-- `local_rule_counts_by_name`; a later row of the same key overwrites. -/
def localRuleCountsByName : Dict String Nat :=
  if providerIsReclaimerr t w then
    Dict.build (fun row : Option String × Nat => row.1.bind fun name =>
      if name = "" then none else some (keyOf t name)) Prod.snd w.localRows
  else ∅

def providerHasRuleCounts : Bool := w.rules.any fun rule => 0 < rule.protectedItems.getD 0

/-- The snapshot has counts for the rules, so that none is inferred. -/
def countsGiven : Bool := providerIsReclaimerr t w || providerHasRuleCounts w

/-- The count of a rule before the inference. -/
def givenCount (rule : ProtectionRule) : Option Int :=
  if providerIsReclaimerr t w then
    match (localRuleCountsByName t w).get? (keyOf t rule.rule) with
    | some count => some count
    | none => some (rule.protectedItems.getD 0)
  else rule.protectedItems

/-- The reason of the item is the rule's name or contains it. -/
def belongs (item : ProtectionItem) (rule : ProtectionRule) : Bool :=
  keyOf t rule.rule ≠ "" && (keyOf t item.reason = keyOf t rule.rule ||
    PythonText.contains (keyOf t item.reason) (keyOf t rule.rule))

/-- `inferred_indexes`. -/
def inferredIndexes (rule : ProtectionRule) : Finset Nat :=
  ((w.items.zipIdx.filter fun row => belongs t row.1 rule).map Prod.snd).toFinset

/-- One round of the loop over the rules: the listed rules and the matched indexes. -/
def ruleStep (s : List ProtectionRule × Finset Nat) (rule : ProtectionRule) :
    List ProtectionRule × Finset Nat :=
  if countsGiven t w then (s.1 ++ [{ rule with protectedItems := givenCount t w rule }], s.2)
  else
    let inferred := inferredIndexes t w rule
    if inferred = ∅ then (s.1 ++ [{ rule with protectedItems := none }], s.2)
    else (s.1 ++ [{ rule with protectedItems := some inferred.card }], s.2 ∪ inferred)

/-- The sum of the counts of the rules. -/
def countedItems (rules : List ProtectionRule) : Int :=
  (rules.map fun rule => rule.protectedItems.getD 0).sum

/-- The derived rule for the items that are left over. -/
def unmappedRule (unmatched : Int) : ProtectionRule where
  rule := "Unmapped"
  source := "Derived"
  protectedItems := some unmatched
  status := "Active"
  lastUpdated := w.lastSync

/-- `_snapshot`. -/
def snapshot : ProtectionSnapshot :=
  let (responses, matched) := w.rules.foldl (ruleStep t w) ([], ∅)
  let total := countedItems responses
  let reconciled := if countsGiven t w then min total w.items.length else total
  let unmatched := max 0 (w.items.length -
    if countsGiven t w then reconciled else (matched.card : Int))
  if 0 < unmatched then
    { rules := responses ++ [unmappedRule w unmatched]
      items := w.items
      reconciledRuleItems := reconciled + unmatched
      unmatchedItems := unmatched }
  else
    { rules := responses
      items := w.items
      reconciledRuleItems := reconciled
      unmatchedItems := unmatched }

/-- The counts of the listed rules account for every item once, and the derived rule is listed
exactly when some item belongs to no rule. -/
structure AccountsForItems : Prop where
  listed : countedItems (snapshot t w).rules = w.items.length
  reconciled : (snapshot t w).reconciledRuleItems = w.items.length
  unmapped : (∃ rule ∈ (snapshot t w).rules.drop w.rules.length, rule.rule = "Unmapped") ↔
    ∃ item ∈ w.items, ∀ rule ∈ w.rules, belongs t item rule = false

end Snapshot

/-! ## The loop -/

section Loop

variable {t} {w : ProviderReport}

/-- With counts at hand, every rule is listed with its own. -/
theorem foldl_ruleStep_given (h : countsGiven t w = true) (rules : List ProtectionRule) :
    rules.foldl (ruleStep t w) ([], ∅) =
      (rules.map fun rule => { rule with protectedItems := givenCount t w rule }, ∅) := by
  induction rules using List.reverseRecOn with
  | nil => rfl
  | append_singleton rules rule ih => simp [ih, ruleStep, h]

/-- The count that is inferred for a rule. -/
def inferredCount (t : PythonText.CaseTables) (w : ProviderReport) (rule : ProtectionRule) :
    Option Int :=
  if inferredIndexes t w rule = ∅ then none else some (inferredIndexes t w rule).card

theorem inferredCount_getD (rule : ProtectionRule) :
    (inferredCount t w rule).getD 0 = (inferredIndexes t w rule).card := by
  unfold inferredCount
  split_ifs with hempty
  · simp [hempty]
  · rfl

/-- Without counts, the matched indexes are those inferred for any of the rules. -/
theorem foldl_ruleStep_inferred (h : countsGiven t w = false) (rules : List ProtectionRule) :
    rules.foldl (ruleStep t w) ([], ∅) =
      (rules.map fun rule => { rule with protectedItems := inferredCount t w rule },
        unionOf (rules.map (inferredIndexes t w))) := by
  induction rules using List.reverseRecOn with
  | nil => rfl
  | append_singleton rules rule ih =>
    rw [List.foldl_append, ih, List.foldl_cons, List.foldl_nil, ruleStep, h,
      if_neg Bool.false_ne_true, List.map_append, List.map_append, List.map_singleton,
      List.map_singleton, unionOf_concat]
    dsimp only
    rw [inferredCount]
    split_ifs with hempty
    · rw [hempty, Finset.union_empty]
    · rfl

theorem mem_inferredIndexes {rule : ProtectionRule} {i : Nat} :
    i ∈ inferredIndexes t w rule ↔ ∃ item, w.items[i]? = some item ∧ belongs t item rule := by
  simp only [inferredIndexes, List.mem_toFinset, List.mem_map, List.mem_filter]
  constructor
  · rintro ⟨⟨item, _⟩, ⟨hmem, hbelongs⟩, rfl⟩
    exact ⟨item, List.mk_mem_zipIdx_iff_getElem?.mp hmem, hbelongs⟩
  · rintro ⟨item, hitem, hbelongs⟩
    exact ⟨(item, i), ⟨List.mk_mem_zipIdx_iff_getElem?.mpr hitem, hbelongs⟩, rfl⟩

theorem countedItems_map (count : ProtectionRule → Option Int) (rules : List ProtectionRule) :
    countedItems (rules.map fun rule => { rule with protectedItems := count rule }) =
      (rules.map fun rule => (count rule).getD 0).sum := by
  rw [countedItems, List.map_map]
  rfl

theorem countedItems_append_unmapped (rules : List ProtectionRule) (unmatched : Int) :
    countedItems (rules ++ [unmappedRule w unmatched]) = countedItems rules + unmatched := by
  simp [countedItems, unmappedRule]

/-- The snapshot with `left` items left over, for the rules that the loop lists. -/
theorem snapshot_of_foldl {responses : List ProtectionRule} {matched : Finset Nat}
    {reconciled left : Int} (hloop : w.rules.foldl (ruleStep t w) ([], ∅) = (responses, matched))
    (hreconciled : (if countsGiven t w then min (countedItems responses) w.items.length
      else countedItems responses) = reconciled)
    (hleft : max 0 (w.items.length - if countsGiven t w then reconciled else (matched.card : Int)) =
      left) :
    (snapshot t w).rules = (if 0 < left then responses ++ [unmappedRule w left] else responses) ∧
      (snapshot t w).reconciledRuleItems = reconciled + left := by
  have hpositive : 0 ≤ left := hleft ▸ le_max_left _ _
  rw [snapshot, hloop]
  dsimp only
  rw [hreconciled, hleft]
  split_ifs with hsome
  · exact ⟨rfl, rfl⟩
  · exact ⟨rfl, by simp only; omega⟩

/-- The derived rule stands behind the rules of the provider. -/
theorem exists_unmapped_iff {responses : List ProtectionRule} {left : Int}
    (hlength : responses.length = w.rules.length)
    (hrules : (snapshot t w).rules =
      if 0 < left then responses ++ [unmappedRule w left] else responses) :
    (∃ rule ∈ (snapshot t w).rules.drop w.rules.length, rule.rule = "Unmapped") ↔ 0 < left := by
  rw [hrules, ← hlength]
  split_ifs with hsome
  · simp [hsome, unmappedRule]
  · simp [hsome]

end Loop

/-! ## The two ways to count -/

section Counts

variable {t} {w : ProviderReport}

/-- The sum of the counts that are at hand. -/
def givenTotal (t : PythonText.CaseTables) (w : ProviderReport) : Int :=
  (w.rules.map fun rule => (givenCount t w rule).getD 0).sum

/-- Some item belongs to no rule. -/
def HasUnmapped (t : PythonText.CaseTables) (w : ProviderReport) : Prop :=
  ∃ item ∈ w.items, ∀ rule ∈ w.rules, belongs t item rule = false

theorem accountsForItems_of_given (h : countsGiven t w = true) :
    AccountsForItems t w ↔ givenTotal t w ≤ w.items.length ∧
      (givenTotal t w < w.items.length ↔ HasUnmapped t w) := by
  have htotal := countedItems_map (givenCount t w) w.rules
  rw [← givenTotal] at htotal
  obtain ⟨hrules, hreconciled⟩ := snapshot_of_foldl (foldl_ruleStep_given h w.rules)
    (by rw [if_pos h, htotal]) (by rw [if_pos h])
  have hunmapped := exists_unmapped_iff (by simp) hrules
  have hleft : 0 < max 0 ((w.items.length : Int) - min (givenTotal t w) w.items.length) ↔
      givenTotal t w < w.items.length := by omega
  rw [hleft] at hunmapped
  constructor
  · rintro ⟨hlisted, -, hiff⟩
    rw [hrules] at hlisted
    refine ⟨?_, hunmapped.symm.trans hiff⟩
    split_ifs at hlisted with hsome
    · omega
    · rw [htotal] at hlisted
      exact hlisted.le
  · rintro ⟨hle, hiff⟩
    refine ⟨?_, by rw [hreconciled]; omega, hunmapped.trans hiff⟩
    rw [hrules]
    split_ifs with hsome
    · rw [countedItems_append_unmapped, htotal]
      omega
    · rw [htotal]
      omega

theorem unionOf_subset_range :
    unionOf (w.rules.map (inferredIndexes t w)) ⊆ Finset.range w.items.length := by
  intro i hi
  obtain ⟨_, hmem, hi⟩ := mem_unionOf.mp hi
  obtain ⟨rule, -, rfl⟩ := List.mem_map.mp hmem
  obtain ⟨item, hitem, -⟩ := mem_inferredIndexes.mp hi
  exact Finset.mem_range.mpr (List.getElem?_eq_some_iff.mp hitem).1

/-- Fewer indexes are matched than there are items exactly when some item belongs to no rule. -/
theorem card_unionOf_lt_iff :
    (unionOf (w.rules.map (inferredIndexes t w))).card < w.items.length ↔ HasUnmapped t w := by
  have hsub := unionOf_subset_range (t := t) (w := w)
  constructor
  · intro hlt
    obtain ⟨i, hi, hnot⟩ : ∃ i ∈ Finset.range w.items.length,
        i ∉ unionOf (w.rules.map (inferredIndexes t w)) := by
      apply Finset.exists_mem_notMem_of_card_lt_card
      simpa using hlt
    have hbound := Finset.mem_range.mp hi
    refine ⟨w.items[i], List.getElem_mem hbound, fun rule hrule => ?_⟩
    by_contra hbelongs
    exact hnot (mem_unionOf.mpr ⟨_, List.mem_map_of_mem hrule, mem_inferredIndexes.mpr
      ⟨_, List.getElem?_eq_getElem hbound, by simpa using hbelongs⟩⟩)
  · rintro ⟨item, hitem, hnone⟩
    obtain ⟨i, hi⟩ := List.mem_iff_getElem?.mp hitem
    have hnot : i ∉ unionOf (w.rules.map (inferredIndexes t w)) := by
      intro hmem
      obtain ⟨_, hset, hi'⟩ := mem_unionOf.mp hmem
      obtain ⟨rule, hrule, rfl⟩ := List.mem_map.mp hset
      obtain ⟨other, hother, hbelongs⟩ := mem_inferredIndexes.mp hi'
      obtain rfl := Option.some.inj (hi.symm.trans hother)
      simp [hnone rule hrule] at hbelongs
    have hstrict := Finset.card_lt_card (Finset.ssubset_iff_of_subset hsub |>.mpr
      ⟨i, Finset.mem_range.mpr (List.getElem?_eq_some_iff.mp hi).1, hnot⟩)
    simpa using hstrict

theorem disjoint_inferredIndexes_iff {a b : ProtectionRule} :
    Disjoint (inferredIndexes t w a) (inferredIndexes t w b) ↔
      ∀ item ∈ w.items, ¬(belongs t item a ∧ belongs t item b) := by
  simp only [Finset.disjoint_left, mem_inferredIndexes]
  constructor
  · intro h item hitem ⟨ha, hb⟩
    obtain ⟨i, hi⟩ := List.mem_iff_getElem?.mp hitem
    exact h ⟨item, hi, ha⟩ ⟨item, hi, hb⟩
  · rintro h i ⟨item, hi, ha⟩ ⟨other, hother, hb⟩
    obtain rfl := Option.some.inj (hi.symm.trans hother)
    exact h item (List.mem_of_getElem? hi) ⟨ha, hb⟩

/-- The inferred counts add up to the number of matched items exactly when no item belongs to two
rules. -/
theorem sum_inferred_eq_iff :
    ((w.rules.map (inferredIndexes t w)).map Finset.card).sum =
        (unionOf (w.rules.map (inferredIndexes t w))).card ↔
      w.rules.Pairwise fun a b => ∀ item ∈ w.items, ¬(belongs t item a ∧ belongs t item b) := by
  rw [sum_card_eq_card_unionOf_iff, List.pairwise_map]
  simp only [disjoint_inferredIndexes_iff]

theorem accountsForItems_of_inferred (h : countsGiven t w = false) :
    AccountsForItems t w ↔
      w.rules.Pairwise fun a b => ∀ item ∈ w.items, ¬(belongs t item a ∧ belongs t item b) := by
  have hgiven : ¬countsGiven t w = true := by simp [h]
  have htotal : countedItems (w.rules.map fun rule =>
      { rule with protectedItems := inferredCount t w rule }) =
        (((w.rules.map (inferredIndexes t w)).map Finset.card).sum : Nat) := by
    rw [countedItems_map, Nat.cast_list_sum, List.map_map, List.map_map]
    simp only [inferredCount_getD, Function.comp_def]
  obtain ⟨hrules, hreconciled⟩ := snapshot_of_foldl (foldl_ruleStep_inferred h w.rules)
    (by rw [if_neg hgiven, htotal]) (by rw [if_neg hgiven])
  have hunmapped := exists_unmapped_iff (by simp) hrules
  have hbound : (unionOf (w.rules.map (inferredIndexes t w))).card ≤ w.items.length := by
    simpa using Finset.card_le_card (unionOf_subset_range (t := t) (w := w))
  rw [← sum_inferred_eq_iff]
  constructor
  · rintro ⟨-, heq, -⟩
    rw [hreconciled] at heq
    omega
  · intro heq
    refine ⟨?_, by rw [hreconciled]; omega, hunmapped.trans ?_⟩
    · rw [hrules]
      split_ifs with hsome
      · rw [countedItems_append_unmapped, htotal]
        omega
      · rw [htotal]
        omega
    · rw [← HasUnmapped, ← card_unionOf_lt_iff]
      omega

/-- When the snapshot accounts for the items: the counts that are at hand do not exceed the items,
and fall short of them exactly when some item belongs to no rule; where the counts are inferred, no
item belongs to two rules. -/
structure CountsFit (t : PythonText.CaseTables) (w : ProviderReport) : Prop where
  given : countsGiven t w = true → givenTotal t w ≤ w.items.length ∧
    (givenTotal t w < w.items.length ↔ HasUnmapped t w)
  inferred : countsGiven t w = false →
    w.rules.Pairwise fun a b => ∀ item ∈ w.items, ¬(belongs t item a ∧ belongs t item b)

theorem accountsForItems_iff (t : PythonText.CaseTables) (w : ProviderReport) :
    AccountsForItems t w ↔ CountsFit t w := by
  cases h : countsGiven t w with
  | true =>
    rw [accountsForItems_of_given h]
    exact ⟨fun hfit => ⟨fun _ => hfit, fun hnot => by simp [h] at hnot⟩, fun hfit => hfit.given h⟩
  | false =>
    rw [accountsForItems_of_inferred h]
    exact ⟨fun hfit => ⟨fun hnot => by simp [h] at hnot, fun _ => hfit⟩,
      fun hfit => hfit.inferred h⟩

end Counts

/-! ## An item of two rules -/

/-- The case mappings on ASCII texts. -/
def plainTables : PythonText.CaseTables where
  lower := PythonText.asciiLower
  upper := id

/-- One item that two rules protect, each of which the provider reports with one item. -/
def sharedItem : ProviderReport where
  provider := "Reclaimerr"
  items := [{ path := "/library/movies/A.mkv", reason := "Kids, Family", provider := "Reclaimerr" }]
  rules := [{ rule := "Kids", source := "Reclaimerr", protectedItems := some 1 },
    { rule := "Family", source := "Reclaimerr", protectedItems := some 1 }]

/-- The listed rules count two items, of which the total says one. -/
theorem not_accountsForItems_sharedItem :
    countedItems (snapshot plainTables sharedItem).rules = 2 ∧
      (snapshot plainTables sharedItem).reconciledRuleItems = 1 ∧
      ¬AccountsForItems plainTables sharedItem := by
  have hlisted : countedItems (snapshot plainTables sharedItem).rules = 2 := by decide +kernel
  refine ⟨hlisted, by decide +kernel, fun h => ?_⟩
  have hone := hlisted.symm.trans h.listed
  exact absurd hone (by decide)

end MediaMasterr.Protections.Statistics
