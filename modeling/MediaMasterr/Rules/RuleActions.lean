import MediaMasterr.Foundations.Dict
import MediaMasterr.RuleEngine.TextEquality

/-! # Rule actions

`_normalize_rule_action`, which a rule goes through when it is saved and each time it is
read: the defaults under the given entries, and the tag of the rule in the Arr services. -/

namespace MediaMasterr.Rules

open MediaMasterr.Foundations MediaMasterr.RuleEngine

abbrev RuleAction := Dict String PyValue

def ruleOutcomeCandidate : String := "candidate"

def ruleOutcomeProtect : String := "protect"

def targetMovieVersion : String := "movie_version"

/-! ## Tags -/

/-- `[a-zA-Z0-9-]`. -/
def isTagChar (c : Char) : Bool := c.isAlphanum || c == '-'

/-- The slug of `_slugify_rule_tag`. -/
def ruleSlug (value : String) : String :=
  String.ofList ((PythonText.strip value).toList.filter isTagChar)

/-- `_slugify_rule_tag`. -/
def slugifyRuleTag (value : String) : String :=
  let slug := ruleSlug value
  let ensure50 := String.ofList (slug.toList.take 50)
  if PythonText.startsWith ensure50 "rec-" then ensure50
  else "rec-" ++ if slug = "" then "rule" else slug

/-- What the Arr services take as a tag of a rule. -/
structure LegalTag (tag : String) : Prop where
  startsWith : PythonText.startsWith tag "rec-" = true
  chars : ∀ c ∈ tag.toList, isTagChar c = true
  length_le : tag.length ≤ 50

/-- The slug keeps its length: it has the prefix already, or is short enough for it. -/
def FitsTag (value : String) : Prop :=
  PythonText.startsWith (ruleSlug value) "rec-" = true ∨ (ruleSlug value).length ≤ 46

section Tags

variable {value : String}

theorem isTagChar_of_mem_ruleSlug {c : Char} (h : c ∈ (ruleSlug value).toList) :
    isTagChar c = true := by
  rw [ruleSlug, String.toList_ofList] at h
  exact (List.mem_filter.mp h).2

theorem startsWith_take (s : String) :
    PythonText.startsWith (String.ofList (s.toList.take 50)) "rec-" =
      PythonText.startsWith s "rec-" := by
  have htake : (String.ofList (s.toList.take 50)).toList = s.toList.take 50 := String.toList_ofList
  have hlength : "rec-".toList.length ≤ 50 := by decide
  rw [Bool.eq_iff_iff, PythonText.startsWith, PythonText.startsWith, List.isPrefixOf_iff_prefix,
    List.isPrefixOf_iff_prefix, htake, List.prefix_take_iff, and_iff_left hlength]

theorem slugifyRuleTag_eq : slugifyRuleTag value =
    if PythonText.startsWith (ruleSlug value) "rec-" then
      String.ofList ((ruleSlug value).toList.take 50)
    else "rec-" ++ if ruleSlug value = "" then "rule" else ruleSlug value := by
  rw [slugifyRuleTag]
  simp only [startsWith_take]

theorem startsWith_slugifyRuleTag (value : String) :
    PythonText.startsWith (slugifyRuleTag value) "rec-" = true := by
  rw [slugifyRuleTag_eq]
  split_ifs with hprefixed
  · rw [startsWith_take, hprefixed]
  · decide
  · rw [PythonText.startsWith, List.isPrefixOf_iff_prefix, String.toList_append]
    exact List.prefix_append _ _

theorem isTagChar_of_mem_slugifyRuleTag {c : Char} (h : c ∈ (slugifyRuleTag value).toList) :
    isTagChar c = true := by
  have hword : ∀ c ∈ "rec-rule".toList, isTagChar c = true :=
    List.all_eq_true.mp (by decide : "rec-rule".toList.all isTagChar = true)
  rw [slugifyRuleTag_eq] at h
  split_ifs at h
  · rw [String.toList_ofList] at h
    exact isTagChar_of_mem_ruleSlug (List.mem_of_mem_take h)
  · exact hword c h
  · rw [String.toList_append, List.mem_append] at h
    rcases h with h | h
    · exact hword c (by
        have hsplit : "rec-rule".toList = "rec-".toList ++ "rule".toList := by decide
        rw [hsplit]
        exact List.mem_append_left _ h)
    · exact isTagChar_of_mem_ruleSlug h

/-- A tag has at most fifty characters exactly when the slug fits. -/
theorem length_slugifyRuleTag_le_iff : (slugifyRuleTag value).length ≤ 50 ↔ FitsTag value := by
  rw [slugifyRuleTag_eq, FitsTag]
  split_ifs with hprefixed hempty
  · simp [hprefixed]
  · have hword : ("rec-" ++ "rule").length ≤ 50 := by decide
    simpa [hempty] using hword
  · have hword : "rec-".length = 4 := by decide
    rw [String.length_append, hword]
    simp only [hprefixed, false_or, Bool.false_eq_true]
    omega

theorem legalTag_slugifyRuleTag_iff : LegalTag (slugifyRuleTag value) ↔ FitsTag value :=
  ⟨fun h => length_slugifyRuleTag_le_iff.mp h.length_le,
    fun h => ⟨startsWith_slugifyRuleTag value, fun _ hc => isTagChar_of_mem_slugifyRuleTag hc,
      length_slugifyRuleTag_le_iff.mpr h⟩⟩

theorem isSpace_eq_false_of_isTagChar {c : Char} (h : isTagChar c = true) :
    PythonText.isSpace c = false := by
  have hrange : (48 ≤ c.toNat ∧ c.toNat ≤ 57) ∨ (65 ≤ c.toNat ∧ c.toNat ≤ 90) ∨
      (97 ≤ c.toNat ∧ c.toNat ≤ 122) ∨ c.toNat = 45 := by
    change (((65 ≤ c.val ∧ c.val ≤ 90) || (97 ≤ c.val && c.val ≤ 122)) ||
      (48 ≤ c.val && c.val ≤ 57)) || c == '-' at h
    simp only [Bool.or_eq_true, Bool.and_eq_true, decide_eq_true_eq, beq_iff_eq,
      UInt32.le_iff_toNat_le] at h
    change (48 ≤ c.val.toNat ∧ c.val.toNat ≤ 57) ∨ (65 ≤ c.val.toNat ∧ c.val.toNat ≤ 90) ∨
      (97 ≤ c.val.toNat ∧ c.val.toNat ≤ 122) ∨ c.val.toNat = 45
    rcases h with ((h | h) | h) | rfl
    · exact .inr (.inl h)
    · exact .inr (.inr (.inl h))
    · exact .inl h
    · exact .inr (.inr (.inr rfl))
  simp only [PythonText.isSpace, Bool.or_eq_false_iff, Bool.and_eq_false_iff,
    decide_eq_false_iff_not, beq_eq_false_iff_ne]
  omega

/-- A text of tag characters is its own slug. -/
theorem ruleSlug_eq_self (h : ∀ c ∈ value.toList, isTagChar c = true) :
    ruleSlug value = value := by
  have hspace (c : Char) (hc : c ∈ value.toList) : ¬PythonText.isSpace c = true := by
    rw [isSpace_eq_false_of_isTagChar (h c hc)]
    exact Bool.false_ne_true
  have hstrip : PythonText.strip value = value := by
    have hleft : value.toList.dropWhile PythonText.isSpace = value.toList :=
      List.dropWhile_eq_self_iff.mpr fun hl => hspace _ (List.getElem_mem _)
    have hright : value.toList.rdropWhile PythonText.isSpace = value.toList :=
      List.rdropWhile_eq_self_iff.mpr fun hl => hspace _ (List.getLast_mem _)
    rw [PythonText.strip, hleft, PythonText.rstripWhere_eq, hright, String.ofList_toList]
  rw [ruleSlug, hstrip, List.filter_eq_self.mpr h, String.ofList_toList]

/-- A legal tag is its own tag. -/
theorem slugifyRuleTag_of_legalTag (h : LegalTag value) : slugifyRuleTag value = value := by
  have htake : value.toList.take 50 = value.toList :=
    List.take_of_length_le (by rw [String.length_toList]; exact h.length_le)
  rw [slugifyRuleTag_eq, ruleSlug_eq_self h.chars, if_pos h.startsWith, htake, String.ofList_toList]

/-- Taking the tag again keeps it exactly when it is legal: else it is cut. -/
theorem slugifyRuleTag_idem_iff :
    slugifyRuleTag (slugifyRuleTag value) = slugifyRuleTag value ↔ FitsTag value := by
  rw [← legalTag_slugifyRuleTag_iff]
  refine ⟨fun h => ?_, slugifyRuleTag_of_legalTag⟩
  have hslug : ruleSlug (slugifyRuleTag value) = slugifyRuleTag value :=
    ruleSlug_eq_self fun _ hc => isTagChar_of_mem_slugifyRuleTag hc
  have hfits : FitsTag (slugifyRuleTag value) :=
    .inl (by rw [hslug, startsWith_slugifyRuleTag])
  rw [← h]
  exact legalTag_slugifyRuleTag_iff.mpr hfits

end Tags

/-! ## Actions -/

/-- The default entries of `_action_or_default`. -/
def defaultAction : RuleAction where
  entries :=
    [("outcome", .str ruleOutcomeCandidate), ("candidate", .bool true), ("tag_enabled", .bool true),
      ("arr_tag", .none), ("arr_action", .str "delete"), ("media_server_action", .str "delete"),
      ("auto_delete_delay_days", .none), ("radarr_service_config_id", .none),
      ("sonarr_service_config_id", .none)]
  nodup := by decide

/-- `_action_or_default`. -/
def actionOrDefault (action : Option RuleAction) : RuleAction :=
  defaultAction.update (action.getD ∅)

/-- An `int` from 0 to 3650, else `None`. -/
def autoDeleteDelay : PyValue → PyValue
  | .int n => if 0 ≤ n.val ∧ n.val ≤ 3650 then .int n else .none
  | _ => .none

section Actions

variable (py : PythonRuntime)

/-- `normalized.get(key)`. -/
def entry (action : RuleAction) (key : String) : PyValue := (action.get? key).getD .none

/-- The outcome of a normalised action. -/
def ruleOutcome (action : Option RuleAction) : String :=
  if (entry (actionOrDefault action) "outcome").isStr ruleOutcomeProtect then ruleOutcomeProtect
  else ruleOutcomeCandidate

/-- `str(normalized.get("arr_tag") or rule_name)`. -/
def tagText (action : Option RuleAction) (ruleName : String) : String :=
  let arrTag := entry (actionOrDefault action) "arr_tag"
  py.str (if arrTag.truthy then arrTag else .str ruleName)

/-- The key of the service that a scope has no use for. -/
def unusedServiceKey (targetScope : Option String) : String :=
  if targetScope = some targetMovieVersion then "sonarr_service_config_id"
  else "radarr_service_config_id"

/-- The entries of `_normalize_rule_action`, up to those of a protection rule. -/
def normalizeEntries (action : Option RuleAction) (ruleName : String)
    (targetScope : Option String) : RuleAction :=
  let normalized := actionOrDefault action
  let outcome := ruleOutcome action
  let normalized := normalized.set "outcome" (.str outcome)
  let normalized := normalized.set "candidate" (.bool (outcome == ruleOutcomeCandidate))
  let normalized := normalized.set "tag_enabled"
    (.bool ((normalized.get? "tag_enabled").getD (.bool true)).truthy)
  let normalized := normalized.set "auto_delete_delay_days"
    (autoDeleteDelay (entry normalized "auto_delete_delay_days"))
  let normalized := normalized.set "arr_tag" (.str (slugifyRuleTag (tagText py action ruleName)))
  normalized.set (unusedServiceKey targetScope) .none

/-- What a protection rule has no use for. -/
def resetProtected (normalized : RuleAction) : RuleAction :=
  ((((((normalized.set "tag_enabled" (.bool false)).set "arr_tag" .none).set
    "arr_action" (.str "delete")).set "media_server_action" .none).set
    "auto_delete_delay_days" .none).set "radarr_service_config_id" .none).set
    "sonarr_service_config_id" .none

/-- `_normalize_rule_action`. -/
def normalizeRuleAction (action : Option RuleAction) (ruleName : String)
    (targetScope : Option String) : RuleAction :=
  let normalized := normalizeEntries py action ruleName targetScope
  if ruleOutcome action = ruleOutcomeProtect then resetProtected normalized else normalized

end Actions

section Normalized

variable {py : PythonRuntime} {action : Option RuleAction} {ruleName name : String}
  {targetScope : Option String}

theorem ruleOutcome_eq_candidate (h : ruleOutcome action ≠ ruleOutcomeProtect) :
    ruleOutcome action = ruleOutcomeCandidate := by
  rw [ruleOutcome] at h ⊢
  split_ifs at h ⊢ with hprotect
  · exact absurd rfl h
  · rfl

theorem keys_defaultAction_prefix : defaultAction.keys <+: (actionOrDefault action).keys :=
  Dict.keys_prefix_update _ _

theorem unusedServiceKey_mem (targetScope : Option String) :
    unusedServiceKey targetScope ∈ defaultAction.keys := by
  unfold unusedServiceKey
  split_ifs <;> decide

theorem keys_normalizeEntries :
    (normalizeEntries py action ruleName targetScope).keys = (actionOrDefault action).keys := by
  have hkeys : ∀ k ∈ defaultAction.keys, k ∈ (actionOrDefault action).keys :=
    fun k hk => keys_defaultAction_prefix.subset hk
  have hservice := hkeys _ (unusedServiceKey_mem targetScope)
  -- every entry that is written has a default
  simp only [defaultAction, Dict.keys, List.map_cons, List.map_nil, List.forall_mem_cons] at hkeys
  simp only [← Dict.keys.eq_def] at hkeys
  simp only [normalizeEntries, Dict.keys_set, hkeys, hservice, if_true]

theorem keys_resetProtected {d : RuleAction} (hd : defaultAction.keys <+: d.keys) :
    (resetProtected d).keys = d.keys := by
  have hkeys : ∀ k ∈ defaultAction.keys, k ∈ d.keys := fun k hk => hd.subset hk
  simp only [defaultAction, Dict.keys, List.map_cons, List.map_nil, List.forall_mem_cons] at hkeys
  simp only [← Dict.keys.eq_def] at hkeys
  simp only [resetProtected, Dict.keys_set, hkeys, if_true]

theorem keys_normalizeRuleAction :
    (normalizeRuleAction py action ruleName targetScope).keys = (actionOrDefault action).keys := by
  have hbegins : defaultAction.keys <+:
      (normalizeEntries py action ruleName targetScope).keys := by
    rw [keys_normalizeEntries]
    exact keys_defaultAction_prefix
  rw [normalizeRuleAction]
  split_ifs
  · rw [keys_resetProtected hbegins, keys_normalizeEntries]
  · exact keys_normalizeEntries

/-- A normalised action has all the defaults, in their order. -/
theorem actionOrDefault_normalizeRuleAction :
    actionOrDefault (some (normalizeRuleAction py action ruleName targetScope)) =
      normalizeRuleAction py action ruleName targetScope := by
  refine Dict.update_eq_of_prefix ?_
  change defaultAction.keys <+: (normalizeRuleAction py action ruleName targetScope).keys
  rw [keys_normalizeRuleAction]
  exact keys_defaultAction_prefix

/-- The values that are written by `normalizeEntries`. -/
theorem get?_normalizeEntries (k : String) :
    (normalizeEntries py action ruleName targetScope).get? k =
      if k = unusedServiceKey targetScope then some .none
      else if k = "arr_tag" then some (.str (slugifyRuleTag (tagText py action ruleName)))
      else if k = "auto_delete_delay_days" then
        some (autoDeleteDelay (entry (actionOrDefault action) "auto_delete_delay_days"))
      else if k = "tag_enabled" then
        some (.bool (((actionOrDefault action).get? "tag_enabled").getD (.bool true)).truthy)
      else if k = "candidate" then some (.bool (ruleOutcome action == ruleOutcomeCandidate))
      else if k = "outcome" then some (.str (ruleOutcome action))
      else (actionOrDefault action).get? k := by
  have hkeys : ¬"tag_enabled" = "candidate" ∧ ¬"tag_enabled" = "outcome" ∧
      ¬"auto_delete_delay_days" = "tag_enabled" ∧ ¬"auto_delete_delay_days" = "candidate" ∧
      ¬"auto_delete_delay_days" = "outcome" := by decide
  simp only [normalizeEntries, entry, Dict.get?_set, hkeys, if_false]

/-- The keys that `resetProtected` writes. -/
def resetKeys : List String :=
  ["tag_enabled", "arr_tag", "arr_action", "media_server_action", "auto_delete_delay_days",
    "radarr_service_config_id", "sonarr_service_config_id"]

theorem unusedServiceKey_mem_resetKeys : unusedServiceKey targetScope ∈ resetKeys := by
  unfold unusedServiceKey
  split_ifs <;> decide

theorem get?_resetProtected_congr {d d' : RuleAction} {k : String} (hk : k ∈ resetKeys) :
    (resetProtected d).get? k = (resetProtected d').get? k := by
  simp only [resetKeys, List.mem_cons, List.not_mem_nil, or_false] at hk
  rcases hk with rfl | rfl | rfl | rfl | rfl | rfl | rfl <;> simp [resetProtected]

theorem get?_resetProtected_of_notMem {d : RuleAction} {k : String} (hk : k ∉ resetKeys) :
    (resetProtected d).get? k = d.get? k := by
  simp only [resetKeys, List.mem_cons, List.not_mem_nil, or_false, not_or] at hk
  simp only [resetProtected, Dict.get?_set, hk, if_false]

/-- Normalising again keeps the outcome. -/
theorem ruleOutcome_normalizeRuleAction :
    ruleOutcome (some (normalizeRuleAction py action ruleName targetScope)) =
      ruleOutcome action := by
  have hservice : ¬"outcome" = unusedServiceKey targetScope := by
    unfold unusedServiceKey
    split_ifs <;> decide
  have houtcome : (normalizeRuleAction py action ruleName targetScope).get? "outcome" =
      some (.str (ruleOutcome action)) := by
    rw [normalizeRuleAction]
    split_ifs
    · rw [get?_resetProtected_of_notMem (by decide), get?_normalizeEntries]
      simp [hservice]
    · rw [get?_normalizeEntries]
      simp [hservice]
  rw [ruleOutcome, actionOrDefault_normalizeRuleAction, entry, houtcome, ruleOutcome]
  split_ifs <;> simp_all [PyValue.isStr, ruleOutcomeCandidate, ruleOutcomeProtect]

theorem autoDeleteDelay_autoDeleteDelay (value : PyValue) :
    autoDeleteDelay (autoDeleteDelay value) = autoDeleteDelay value := by
  cases value with
  | int n =>
    rw [autoDeleteDelay]
    split_ifs with hrange
    · rw [autoDeleteDelay, if_pos hrange]
    · rfl
  | none | bool | float | str | list | dict | datetime | date | unavailable => rfl

/-- The entries of the action of a candidate rule are normalised already, but for its tag. -/
theorem get?_normalizeEntries_again (hprotect : ruleOutcome action ≠ ruleOutcomeProtect)
    (htag : slugifyRuleTag (tagText py
        (some (normalizeRuleAction py action ruleName targetScope)) name) =
      slugifyRuleTag (tagText py action ruleName)) (k : String) :
    (normalizeEntries py (some (normalizeRuleAction py action ruleName targetScope)) name
      targetScope).get? k = (normalizeRuleAction py action ruleName targetScope).get? k := by
  have hservice : ¬"auto_delete_delay_days" = unusedServiceKey targetScope ∧
      ¬"tag_enabled" = unusedServiceKey targetScope := by
    unfold unusedServiceKey
    split_ifs <;> decide
  have hkeys : ¬"tag_enabled" = "arr_tag" ∧ ¬"tag_enabled" = "auto_delete_delay_days" ∧
      ¬"auto_delete_delay_days" = "arr_tag" := by decide
  have haction : normalizeRuleAction py action ruleName targetScope =
      normalizeEntries py action ruleName targetScope := by
    rw [normalizeRuleAction, if_neg hprotect]
  rw [get?_normalizeEntries, htag, ruleOutcome_normalizeRuleAction,
    actionOrDefault_normalizeRuleAction, haction]
  simp only [entry, get?_normalizeEntries, hservice, hkeys, if_false, if_true, Option.getD_some,
    autoDeleteDelay_autoDeleteDelay, PyValue.truthy]
  split_ifs <;> rfl

theorem get?_resetProtected_again (hprotect : ruleOutcome action = ruleOutcomeProtect)
    (k : String) :
    (resetProtected (normalizeEntries py
      (some (normalizeRuleAction py action ruleName targetScope)) name targetScope)).get? k =
        (normalizeRuleAction py action ruleName targetScope).get? k := by
  have haction : normalizeRuleAction py action ruleName targetScope =
      resetProtected (normalizeEntries py action ruleName targetScope) := by
    rw [normalizeRuleAction, if_pos hprotect]
  by_cases hk : k ∈ resetKeys
  · rw [haction]
    exact get?_resetProtected_congr hk
  · have hservice : ¬k = unusedServiceKey targetScope := fun heq =>
      hk (heq ▸ unusedServiceKey_mem_resetKeys)
    rw [get?_resetProtected_of_notMem hk, get?_normalizeEntries, ruleOutcome_normalizeRuleAction,
      actionOrDefault_normalizeRuleAction, haction, get?_resetProtected_of_notMem hk,
      get?_normalizeEntries]
    simp only [resetKeys, List.mem_cons, List.not_mem_nil, or_false, not_or] at hk
    simp only [hservice, hk, if_false]
    split_ifs <;> rfl

theorem get?_arrTag (hprotect : ruleOutcome action ≠ ruleOutcomeProtect) :
    (normalizeRuleAction py action ruleName targetScope).get? "arr_tag" =
      some (.str (slugifyRuleTag (tagText py action ruleName))) := by
  have hservice : ¬"arr_tag" = unusedServiceKey targetScope := by
    unfold unusedServiceKey
    split_ifs <;> decide
  rw [normalizeRuleAction, if_neg hprotect, get?_normalizeEntries, if_neg hservice, if_pos rfl]

/-- A legal tag is the tag of the normalised action, under any name. -/
theorem tagText_normalizeRuleAction (hstr : ∀ s, py.str (.str s) = s)
    (hprotect : ruleOutcome action ≠ ruleOutcomeProtect) :
    tagText py (some (normalizeRuleAction py action ruleName targetScope)) name =
      slugifyRuleTag (tagText py action ruleName) := by
  have hne : slugifyRuleTag (tagText py action ruleName) ≠ "" := by
    intro hempty
    have hstarts := startsWith_slugifyRuleTag (tagText py action ruleName)
    rw [hempty] at hstarts
    exact absurd hstarts (by decide)
  have htruthy : (PyValue.str (slugifyRuleTag (tagText py action ruleName))).truthy = true :=
    bne_iff_ne.mpr hne
  rw [tagText, actionOrDefault_normalizeRuleAction, entry, get?_arrTag hprotect]
  simp only [Option.getD_some, htruthy, if_true, hstr]

/-- Normalising an action again, when the tag of a candidate rule fits. -/
theorem normalizeRuleAction_again (hstr : ∀ s, py.str (.str s) = s)
    (h : ruleOutcome action = ruleOutcomeProtect ∨ FitsTag (tagText py action ruleName)) :
    normalizeRuleAction py (some (normalizeRuleAction py action ruleName targetScope)) name
      targetScope = normalizeRuleAction py action ruleName targetScope := by
  refine Dict.ext_get? ?_ fun k => ?_
  · rw [keys_normalizeRuleAction, actionOrDefault_normalizeRuleAction]
  · conv_lhs => rw [normalizeRuleAction, ruleOutcome_normalizeRuleAction]
    by_cases hprotect : ruleOutcome action = ruleOutcomeProtect
    · rw [if_pos hprotect]
      exact get?_resetProtected_again hprotect k
    · rw [if_neg hprotect]
      refine get?_normalizeEntries_again hprotect ?_ k
      rw [tagText_normalizeRuleAction hstr hprotect]
      exact slugifyRuleTag_idem_iff.mpr (h.resolve_left hprotect)

/-- The tag of a candidate rule is legal, and normalising the action again, under any name, changes
nothing. -/
def SettlesAction (py : PythonRuntime) (action : Option RuleAction) (ruleName : String)
    (targetScope : Option String) : Prop :=
  (ruleOutcome action = ruleOutcomeCandidate → ∃ tag,
    (normalizeRuleAction py action ruleName targetScope).get? "arr_tag" = some (.str tag) ∧
      LegalTag tag) ∧
  ∀ name, normalizeRuleAction py (some (normalizeRuleAction py action ruleName targetScope)) name
    targetScope = normalizeRuleAction py action ruleName targetScope

/-- One normalisation settles an action exactly when the slug of a candidate rule fits. -/
theorem settlesAction_iff (hstr : ∀ s, py.str (.str s) = s) :
    SettlesAction py action ruleName targetScope ↔
      ruleOutcome action = ruleOutcomeProtect ∨ FitsTag (tagText py action ruleName) := by
  constructor
  · rintro ⟨htag, -⟩
    by_cases hprotect : ruleOutcome action = ruleOutcomeProtect
    · exact .inl hprotect
    · obtain ⟨tag, hget, hlegal⟩ := htag (ruleOutcome_eq_candidate hprotect)
      rw [get?_arrTag hprotect] at hget
      obtain rfl := PyValue.str.inj (Option.some.inj hget)
      exact .inr (legalTag_slugifyRuleTag_iff.mp hlegal)
  · intro h
    refine ⟨fun hcandidate => ?_, fun name => normalizeRuleAction_again hstr h⟩
    have hprotect : ruleOutcome action ≠ ruleOutcomeProtect := by
      rw [hcandidate]
      decide
    exact ⟨_, get?_arrTag hprotect, legalTag_slugifyRuleTag_iff.mpr (h.resolve_left hprotect)⟩

end Normalized

/-! ## Two rule names -/

section Names

open PythonRuntime (plainRuntime plainRuntime_lawful)

theorem settlesAction_iff_oldMovies :
    SettlesAction plainRuntime none "Old movies" (some targetMovieVersion) ↔
      ruleOutcome none = ruleOutcomeProtect ∨
        FitsTag (tagText plainRuntime none "Old movies") :=
  settlesAction_iff plainRuntime_lawful.str_str

/-- A name of 47 letters, whose tag has 51 characters. -/
def longName : String := String.ofList (List.replicate 47 'a')

theorem not_settlesAction_longName :
    ¬SettlesAction plainRuntime none longName (some targetMovieVersion) := by
  rintro ⟨htag, -⟩
  have hprotect : ruleOutcome none ≠ ruleOutcomeProtect := by decide +kernel
  obtain ⟨tag, hget, hlegal⟩ := htag (ruleOutcome_eq_candidate hprotect)
  rw [get?_arrTag hprotect] at hget
  obtain rfl := PyValue.str.inj (Option.some.inj hget)
  exact absurd hlegal.length_le (by decide +kernel)

end Names

end MediaMasterr.Rules
