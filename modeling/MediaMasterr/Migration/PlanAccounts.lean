import MediaMasterr.Migration.Plan

/-! # The accounts of a migration plan

A source item is matched through one identity key, so a plan asks for a copy
exactly where no destination item has that key. The conflicts of the plan are
those that its items list. -/

namespace MediaMasterr.Migration

open MediaMasterr.Foundations

/-- The items are of one kind and have the same TVDB, TMDB or IMDb id. -/
def sharesId (lower : String → String) (a b : MigrationMediaItem) : Bool :=
  decide (a.kind = b.kind) &&
    ((a.tvdbId.isSome && decide (a.tvdbId = b.tvdbId)) ||
      (a.tmdbId.isSome && decide (a.tmdbId = b.tmdbId)) ||
      ((presentText a.imdbId).isSome &&
        decide ((presentText a.imdbId).map lower = (presentText b.imdbId).map lower)))

/-- The items have one identity key. -/
def sameIdentity (lower : String → String) (a b : MigrationMediaItem) : Bool :=
  decide (identityKey lower b = identityKey lower a)

inductive ExternalId where
  | tvdb (id : Int)
  | tmdb (id : Int)
  | imdb (id : String)
  deriving DecidableEq, Repr

/-- The external id that the identity key is built from. -/
def leadingId (lower : String → String) (item : MigrationMediaItem) : Option ExternalId :=
  let byImdb := (presentText item.imdbId).map fun id => .imdb (lower id)
  match item.kind with
  | .series => ((item.tvdbId.map .tvdb).or (item.tmdbId.map .tmdb)).or byImdb
  | .movie => (item.tmdbId.map .tmdb).or byImdb

/-- The identity key of an item with a leading id. -/
def ExternalId.key (kind : MigrationMediaKind) : ExternalId → String
  | .tvdb id => "series:tvdb:" ++ toString id
  | .tmdb id => match kind with
    | .series => "series:tmdb:" ++ toString id
    | .movie => "movie:tmdb:" ++ toString id
  | .imdb id => "imdb:" ++ id

/-- What a plan is to account for: a copy only without a match in the destination, and a decision
for the items that are to have one where there are several matches. -/
structure PlanAccounts (isMatch : MigrationMediaItem → MigrationMediaItem → Bool)
    (isDecided : MigrationMediaItem → Prop) (source destination : List MigrationMediaItem)
    (plan : MigrationPlan) : Prop where
  items : plan.items.map (·.key) = source.map itemKey
  copies : ∀ p ∈ source.zip plan.items, p.2.status = .copyRequired →
    ∀ item ∈ destination, isMatch p.1 item = false
  decisions : ∀ p ∈ source.zip plan.items, isDecided p.1 → 2 ≤ destination.countP (isMatch p.1) →
    p.2.status = .manualDecision
  keys : (source.map (·.externalId)).Nodup → (plan.items.map (·.key)).Nodup
  counts : plan.summary.filesRequiringCopy + plan.summary.existingFiles + plan.summary.skippedFiles +
    plan.summary.conflictCount + plan.summary.manualDecisionCount = plan.summary.itemCount

/-- Every conflict key of an item is the key of one conflict of the plan, and the other way
round. -/
def ConflictsListed (plan : MigrationPlan) : Prop :=
  (∀ key ∈ plan.items.flatMap (·.conflictKeys), plan.conflicts.countP (·.key = key) = 1) ∧
    ∀ conflict ∈ plan.conflicts, (plan.items.flatMap (·.conflictKeys)).count conflict.key = 1

/-! ## The two dictionaries of the destination -/

section Index

variable (lower : String → String) (items : List MigrationMediaItem) (key : String)

theorem get?_foldl_matchIndex (found : Dict String MigrationMediaItem) :
    (items.foldl (fun found item =>
      if (found.get? (identityKey lower item)).isSome then found
      else found.set (identityKey lower item) item) found).get? key =
      (found.get? key).or (items.find? (identityKey lower · = key)) := by
  induction items generalizing found with
  | nil => simp
  | cons item items ih =>
    rw [List.foldl_cons, ih]
    by_cases hkey : identityKey lower item = key
    · subst hkey
      cases hfound : found.get? (identityKey lower item) <;> simp [hfound]
    · rw [List.find?_cons_of_neg (by simpa using hkey)]
      split_ifs
      · rfl
      · rw [Dict.get?_set, if_neg (Ne.symm hkey)]

theorem get?_destinationMatchIndex : (destinationMatchIndex lower items).get? key =
    items.find? (identityKey lower · = key) := by
  simp [destinationMatchIndex, get?_foldl_matchIndex]

theorem get?_foldl_matchCounts (counts : Dict String Nat) :
    ((items.foldl (fun counts item => counts.set (identityKey lower item)
      ((counts.get? (identityKey lower item)).getD 0 + 1)) counts).get? key).getD 0 =
      (counts.get? key).getD 0 + items.countP (identityKey lower · = key) := by
  induction items generalizing counts with
  | nil => simp
  | cons item items ih =>
    rw [List.foldl_cons, ih, Dict.get?_set, List.countP_cons]
    by_cases hkey : identityKey lower item = key
    · subst hkey
      simp
      omega
    · simp [hkey, Ne.symm hkey]

/-- A key is a duplicate when at least two items have it. -/
theorem mem_duplicateMatchKeys_iff : key ∈ duplicateMatchKeys lower items ↔
    2 ≤ items.countP (identityKey lower · = key) := by
  have hcount := get?_foldl_matchCounts lower items key ∅
  rw [Dict.get?_empty, Option.getD_none, Nat.zero_add] at hcount
  rw [← hcount]
  unfold duplicateMatchKeys matchCounts
  simp only [List.mem_map, List.mem_filter, decide_eq_true_eq]
  constructor
  · rintro ⟨⟨key, n⟩, ⟨hmem, hn⟩, rfl⟩
    rw [Dict.get?_eq_some_iff.mpr hmem]
    exact hn
  · intro h
    cases hget : Dict.get? (items.foldl (fun counts item => counts.set (identityKey lower item)
      ((counts.get? (identityKey lower item)).getD 0 + 1)) ∅) key with
    | none =>
      rw [hget] at h
      simp at h
    | some n =>
      rw [hget] at h
      exact ⟨(key, n), ⟨Dict.get?_eq_some_iff.mp hget, h⟩, rfl⟩

end Index

/-! ## Statuses -/

section Statuses

variable {lower : String → String} {destination : List MigrationMediaItem}
  {rootMappings : List MigrationRootMapping} {sourceItem : MigrationMediaItem}

/-- A copy is asked for exactly where the item has a path and the destination no match. -/
theorem status_eq_copyRequired_iff :
    (planItem lower destination rootMappings sourceItem).status = .copyRequired ↔
      (presentText sourceItem.currentPath).isSome ∧
        ∀ item ∈ destination, identityKey lower item ≠ identityKey lower sourceItem := by
  simp only [planItem, assessment, assess]
  cases hpath : presentText sourceItem.currentPath with
  | none => simp
  | some path =>
    simp only [Option.isNone_some, Option.isSome_some, Bool.false_eq_true, if_false, true_and]
    cases hfind : (destinationMatchIndex lower destination).get? (identityKey lower sourceItem) with
    | none =>
      have hnone := hfind
      rw [get?_destinationMatchIndex, List.find?_eq_none] at hnone
      have hfew : identityKey lower sourceItem ∉ duplicateMatchKeys lower destination := by
        rw [mem_duplicateMatchKeys_iff, List.countP_eq_zero.mpr hnone]
        decide
      simpa [hfew] using hnone
    | some item =>
      have hmatch := hfind
      rw [get?_destinationMatchIndex] at hmatch
      have hkey : identityKey lower item = identityKey lower sourceItem := by
        simpa using List.find?_some hmatch
      have hnot : ¬∀ item ∈ destination, identityKey lower item ≠ identityKey lower sourceItem :=
        fun h => h item (List.mem_of_find?_eq_some hmatch) hkey
      simp only [hnot, iff_false]
      split_ifs <;> simp

/-- Several matches of an item with a path leave it to a decision. -/
theorem status_eq_manualDecision (hpath : (presentText sourceItem.currentPath).isSome)
    (hcount : 2 ≤ destination.countP (identityKey lower · = identityKey lower sourceItem)) :
    (planItem lower destination rootMappings sourceItem).status = .manualDecision := by
  simp only [planItem, assessment, assess]
  rw [if_neg (by simpa using Option.isSome_iff_ne_none.mp hpath),
    if_pos ((mem_duplicateMatchKeys_iff _ _ _).mpr hcount)]

end Statuses

/-- The five statuses are all there are. -/
theorem countP_status (items : List MigrationPlanItem) :
    items.countP (·.status = .copyRequired) + items.countP (·.status = .existing) +
      items.countP (·.status = .skipped) + items.countP (·.status = .conflict) +
      items.countP (·.status = .manualDecision) = items.length := by
  induction items with
  | nil => rfl
  | cons item items ih =>
    simp only [List.countP_cons, List.length_cons]
    cases item.status <;> simp <;> omega

/-! ## Keys -/

theorem kind_value_noColon (kind : MigrationMediaKind) : ':' ∉ kind.value.toList := by
  cases kind <;> decide

theorem tag_noColon (conflictType : MigrationConflictType) : ':' ∉ conflictType.tag.toList := by
  cases conflictType <;> decide

theorem itemKey_inj {a b : MigrationMediaItem} (h : itemKey a = itemKey b) :
    a.kind = b.kind ∧ a.externalId = b.externalId := by
  obtain ⟨hkind, hid⟩ :=
    PythonText.append_sep_inj rfl (kind_value_noColon _) (kind_value_noColon _) h
  refine ⟨?_, hid⟩
  revert hkind
  cases a.kind <;> cases b.kind <;> simp [MigrationMediaKind.value]

theorem tag_injective {a b : MigrationConflictType} (h : a.tag = b.tag) : a = b := by
  cases a <;> cases b <;> first | rfl | exact absurd h (by decide)

theorem conflictKey_inj {a b : MigrationConflictType} {s t : MigrationMediaItem}
    (h : a.tag ++ ":" ++ itemKey s = b.tag ++ ":" ++ itemKey t) :
    a = b ∧ s.externalId = t.externalId := by
  obtain ⟨htag, hkey⟩ := PythonText.append_sep_inj rfl (tag_noColon _) (tag_noColon _) h
  exact ⟨tag_injective htag, (itemKey_inj hkey).2⟩

section Keys

variable {lower : String → String} {destination : List MigrationMediaItem}
  {rootMappings : List MigrationRootMapping} {sourceItem : MigrationMediaItem}

/-- The types of an item's conflicts, each at most once. -/
theorem conflictTypes_nodup :
    ((assessment lower destination rootMappings sourceItem).conflicts.map
      (·.conflictType)).Nodup := by
  unfold assessment assess
  simp only
  split_ifs
  · simp
  · simp
  · split
    · simp
    · simp only [matchConflicts]
      split_ifs <;> simp [makeConflict]

theorem key_of_mem_conflicts {conflict : MigrationConflict}
    (h : conflict ∈ (assessment lower destination rootMappings sourceItem).conflicts) :
    conflict.key = conflict.conflictType.tag ++ ":" ++ itemKey sourceItem := by
  have hmake : ∀ conflictType sourceValue destinationValue,
      conflict = makeConflict conflictType sourceItem sourceValue destinationValue →
        conflict.key = conflict.conflictType.tag ++ ":" ++ itemKey sourceItem := by
    rintro conflictType sourceValue destinationValue rfl
    rfl
  unfold assessment assess at h
  simp only at h
  split_ifs at h
  · exact hmake _ _ _ (List.mem_singleton.mp h)
  · exact hmake _ _ _ (List.mem_singleton.mp h)
  · split at h
    · exact absurd h List.not_mem_nil
    · simp only [matchConflicts, List.mem_append] at h
      rcases h with (h | h) | h
      all_goals
        split_ifs at h
        · exact hmake _ _ _ (List.mem_singleton.mp h)
        · exact absurd h List.not_mem_nil

theorem conflictKeys_nodup :
    ((assessment lower destination rootMappings sourceItem).conflicts.map (·.key)).Nodup := by
  have hkeys : (assessment lower destination rootMappings sourceItem).conflicts.map (·.key) =
      ((assessment lower destination rootMappings sourceItem).conflicts.map (·.conflictType)).map
        fun conflictType => conflictType.tag ++ ":" ++ itemKey sourceItem := by
    rw [List.map_map]
    exact List.map_congr_left fun _ hmem => key_of_mem_conflicts hmem
  rw [hkeys]
  exact conflictTypes_nodup.map fun _ _ h => (conflictKey_inj h).1

/-- Items with different external ids have no conflict key in common. -/
theorem plan_conflictKeys_nodup {source : List MigrationMediaItem}
    (hids : (source.map (·.externalId)).Nodup) :
    ((plan lower source destination rootMappings).conflicts.map (·.key)).Nodup := by
  simp only [plan, List.map_flatMap]
  rw [List.nodup_flatMap]
  refine ⟨fun _ _ => conflictKeys_nodup, ?_⟩
  rw [List.Nodup, List.pairwise_map] at hids
  refine hids.imp ?_
  intro s t hne key hs ht
  obtain ⟨conflict, hconflict, rfl⟩ := List.mem_map.mp hs
  obtain ⟨conflict', hconflict', hkey⟩ := List.mem_map.mp ht
  rw [key_of_mem_conflicts hconflict, key_of_mem_conflicts hconflict'] at hkey
  exact hne (conflictKey_inj hkey).2.symm

/-- The conflicts that the items list are those of the plan, in its order. -/
theorem plan_conflictKeys (source : List MigrationMediaItem) :
    (plan lower source destination rootMappings).items.flatMap (·.conflictKeys) =
      (plan lower source destination rootMappings).conflicts.map (·.key) := by
  simp only [plan, List.map_flatMap, List.flatMap_map]
  rfl

end Keys

/-! ## The plan -/

theorem imdbOrTitleKey_of_imdb {lower : String → String} {item : MigrationMediaItem}
    {id : ExternalId}
    (h : ((presentText item.imdbId).map fun id => ExternalId.imdb (lower id)) = some id)
    (kind : MigrationMediaKind) : imdbOrTitleKey lower item = id.key kind := by
  unfold imdbOrTitleKey
  cases himdb : item.imdbId with
  | none => simp [presentText, himdb] at h
  | some imdbId =>
    by_cases hempty : imdbId = ""
    · simp [presentText, himdb, hempty] at h
    · rw [presentText, himdb, Option.filter_some, if_pos (by simpa using hempty),
        Option.map_some] at h
      obtain rfl := Option.some.inj h
      exact if_pos hempty

theorem identityKey_of_leadingId {lower : String → String} {item : MigrationMediaItem}
    {id : ExternalId} (h : leadingId lower item = some id) :
    identityKey lower item = id.key item.kind := by
  unfold leadingId at h
  unfold identityKey
  cases hkind : item.kind with
  | series =>
    rw [hkind] at h
    cases htvdb : item.tvdbId with
    | some tvdbId =>
      rw [htvdb] at h
      obtain rfl := Option.some.inj h
      rfl
    | none =>
      cases htmdb : item.tmdbId with
      | some tmdbId =>
        rw [htvdb, htmdb] at h
        obtain rfl := Option.some.inj h
        rfl
      | none =>
        rw [htvdb, htmdb] at h
        exact imdbOrTitleKey_of_imdb h _
  | movie =>
    rw [hkind] at h
    cases htmdb : item.tmdbId with
    | some tmdbId =>
      rw [htmdb] at h
      obtain rfl := Option.some.inj h
      rfl
    | none =>
      rw [htmdb] at h
      exact imdbOrTitleKey_of_imdb h _

/-- Items of one kind with one leading id have one identity key. -/
theorem sameIdentity_of_leadingId {lower : String → String} {a b : MigrationMediaItem}
    {id : ExternalId} (hkind : b.kind = a.kind) (ha : leadingId lower a = some id)
    (hb : leadingId lower b = some id) : sameIdentity lower a b = true := by
  rw [sameIdentity, decide_eq_true_eq, identityKey_of_leadingId ha, identityKey_of_leadingId hb,
    hkind]

theorem conflictsListed_of_nodup {plan : MigrationPlan}
    (hlisted : plan.items.flatMap (·.conflictKeys) = plan.conflicts.map (·.key))
    (hnodup : (plan.conflicts.map (·.key)).Nodup) : ConflictsListed plan := by
  unfold ConflictsListed
  rw [hlisted]
  constructor
  · intro key hkey
    have hcount := List.count_eq_one_of_mem hnodup hkey
    rw [List.count, List.countP_map] at hcount
    rw [← hcount]
    exact List.countP_congr fun _ _ => by simp
  · intro conflict hmem
    exact List.count_eq_one_of_mem hnodup (List.mem_map_of_mem hmem)

theorem mem_zip_plan {lower : String → String} {source destination : List MigrationMediaItem}
    {rootMappings : List MigrationRootMapping} {p : MigrationMediaItem × MigrationPlanItem}
    (h : p ∈ source.zip (plan lower source destination rootMappings).items) :
    p.2 = planItem lower destination rootMappings p.1 := by
  have hzip : source.zip (plan lower source destination rootMappings).items =
      source.map fun item => (item, planItem lower destination rootMappings item) := by
    simpa [plan] using
      List.zip_map' (f := id) (g := planItem lower destination rootMappings) (l := source)
  rw [hzip, List.mem_map] at h
  obtain ⟨item, -, rfl⟩ := h
  rfl

/-- A plan accounts for its items by their identity keys. -/
theorem plan_accounts (lower : String → String) (source destination : List MigrationMediaItem)
    (rootMappings : List MigrationRootMapping) :
    PlanAccounts (sameIdentity lower) (fun item => (presentText item.currentPath).isSome) source
        destination (plan lower source destination rootMappings) ∧
      ((source.map (·.externalId)).Nodup →
        ConflictsListed (plan lower source destination rootMappings)) ∧
      ∀ a b : MigrationMediaItem, b.kind = a.kind → leadingId lower a ≠ none →
        leadingId lower b = leadingId lower a → sameIdentity lower a b = true := by
  refine ⟨⟨?_, ?_, ?_, ?_, ?_⟩, ?_, ?_⟩
  · simp only [plan, List.map_map]
    rfl
  · intro p hp hstatus item hitem
    rw [mem_zip_plan hp, status_eq_copyRequired_iff] at hstatus
    exact decide_eq_false (hstatus.2 item hitem)
  · intro p hp hpath hcount
    rw [mem_zip_plan hp]
    exact status_eq_manualDecision hpath hcount
  · intro hids
    have hkeys : (plan lower source destination rootMappings).items.map (·.key) =
        source.map itemKey := by
      simp only [plan, List.map_map]
      rfl
    rw [hkeys, List.Nodup, List.pairwise_map]
    rw [List.Nodup, List.pairwise_map] at hids
    exact hids.imp fun hne h => hne (itemKey_inj h).2
  · exact countP_status _
  · intro hids
    exact conflictsListed_of_nodup (plan_conflictKeys source) (plan_conflictKeys_nodup hids)
  · intro a b hkind hsome hleading
    obtain ⟨id, hid⟩ := Option.ne_none_iff_exists'.mp hsome
    exact sameIdentity_of_leadingId hkind hid (hleading.trans hid)

/-! ## Items with some of the ids -/

/-- A series that the source has with both ids. -/
def sourceSeries : MigrationMediaItem where
  kind := .series
  externalId := "12"
  title := "Breaking Bad"
  tvdbId := some 81189
  tmdbId := some 1396
  currentPath := some "/tv/Breaking Bad"

/-- The same series, without its TVDB id. -/
def destinationSeries : MigrationMediaItem where
  kind := .series
  externalId := "3"
  title := "Breaking Bad"
  tmdbId := some 1396
  currentPath := some "/tv/Breaking Bad"

/-- The series without a folder. -/
def pathlessSeries : MigrationMediaItem := { sourceSeries with currentPath := none }

/-- A shared id that is not the leading one is not found, an item without a path is skipped however
many matches it has, and items with one external id have one conflict key. -/
theorem plan_not_accounts :
    (plan PythonText.asciiLower [sourceSeries] [destinationSeries] []).items.map (·.status) =
        [.copyRequired] ∧
      ¬PlanAccounts (sharesId PythonText.asciiLower) (fun _ => True) [sourceSeries]
        [destinationSeries] (plan PythonText.asciiLower [sourceSeries] [destinationSeries] []) ∧
      (plan PythonText.asciiLower [pathlessSeries] [sourceSeries, sourceSeries] []).items.map
        (·.status) = [.skipped] ∧
      ¬PlanAccounts (sharesId PythonText.asciiLower) (fun _ => True) [pathlessSeries]
        [sourceSeries, sourceSeries]
        (plan PythonText.asciiLower [pathlessSeries] [sourceSeries, sourceSeries] []) ∧
      ¬ConflictsListed (plan PythonText.asciiLower [pathlessSeries, pathlessSeries] [] []) := by
  refine ⟨by decide +kernel, fun h => ?_, by decide +kernel, fun h => ?_, fun h => ?_⟩
  · exact absurd (h.copies _ List.mem_cons_self (by decide +kernel) destinationSeries
      List.mem_cons_self) (by decide +kernel)
  · exact absurd (h.decisions _ List.mem_cons_self trivial (by decide +kernel)) (by decide +kernel)
  · exact absurd (h.1 "missing:series:12" (by decide +kernel)) (by decide +kernel)

end MediaMasterr.Migration
