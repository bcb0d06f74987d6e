import MediaMasterr.Database.Tables
import MediaMasterr.Foundations.Dict
import MediaMasterr.Foundations.Loops
import MediaMasterr.Foundations.PythonText

/-! # Protections that rules manage

`_reconcile_rule_managed_protections`: the rows with source `rule` follow the
match records of the protect rules. A run leaves one row for each matched key
and the preserved rows, and a table of that shape is a fixed point. -/

namespace MediaMasterr.Protections

open MediaMasterr.Foundations MediaMasterr.Database

/-- An entry of `reason_data`. -/
structure ReasonEntry where
  ruleId : Option Nat
  text : Option String
  deriving DecidableEq, Repr

structure MatchedCandidateRecord where
  target : MediaTarget
  matchedRuleIds : List Nat
  reason : String
  reasonData : List ReasonEntry
  deriving DecidableEq, Repr

/-- The rule id and the media columns. -/
abbrev ManagedProtectionKey := Nat × MediaTarget

/-- `_managed_protection_key`. -/
def managedProtectionKey (ruleId : Nat) (target : MediaTarget) : ManagedProtectionKey :=
  (ruleId, target)

/-- `_managed_protection_reason`. -/
def managedProtectionReason (record : MatchedCandidateRecord) (ruleId : Nat) : String :=
  let texts := (record.reasonData.filter (·.ruleId = some ruleId)).map fun entry =>
    PythonText.strip (entry.text.getD "")
  match texts.find? (· ≠ "") with
  | some text => text
  | none => if record.reason = "" then "Matched automated protection rule" else record.reason

/-! ## The rows that the rules ask for -/

section Desired

variable (rules : List ReclaimRule) (records : List MatchedCandidateRecord)

/-- Each record with each of the given rules that it matches. -/
def matchedRules : List (MatchedCandidateRecord × Nat) :=
  records.flatMap fun record =>
    (record.matchedRuleIds.filter (· ∈ rules.map (·.id))).map fun ruleId => (record, ruleId)

/-- The key of a match. -/
def matchKey (matched : MatchedCandidateRecord × Nat) : ManagedProtectionKey :=
  managedProtectionKey matched.2 matched.1.target

/-- `desired`: the last record with a key wins. -/
def desired : Dict ManagedProtectionKey (MatchedCandidateRecord × Nat) :=
  (matchedRules rules records).foldl (fun desired m => desired.set (matchKey m) m) ∅

end Desired

/-! ## The rows that exist -/

/-- The key of a row, when it has a rule. -/
def rowKey (row : ProtectedMedia) : Option ManagedProtectionKey :=
  row.sourceRuleId.map fun ruleId => managedProtectionKey ruleId row.target

structure ExistingRows where
  existing : Dict ManagedProtectionKey ProtectedMedia := ∅
  rowsToDelete : List ProtectedMedia := []

/-- The first row of a key is kept aside, a row without a rule or with a key again is to be
deleted. -/
def indexRow (state : ExistingRows) (row : ProtectedMedia) : ExistingRows :=
  match rowKey row with
  | none => { state with rowsToDelete := state.rowsToDelete ++ [row] }
  | some key =>
    if key ∈ state.existing.keys then { state with rowsToDelete := state.rowsToDelete ++ [row] }
    else { state with existing := state.existing.set key row }

def ruleRows (rows : List ProtectedMedia) : List ProtectedMedia :=
  rows.filter (·.source = "rule")

def indexRows (rows : List ProtectedMedia) : ExistingRows := (ruleRows rows).foldl indexRow {}

/-! ## Reconciliation -/

/-- The state of the loop over `desired`; `rows` is the table. -/
structure Reconciliation where
  rows : List ProtectedMedia
  existing : Dict ManagedProtectionKey ProtectedMedia
  created : Nat := 0
  updated : Nat := 0

/-- The next primary key. -/
def nextId (rows : List ProtectedMedia) : Nat := (rows.map (·.id)).foldr max 0 + 1

def createRow (id : Nat) (record : MatchedCandidateRecord) (ruleId : Nat) : ProtectedMedia where
  id := id
  mediaType := record.target.mediaType
  protectedByUserId := none
  movieId := record.target.movieId
  movieVersionId := record.target.movieVersionId
  seriesId := record.target.seriesId
  seasonId := record.target.seasonId
  episodeId := record.target.episodeId
  source := "rule"
  sourceRuleId := some ruleId
  reason := some (managedProtectionReason record ruleId)
  permanent := true
  expiresAt := none

/-- The columns that a matched row gets. -/
def manage (reason : String) (row : ProtectedMedia) : ProtectedMedia :=
  { row with reason := some reason, permanent := true, expiresAt := none, protectedByUserId :=
    none }

/-- One entry of `desired`. -/
def reconcileEntry (state : Reconciliation)
    (entry : ManagedProtectionKey × MatchedCandidateRecord × Nat) : Reconciliation :=
  let (key, record, ruleId) := entry
  let reason := managedProtectionReason record ruleId
  match state.existing.get? key with
  | none =>
    { state with
      rows := state.rows ++ [createRow (nextId state.rows) record ruleId]
      created := state.created + 1 }
  | some row =>
    let state := { state with existing := state.existing.erase key }
    if row.reason ≠ some reason ∨ ¬row.permanent ∨ row.expiresAt ≠ none ∨
        row.protectedByUserId ≠ none then
      { state with
        rows := state.rows.map fun p => if p.id = row.id then manage reason p else p
        updated := state.updated + 1 }
    else state

/-- What spares a row that no record matches. -/
structure Preserve where
  ruleIds : List Nat := []
  ruleSeriesKeys : List (Nat × Nat) := []

/-- The row's rule, or its rule and series, is preserved. -/
def Preserve.spares (preserve : Preserve) (row : ProtectedMedia) : Bool :=
  row.sourceRuleId.any fun ruleId =>
    ruleId ∈ preserve.ruleIds ∨
      row.seriesId.any fun seriesId => (ruleId, seriesId) ∈ preserve.ruleSeriesKeys

/-- What a reconciliation returns, with the table it leaves. -/
structure ReconcileResult where
  db : Tables
  created : Nat
  updated : Nat
  deleted : Nat

section Reconcile

variable (db : Tables) (rules : List ReclaimRule) (records : List MatchedCandidateRecord)
variable (preserve : Preserve)

/-- The loop over `desired`. -/
def reconcileEntries : Reconciliation :=
  (desired rules records).entries.foldl reconcileEntry
    { rows := db.protectedMedia, existing := (indexRows db.protectedMedia).existing }

/-- `rows_to_delete`. -/
def rowsToDelete : List ProtectedMedia :=
  (indexRows db.protectedMedia).rowsToDelete ++
    (reconcileEntries db rules records).existing.values.filter fun row => !preserve.spares row

/-- `_reconcile_rule_managed_protections`, on the records that it collects. -/
def reconcileRuleManagedProtections : ReconcileResult :=
  let state := reconcileEntries db rules records
  let deleted := rowsToDelete db rules records preserve
  { db := { db with
      protectedMedia := state.rows.filter fun row => row.id ∉ deleted.map (·.id) }
    created := state.created
    updated := state.updated
    deleted := deleted.length }

end Reconcile

/-! ## The index of the existing rows -/

theorem indexRow_get? (state : ExistingRows) (row : ProtectedMedia) (key : ManagedProtectionKey) :
    (indexRow state row).existing.get? key =
      (state.existing.get? key).or (if rowKey row = some key then some row else none) := by
  unfold indexRow
  cases hkey : rowKey row with
  | none => simp
  | some key' =>
    simp only [Option.some.injEq]
    split_ifs with hmem heq heq
    · subst heq
      obtain ⟨first, hfirst⟩ := Dict.mem_keys_iff.mp hmem
      simp [hfirst]
    · simp
    · subst heq
      simp [Dict.get?_eq_none_iff.mpr hmem]
    · simp [Ne.symm heq]

/-- The first row of every key is indexed. -/
theorem foldl_indexRow_get? (rows : List ProtectedMedia) (key : ManagedProtectionKey) :
    (rows.foldl indexRow {}).existing.get? key = rows.find? (rowKey · = some key) := by
  induction rows using List.reverseRecOn with
  | nil => rfl
  | append_singleton rows row ih =>
    rw [List.foldl_append, List.foldl_cons, List.foldl_nil, indexRow_get?, ih, List.find?_append]
    congr 1
    by_cases hkey : rowKey row = some key <;> simp [hkey]

theorem mem_indexRow_rowsToDelete (state : ExistingRows) (last row : ProtectedMedia) :
    row ∈ (indexRow state last).rowsToDelete ↔ row ∈ state.rowsToDelete ∨
      (row = last ∧ ∀ key, rowKey last = some key → state.existing.get? key ≠ none) := by
  unfold indexRow
  cases hkey : rowKey last with
  | none => simp
  | some key =>
    simp only [Option.some.injEq, forall_eq', ne_eq, Dict.get?_eq_none_iff, not_not]
    split_ifs with hmem <;> simp [hmem]

/-- The rows that are not the first of a key are to be deleted. -/
theorem mem_foldl_indexRow_rowsToDelete {rows : List ProtectedMedia} (hrows : rows.Nodup)
    {row : ProtectedMedia} : row ∈ (rows.foldl indexRow {}).rowsToDelete ↔
      row ∈ rows ∧ ∀ key, (rows.foldl indexRow {}).existing.get? key ≠ some row := by
  induction rows using List.reverseRecOn with
  | nil => simp
  | append_singleton rows last ih =>
    obtain ⟨hrows, -, hdisjoint⟩ := List.nodup_append'.mp hrows
    have hlast : last ∉ rows := fun hmem => hdisjoint hmem (by simp)
    rw [List.foldl_append, List.foldl_cons, List.foldl_nil, mem_indexRow_rowsToDelete, ih hrows,
      List.mem_append, List.mem_singleton]
    simp only [indexRow_get?]
    have hindexed : ∀ key row, (rows.foldl indexRow {}).existing.get? key = some row →
        row ∈ rows := by
      intro key row h
      rw [foldl_indexRow_get?] at h
      exact List.mem_of_find?_eq_some h
    set existing := (rows.foldl indexRow {}).existing
    constructor
    · rintro (⟨hmem, hnot⟩ | ⟨rfl, hseen⟩)
      · refine ⟨Or.inl hmem, fun key h => ?_⟩
        rcases Option.or_eq_some_iff.mp h with h | ⟨-, h⟩
        · exact hnot key h
        · rw [Option.ite_none_right_eq_some] at h
          exact hlast (Option.some.inj h.2 ▸ hmem)
      · refine ⟨Or.inr rfl, fun key h => ?_⟩
        rcases Option.or_eq_some_iff.mp h with h | ⟨hnone, h⟩
        · exact hlast (hindexed key row h)
        · rw [Option.ite_none_right_eq_some] at h
          exact hseen key h.1 hnone
    · rintro ⟨hmem | rfl, hnot⟩
      · refine Or.inl ⟨hmem, fun key h => hnot key (by simp [h])⟩
      · refine Or.inr ⟨rfl, fun key hkey hnone => hnot key (by simp [hnone, hkey])⟩

/-! ## The loop over the matches -/

theorem lt_nextId {rows : List ProtectedMedia} {row : ProtectedMedia} (h : row ∈ rows) :
    row.id < nextId rows := by
  induction rows with
  | nil => simp at h
  | cons first rows ih =>
    simp only [nextId, List.map_cons, List.foldr_cons] at ih ⊢
    rcases List.mem_cons.mp h with rfl | h
    · omega
    · have := ih h
      omega

/-- The columns of a matched row are as the rule wants them. -/
def IsManaged (reason : String) (row : ProtectedMedia) : Prop :=
  row.reason = some reason ∧ row.permanent = true ∧ row.expiresAt = none ∧
    row.protectedByUserId = none

instance (reason : String) (row : ProtectedMedia) : Decidable (IsManaged reason row) := by
  unfold IsManaged
  infer_instance

theorem manage_isManaged (reason : String) (row : ProtectedMedia) :
    IsManaged reason (manage reason row) := ⟨rfl, rfl, rfl, rfl⟩

theorem manage_eq_self {reason : String} {row : ProtectedMedia} (h : IsManaged reason row) :
    manage reason row = row := by
  obtain ⟨hreason, hpermanent, hexpires, huser⟩ := h
  cases row
  simp_all [manage]

/-- What the entries make of a row: the one whose key the row is the first of updates it. -/
def updateRow (existing : Dict ManagedProtectionKey ProtectedMedia)
    (entries : List (ManagedProtectionKey × MatchedCandidateRecord × Nat)) (row : ProtectedMedia) :
    ProtectedMedia :=
  match entries.find? fun e => existing.get? e.1 = some row with
  | some (_, record, ruleId) => manage (managedProtectionReason record ruleId) row
  | none => row

section Loop

variable {rows : List ProtectedMedia} {existing : Dict ManagedProtectionKey ProtectedMedia}
variable {entries : List (ManagedProtectionKey × MatchedCandidateRecord × Nat)}

theorem updateRow_eq (row : ProtectedMedia) : updateRow existing entries row = row ∨
    ∃ e ∈ entries, existing.get? e.1 = some row ∧
      updateRow existing entries row = manage (managedProtectionReason e.2.1 e.2.2) row := by
  unfold updateRow
  split
  · rename_i key record ruleId hfind
    exact Or.inr ⟨_, List.mem_of_find?_eq_some hfind, by simpa using List.find?_some hfind, rfl⟩
  · exact Or.inl rfl

@[simp] theorem updateRow_id (row : ProtectedMedia) :
    (updateRow existing entries row).id = row.id := by
  rcases @updateRow_eq existing entries row with h | ⟨e, -, -, h⟩
  · rw [h]
  · rw [h]
    rfl

@[simp] theorem updateRow_source (row : ProtectedMedia) :
    (updateRow existing entries row).source = row.source := by
  rcases @updateRow_eq existing entries row with h | ⟨e, -, -, h⟩
  · rw [h]
  · rw [h]
    rfl

@[simp] theorem rowKey_updateRow (row : ProtectedMedia) :
    rowKey (updateRow existing entries row) = rowKey row := by
  rcases @updateRow_eq existing entries row with h | ⟨e, -, -, h⟩
  · rw [h]
  · rw [h]
    rfl

/-- Every row of the index is a row of the table, under its own key. -/
def Indexes (existing : Dict ManagedProtectionKey ProtectedMedia) (rows : List ProtectedMedia) :
    Prop :=
  ∀ key row, existing.get? key = some row →
    row ∈ rows ∧ row.source = "rule" ∧ rowKey row = some key

/-- A row whose key no entry has stays as it is. -/
theorem updateRow_of_notMem (hindex : Indexes existing rows) {key : ManagedProtectionKey}
    {row : ProtectedMedia} (hrow : existing.get? key = some row)
    (hkey : key ∉ entries.map Prod.fst) : updateRow existing entries row = row := by
  rcases @updateRow_eq existing entries row with h | ⟨e, he, hfound, -⟩
  · exact h
  · have hsame : e.1 = key := Option.some.inj
      ((hindex _ _ hfound).2.2.symm.trans (hindex _ _ hrow).2.2)
    exact absurd (List.mem_map.mpr ⟨e, he, hsame⟩) hkey

/-- One entry more. -/
theorem updateRow_append (entry : ManagedProtectionKey × MatchedCandidateRecord × Nat)
    (row : ProtectedMedia) (hrow : existing.get? entry.1 ≠ some row) :
    updateRow existing (entries ++ [entry]) row = updateRow existing entries row := by
  unfold updateRow
  rw [List.find?_append]
  simp [hrow]

/-- A row is updated by the entry with its key. -/
theorem updateRow_of_mem (hindex : Indexes existing rows) (hkeys : (entries.map Prod.fst).Nodup)
    {entry : ManagedProtectionKey × MatchedCandidateRecord × Nat} (hentry : entry ∈ entries)
    {row : ProtectedMedia} (hrow : existing.get? entry.1 = some row) :
    updateRow existing entries row = manage (managedProtectionReason entry.2.1 entry.2.2) row := by
  have hsome : (entries.find? fun e => existing.get? e.1 = some row).isSome :=
    List.find?_isSome.mpr ⟨entry, hentry, by simp [hrow]⟩
  obtain ⟨e, he⟩ := Option.isSome_iff_exists.mp hsome
  have hfound : existing.get? e.1 = some row := by simpa using List.find?_some he
  have hsame : e.1 = entry.1 := Option.some.inj
    ((hindex _ _ hfound).2.2.symm.trans (hindex _ _ hrow).2.2)
  obtain rfl : e = entry :=
    List.inj_on_of_nodup_map hkeys (List.mem_of_find?_eq_some he) hentry hsame
  unfold updateRow
  rw [he]

theorem updateRow_append_self (hindex : Indexes existing rows)
    {entry : ManagedProtectionKey × MatchedCandidateRecord × Nat} {row : ProtectedMedia}
    (hrow : existing.get? entry.1 = some row) (hkey : entry.1 ∉ entries.map Prod.fst) :
    updateRow existing (entries ++ [entry]) row =
      manage (managedProtectionReason entry.2.1 entry.2.2) row := by
  have hnone : entries.find? (fun e => existing.get? e.1 = some row) = none := by
    rw [List.find?_eq_none]
    intro e he hfound
    have hsame : e.1 = entry.1 := Option.some.inj
      ((hindex _ _ (by simpa using hfound)).2.2.symm.trans (hindex _ _ hrow).2.2)
    exact hkey (List.mem_map.mpr ⟨e, he, hsame⟩)
  unfold updateRow
  rw [List.find?_append, hnone]
  simp [hrow]

theorem reconcileEntry_existing (state : Reconciliation)
    (entry : ManagedProtectionKey × MatchedCandidateRecord × Nat) (key : ManagedProtectionKey) :
    (reconcileEntry state entry).existing.get? key =
      if key = entry.1 then none else state.existing.get? key := by
  dsimp only [reconcileEntry]
  cases hget : state.existing.get? entry.1 with
  | none =>
    by_cases hkey : key = entry.1
    · rw [if_pos hkey, hkey, hget]
    · rw [if_neg hkey]
  | some row =>
    dsimp only
    split_ifs <;> simp_all

/-- The keys of the entries leave the index. -/
theorem foldl_reconcileEntry_existing (state : Reconciliation) (key : ManagedProtectionKey) :
    (entries.foldl reconcileEntry state).existing.get? key =
      if key ∈ entries.map Prod.fst then none else state.existing.get? key := by
  induction entries generalizing state with
  | nil => simp
  | cons entry entries ih =>
    rw [List.foldl_cons, ih, reconcileEntry_existing]
    by_cases hkey : key = entry.1
    · simp [hkey]
    · simp only [hkey, List.map_cons, List.mem_cons, false_or, if_false]

theorem reconcileEntry_rows_of_none {state : Reconciliation}
    {entry : ManagedProtectionKey × MatchedCandidateRecord × Nat}
    (h : state.existing.get? entry.1 = none) : (reconcileEntry state entry).rows =
      state.rows ++ [createRow (nextId state.rows) entry.2.1 entry.2.2] := by
  simp only [reconcileEntry, h]

theorem reconcileEntry_rows_of_some {state : Reconciliation} {row : ProtectedMedia}
    {entry : ManagedProtectionKey × MatchedCandidateRecord × Nat}
    (h : state.existing.get? entry.1 = some row) : (reconcileEntry state entry).rows =
      if IsManaged (managedProtectionReason entry.2.1 entry.2.2) row then state.rows
      else state.rows.map fun p =>
        if p.id = row.id then manage (managedProtectionReason entry.2.1 entry.2.2) p else p := by
  simp only [reconcileEntry, h, IsManaged]
  split_ifs <;> grind

/-- The loop updates the first row of each key of an entry, and creates the rows of the other
keys. -/
theorem foldl_reconcileEntry_rows (hids : (rows.map (·.id)).Nodup) (hindex : Indexes existing rows)
    (hkeys : (entries.map Prod.fst).Nodup) :
    ∃ created, (entries.foldl reconcileEntry { rows, existing }).rows =
        rows.map (updateRow existing entries) ++ created ∧
      created.map rowKey = ((entries.filter fun e => existing.get? e.1 = none).map
        fun e => some (matchKey e.2)) ∧
      ∀ row ∈ created, ∃ e ∈ entries, ∃ id,
        row = createRow id e.2.1 e.2.2 ∧ ∀ p ∈ rows, p.id < id := by
  induction entries using List.reverseRecOn with
  | nil =>
    have hsame : updateRow existing [] = id := rfl
    exact ⟨[], by simp [hsame], rfl, by simp⟩
  | append_singleton entries entry ih =>
    rw [List.map_append, List.nodup_append'] at hkeys
    obtain ⟨hentries, -, hdisjoint⟩ := hkeys
    have hentry : entry.1 ∉ entries.map Prod.fst := fun hmem => hdisjoint hmem (by simp)
    obtain ⟨created, hrows, hcreatedKeys, hcreated⟩ := ih hentries
    rw [List.foldl_append, List.foldl_cons, List.foldl_nil]
    set state := entries.foldl reconcileEntry { rows, existing } with hstate
    have hfound : state.existing.get? entry.1 = existing.get? entry.1 := by
      rw [hstate, foldl_reconcileEntry_existing, if_neg hentry]
    have hmore : ∀ row ∈ created, ∃ e ∈ entries ++ [entry], ∃ id,
        row = createRow id e.2.1 e.2.2 ∧ ∀ p ∈ rows, p.id < id := by
      intro row hrow
      obtain ⟨e, he, h⟩ := hcreated row hrow
      exact ⟨e, List.mem_append_left _ he, h⟩
    cases hget : existing.get? entry.1 with
    | none =>
      have hsame : rows.map (updateRow existing (entries ++ [entry])) =
          rows.map (updateRow existing entries) :=
        List.map_congr_left fun row _ => updateRow_append entry row (by simp [hget])
      have hfresh : ∀ p ∈ rows, p.id < nextId state.rows := by
        intro p hp
        have hmem : updateRow existing entries p ∈ state.rows := by
          rw [hrows]
          exact List.mem_append_left _ (List.mem_map_of_mem hp)
        simpa using lt_nextId hmem
      refine ⟨created ++ [createRow (nextId state.rows) entry.2.1 entry.2.2], ?_, ?_, ?_⟩
      · rw [reconcileEntry_rows_of_none (hfound.trans hget), hsame, hrows, List.append_assoc]
      · rw [List.map_append, hcreatedKeys, List.filter_append, List.map_append]
        simp [hget, createRow, rowKey, matchKey, ProtectedMedia.target]
      · intro row hrow
        rcases List.mem_append.mp hrow with hrow | hrow
        · exact hmore row hrow
        · exact ⟨entry, by simp, _, List.mem_singleton.mp hrow, hfresh⟩
    | some row =>
      obtain ⟨hrow, -, -⟩ := hindex _ _ hget
      have hupdate : ∀ p ∈ rows, updateRow existing (entries ++ [entry]) p =
          if p.id = row.id then manage (managedProtectionReason entry.2.1 entry.2.2)
            (updateRow existing entries p) else updateRow existing entries p := by
        intro p hp
        by_cases hid : p.id = row.id
        · obtain rfl : p = row := List.inj_on_of_nodup_map hids hp hrow hid
          rw [if_pos rfl, updateRow_append_self hindex hget hentry,
            updateRow_of_notMem hindex hget hentry]
        · rw [if_neg hid, updateRow_append]
          rintro heq
          exact hid (congrArg ProtectedMedia.id (Option.some.inj (hget.symm.trans heq)).symm)
      have hothers : ∀ p ∈ created, p.id ≠ row.id := by
        intro p hp
        obtain ⟨e, -, id, rfl, hlt⟩ := hcreated p hp
        exact Nat.ne_of_gt (hlt row hrow)
      refine ⟨created, ?_, ?_, hmore⟩
      · rw [reconcileEntry_rows_of_some (hfound.trans hget), List.map_congr_left hupdate, hrows]
        split_ifs with hmanaged
        · -- the update of a row that is as it should be changes nothing
          congr 1
          refine List.map_congr_left fun p hp => ?_
          split_ifs with hid
          · obtain rfl : p = row := List.inj_on_of_nodup_map hids hp hrow hid
            rw [updateRow_of_notMem hindex hget hentry, manage_eq_self hmanaged]
          · rfl
        · rw [List.map_append, List.map_map]
          congr 1
          · refine List.map_congr_left fun p _ => ?_
            simp
          · exact (List.map_congr_left fun p hp => if_neg (hothers p hp)).trans (List.map_id _)
      · rw [hcreatedKeys, List.filter_append, List.map_append]
        simp [hget]

end Loop

/-! ## The table that is left -/

/-- A record matches a given rule under this key. -/
def Matches (rules : List ReclaimRule) (records : List MatchedCandidateRecord)
    (key : ManagedProtectionKey) : Prop :=
  ∃ m ∈ matchedRules rules records, matchKey m = key

section Result

variable {db : Tables} {rules : List ReclaimRule} {records : List MatchedCandidateRecord}
variable {preserve : Preserve}

theorem desired_get? (key : ManagedProtectionKey) : (desired rules records).get? key =
    (matchedRules rules records).reverse.find? (matchKey · = key) := by
  have hlast := Dict.get?_foldl_set (k := key) matchKey id (matchedRules rules records) ∅
  simpa [desired] using hlast

theorem matchKey_of_mem_desired {e : ManagedProtectionKey × MatchedCandidateRecord × Nat}
    (h : e ∈ (desired rules records).entries) : matchKey e.2 = e.1 := by
  have hget := Dict.get?_eq_some_iff.mpr h
  rw [desired_get?] at hget
  simpa using List.find?_some hget

theorem mem_desired_keys {key : ManagedProtectionKey} :
    key ∈ (desired rules records).keys ↔ Matches rules records key := by
  rw [Dict.mem_keys_iff]
  simp only [desired_get?, ← Option.isSome_iff_exists, List.find?_isSome, List.mem_reverse,
    decide_eq_true_eq, Matches]

theorem indexRows_get? (rows : List ProtectedMedia) (key : ManagedProtectionKey) :
    (indexRows rows).existing.get? key = (ruleRows rows).find? (rowKey · = some key) :=
  foldl_indexRow_get? _ key

theorem indexes_indexRows (rows : List ProtectedMedia) :
    Indexes (indexRows rows).existing rows := by
  intro key row h
  rw [indexRows_get?] at h
  have hmem := List.mem_of_find?_eq_some h
  simp only [ruleRows, List.mem_filter, decide_eq_true_eq] at hmem
  exact ⟨hmem.1, hmem.2, by simpa using List.find?_some h⟩

theorem reconcileEntries_existing (key : ManagedProtectionKey) :
    (reconcileEntries db rules records).existing.get? key =
      if key ∈ (desired rules records).keys then none
      else (indexRows db.protectedMedia).existing.get? key :=
  foldl_reconcileEntry_existing _ key

/-- The first row of its key is deleted when no record matches and nothing spares it, the other
rows of rules always. -/
theorem mem_rowsToDelete (hrows : (ruleRows db.protectedMedia).Nodup) {row : ProtectedMedia} :
    row ∈ rowsToDelete db rules records preserve ↔ row ∈ ruleRows db.protectedMedia ∧
      ∀ key, (indexRows db.protectedMedia).existing.get? key = some row →
        ¬Matches rules records key ∧ preserve.spares row = false := by
  have hindexed : row ∈ (indexRows db.protectedMedia).rowsToDelete ↔
      row ∈ ruleRows db.protectedMedia ∧
        ∀ key, (indexRows db.protectedMedia).existing.get? key ≠ some row :=
    mem_foldl_indexRow_rowsToDelete hrows
  have hindex := indexes_indexRows db.protectedMedia
  rw [rowsToDelete, List.mem_append, List.mem_filter, Dict.mem_values_iff, hindexed]
  simp only [reconcileEntries_existing, Option.ite_none_left_eq_some, mem_desired_keys,
    Bool.not_eq_true']
  constructor
  · rintro (⟨hmem, hnot⟩ | ⟨⟨key, hmatches, hget⟩, hspares⟩)
    · exact ⟨hmem, fun key hget => absurd hget (hnot key)⟩
    · obtain ⟨hmem, hsource, hkey⟩ := hindex key row hget
      refine ⟨by simp [ruleRows, hmem, hsource], fun key' hget' => ⟨?_, hspares⟩⟩
      obtain rfl : key = key' := Option.some.inj (hkey.symm.trans (hindex key' row hget').2.2)
      exact hmatches
  · rintro ⟨hmem, hdropped⟩
    by_cases hget : ∃ key, (indexRows db.protectedMedia).existing.get? key = some row
    · obtain ⟨key, hget⟩ := hget
      obtain ⟨hmatches, hspares⟩ := hdropped key hget
      exact Or.inr ⟨⟨key, hmatches, hget⟩, hspares⟩
    · exact Or.inl ⟨hmem, fun key h => hget ⟨key, h⟩⟩

/-- The row outlives a reconciliation. -/
def Kept (db : Tables) (rules : List ReclaimRule) (records : List MatchedCandidateRecord)
    (preserve : Preserve) (row : ProtectedMedia) : Prop :=
  row.source = "rule" → ∃ key, (indexRows db.protectedMedia).existing.get? key = some row ∧
    (Matches rules records key ∨ preserve.spares row = true)

/-- The table after a reconciliation: the kept rows, the matched ones among them updated, and a
new row for each other match. -/
theorem reconcile_rows (hids : (db.protectedMedia.map (·.id)).Nodup) :
    ∃ (keeps : ProtectedMedia → Bool) (created : List ProtectedMedia),
      (reconcileRuleManagedProtections db rules records preserve).db.protectedMedia =
        (db.protectedMedia.filter keeps).map (updateRow (indexRows db.protectedMedia).existing
          (desired rules records).entries) ++ created ∧
      (∀ row ∈ db.protectedMedia, keeps row = true ↔ Kept db rules records preserve row) ∧
      created.map rowKey = (((desired rules records).entries.filter fun e =>
        (indexRows db.protectedMedia).existing.get? e.1 = none).map fun e => some e.1) ∧
      ∀ row ∈ created, ∃ e ∈ (desired rules records).entries, ∃ id,
        row = createRow id e.2.1 e.2.2 := by
  have hrows : (ruleRows db.protectedMedia).Nodup := (List.Nodup.of_map _ hids).filter _
  obtain ⟨created, hloop, hkeys, hcreated⟩ := foldl_reconcileEntry_rows hids
    (indexes_indexRows db.protectedMedia) (desired rules records).nodup
  set deleted := rowsToDelete db rules records preserve with hdeleted
  have hmem : ∀ row ∈ db.protectedMedia, row.id ∈ deleted.map (·.id) ↔ row ∈ deleted := by
    intro row hrow
    refine ⟨fun h => ?_, fun h => List.mem_map_of_mem h⟩
    obtain ⟨row', hrow', hid⟩ := List.mem_map.mp h
    have hmem' : row' ∈ db.protectedMedia :=
      List.mem_of_mem_filter ((mem_rowsToDelete hrows).mp hrow').1
    rwa [← List.inj_on_of_nodup_map hids hmem' hrow hid]
  refine ⟨fun row => row.id ∉ deleted.map (·.id), created, ?_, ?_, ?_, ?_⟩
  · show (reconcileEntries db rules records).rows.filter _ = _
    rw [reconcileEntries, hloop, List.filter_append, List.filter_map]
    congr 1
    · congr 1
      refine List.filter_congr fun row _ => ?_
      simp [hdeleted]
    · rw [List.filter_eq_self]
      intro row hrow
      obtain ⟨e, -, id, rfl, hlt⟩ := hcreated row hrow
      simp only [decide_not, Bool.not_eq_true', decide_eq_false_iff_not, List.mem_map]
      rintro ⟨row', hrow', hid⟩
      have hmem' : row' ∈ db.protectedMedia :=
        List.mem_of_mem_filter ((mem_rowsToDelete hrows).mp hrow').1
      exact Nat.ne_of_lt (hlt row' hmem') hid
  · intro row hrow
    rw [decide_eq_true_iff, hmem row hrow, hdeleted, mem_rowsToDelete hrows, Kept]
    simp only [ruleRows, List.mem_filter, hrow, true_and, decide_eq_true_eq]
    grind
  · rw [hkeys]
    refine List.map_congr_left fun e he => ?_
    rw [matchKey_of_mem_desired (List.mem_of_mem_filter he)]
  · intro row hrow
    obtain ⟨e, he, id, heq, -⟩ := hcreated row hrow
    exact ⟨e, he, id, heq⟩

/-! ## Convergence -/

/-- What the rules ask of the rows: their rows have distinct keys, which are the matched ones
and those that were there and are spared; a matched row is as the last record with its key
wants it; the other rows are those that were there. -/
structure Converged (rules : List ReclaimRule) (records : List MatchedCandidateRecord)
    (preserve : Preserve) (before after : List ProtectedMedia) : Prop where
  distinct : ((ruleRows after).map rowKey).Nodup
  keys : ∀ key, key ∈ (ruleRows after).map rowKey ↔ ∃ k, key = some k ∧
    (Matches rules records k ∨
      ∃ row ∈ ruleRows before, rowKey row = some k ∧ preserve.spares row = true)
  matched : ∀ row ∈ ruleRows after, ∀ key, rowKey row = some key → Matches rules records key →
    ∃ m, (matchedRules rules records).reverse.find? (matchKey · = key) = some m ∧
      IsManaged (managedProtectionReason m.1 m.2) row
  others : after.filter (·.source ≠ "rule") = before.filter (·.source ≠ "rule")

theorem mem_ruleRows {rows : List ProtectedMedia} {row : ProtectedMedia} :
    row ∈ ruleRows rows ↔ row ∈ rows ∧ row.source = "rule" := by
  simp [ruleRows]

theorem spares_congr {row row' : ProtectedMedia} (h : rowKey row = rowKey row') :
    preserve.spares row = preserve.spares row' := by
  unfold rowKey at h
  unfold Preserve.spares
  cases hrule : row.sourceRuleId <;> cases hrule' : row'.sourceRuleId <;>
    simp_all [managedProtectionKey, ProtectedMedia.target]

theorem foldl_reconcileEntry_of_managed
    {entries : List (ManagedProtectionKey × MatchedCandidateRecord × Nat)} {state : Reconciliation}
    (hkeys : (entries.map Prod.fst).Nodup)
    (hmanaged : ∀ e ∈ entries, ∃ row, state.existing.get? e.1 = some row ∧
      IsManaged (managedProtectionReason e.2.1 e.2.2) row) :
    (entries.foldl reconcileEntry state).rows = state.rows ∧
      (entries.foldl reconcileEntry state).created = state.created ∧
      (entries.foldl reconcileEntry state).updated = state.updated := by
  induction entries generalizing state with
  | nil => exact ⟨rfl, rfl, rfl⟩
  | cons entry entries ih =>
    obtain ⟨hentry, hkeys⟩ := List.nodup_cons.mp hkeys
    obtain ⟨row, hget, hreason, hpermanent, hexpires, huser⟩ := hmanaged entry List.mem_cons_self
    have hstep : reconcileEntry state entry =
        { state with existing := state.existing.erase entry.1 } := by
      simp [reconcileEntry, hget, hreason, hpermanent, hexpires, huser]
    rw [List.foldl_cons, hstep]
    refine ih hkeys fun e he => ?_
    obtain ⟨row, hget, h⟩ := hmanaged e (List.mem_cons_of_mem _ he)
    have hne : e.1 ≠ entry.1 := fun heq => hentry (heq ▸ List.mem_map_of_mem he)
    exact ⟨row, by simp [hne, hget], h⟩

/-- A converged table is a fixed point. -/
theorem reconcile_of_converged {before : List ProtectedMedia}
    (h : Converged rules records preserve before db.protectedMedia) :
    reconcileRuleManagedProtections db rules records preserve = ⟨db, 0, 0, 0⟩ := by
  have hrows : (ruleRows db.protectedMedia).Nodup := List.Nodup.of_map _ h.distinct
  -- the index holds every row of a rule
  have hget : ∀ row ∈ ruleRows db.protectedMedia, ∀ key, rowKey row = some key →
      (indexRows db.protectedMedia).existing.get? key = some row := by
    intro row hrow key hkey
    have hsome : ((ruleRows db.protectedMedia).find? (rowKey · = some key)).isSome :=
      List.find?_isSome.mpr ⟨row, hrow, by simp [hkey]⟩
    obtain ⟨first, hfirst⟩ := Option.isSome_iff_exists.mp hsome
    have hsame : first = row := List.inj_on_of_nodup_map h.distinct
      (List.mem_of_find?_eq_some hfirst) hrow
      ((by simpa using List.find?_some hfirst : rowKey first = some key).trans hkey.symm)
    rw [indexRows_get?, hfirst, hsame]
  have hloop := @foldl_reconcileEntry_of_managed _
    { rows := db.protectedMedia, existing := (indexRows db.protectedMedia).existing }
    (desired rules records).nodup (by
      intro e he
      have hmatches : Matches rules records e.1 :=
        mem_desired_keys.mp (List.mem_map_of_mem he)
      obtain ⟨row, hrow, hkey⟩ :=
        List.mem_map.mp ((h.keys (some e.1)).mpr ⟨e.1, rfl, Or.inl hmatches⟩)
      obtain ⟨m, hlast, hmanaged⟩ := h.matched row hrow e.1 hkey hmatches
      rw [← desired_get?, Dict.get?_eq_some_iff.mpr he] at hlast
      exact ⟨row, hget row hrow e.1 hkey, Option.some.inj hlast ▸ hmanaged⟩)
  have hnone : rowsToDelete db rules records preserve = [] := by
    rw [List.eq_nil_iff_forall_not_mem]
    intro row hrow
    obtain ⟨hmem, hdropped⟩ := (mem_rowsToDelete hrows).mp hrow
    obtain ⟨key, hkey, hreason⟩ := (h.keys (rowKey row)).mp (List.mem_map_of_mem hmem)
    obtain ⟨hmatches, hspares⟩ := hdropped key (hget row hmem key hkey)
    rcases hreason with hreason | ⟨row', -, hkey', hspared⟩
    · exact hmatches hreason
    · rw [spares_congr (hkey.trans hkey'.symm), hspared] at hspares
      exact Bool.noConfusion hspares
  obtain ⟨hrows, hcreated, hupdated⟩ := hloop
  unfold reconcileRuleManagedProtections
  dsimp only
  rw [hnone, reconcileEntries, hrows, hcreated, hupdated]
  simp

theorem ruleRows_append (rows rows' : List ProtectedMedia) :
    ruleRows (rows ++ rows') = ruleRows rows ++ ruleRows rows' := List.filter_append ..

theorem ruleRows_map_updateRow (existing : Dict ManagedProtectionKey ProtectedMedia)
    (entries : List (ManagedProtectionKey × MatchedCandidateRecord × Nat))
    (rows : List ProtectedMedia) : ruleRows (rows.map (updateRow existing entries)) =
      (ruleRows rows).map (updateRow existing entries) := by
  rw [ruleRows, ruleRows, List.filter_map]
  congr 1
  exact List.filter_congr fun row _ => by simp

theorem createRow_isManaged (id : Nat) (record : MatchedCandidateRecord) (ruleId : Nat) :
    IsManaged (managedProtectionReason record ruleId) (createRow id record ruleId) :=
  ⟨rfl, rfl, rfl, rfl⟩

/-- The first row of every key is indexed. -/
theorem exists_existing {row : ProtectedMedia} (h : row ∈ ruleRows db.protectedMedia)
    {key : ManagedProtectionKey} (hkey : rowKey row = some key) :
    ∃ first, (indexRows db.protectedMedia).existing.get? key = some first := by
  rw [← Option.isSome_iff_exists, indexRows_get?, List.find?_isSome]
  exact ⟨row, h, by simp [hkey]⟩

theorem exists_entry_iff {key : ManagedProtectionKey} : Matches rules records key ↔
    ∃ m, (key, m) ∈ (desired rules records).entries := by
  rw [← mem_desired_keys, Dict.mem_keys_iff]
  simp only [Dict.get?_eq_some_iff]

/-- The rule rows of a table after a reconciliation: `kept` are the rows of the index that a
record matches or that are spared, `created` those of the matches without a row. -/
structure Reconciled (db : Tables) (rules : List ReclaimRule)
    (records : List MatchedCandidateRecord) (preserve : Preserve)
    (kept created after : List ProtectedMedia) : Prop where
  rows : ruleRows after = kept.map (updateRow (indexRows db.protectedMedia).existing
    (desired rules records).entries) ++ created
  keptNodup : kept.Nodup
  mem_kept : ∀ row, row ∈ kept ↔ ∃ key, (indexRows db.protectedMedia).existing.get? key = some row ∧
    (Matches rules records key ∨ preserve.spares row = true)
  createdKeys : created.map rowKey = ((desired rules records).entries.filter fun e =>
    (indexRows db.protectedMedia).existing.get? e.1 = none).map fun e => some e.1
  mem_created : ∀ row ∈ created, ∃ e ∈ (desired rules records).entries, ∃ id,
    row = createRow id e.2.1 e.2.2

section Reconciled

variable {kept created after : List ProtectedMedia}

theorem Reconciled.keys_eq (h : Reconciled db rules records preserve kept created after) :
    (ruleRows after).map rowKey = kept.map rowKey ++
      ((desired rules records).entries.filter fun e =>
        (indexRows db.protectedMedia).existing.get? e.1 = none).map fun e => some e.1 := by
  rw [h.rows, List.map_append, List.map_map, h.createdKeys]
  congr 1
  exact List.map_congr_left fun row _ => rowKey_updateRow row

theorem Reconciled.distinct (h : Reconciled db rules records preserve kept created after) :
    ((ruleRows after).map rowKey).Nodup := by
  have hindex := indexes_indexRows db.protectedMedia
  rw [h.keys_eq]
  refine List.Nodup.append ?_ ?_ ?_
  · refine List.Nodup.map_on ?_ h.keptNodup
    intro row hrow row' hrow' heq
    obtain ⟨key, hget, -⟩ := (h.mem_kept row).mp hrow
    obtain ⟨key', hget', -⟩ := (h.mem_kept row').mp hrow'
    rw [(hindex _ _ hget).2.2, (hindex _ _ hget').2.2, Option.some.injEq] at heq
    exact Option.some.inj (hget.symm.trans (heq ▸ hget'))
  · have hnodup : (((desired rules records).entries.filter fun e =>
        (indexRows db.protectedMedia).existing.get? e.1 = none).map Prod.fst).Nodup :=
      (desired rules records).nodup.sublist (List.filter_sublist.map _)
    have hsome := hnodup.map fun _ _ => Option.some.inj
    rwa [List.map_map] at hsome
  · intro key hfirst hsecond
    obtain ⟨row, hrow, rfl⟩ := List.mem_map.mp hfirst
    obtain ⟨e, he, heq⟩ := List.mem_map.mp hsecond
    obtain ⟨key, hget, -⟩ := (h.mem_kept row).mp hrow
    rw [(hindex _ _ hget).2.2, Option.some.injEq] at heq
    have hnone : (indexRows db.protectedMedia).existing.get? e.1 = none := by
      simpa using (List.mem_filter.mp he).2
    rw [heq, hget] at hnone
    exact Option.some_ne_none _ hnone

theorem Reconciled.mem_keys_iff (h : Reconciled db rules records preserve kept created after)
    (key : Option ManagedProtectionKey) : key ∈ (ruleRows after).map rowKey ↔
      ∃ k, key = some k ∧ (Matches rules records k ∨
        ∃ row ∈ ruleRows db.protectedMedia, rowKey row = some k ∧ preserve.spares row = true) := by
  have hindex := indexes_indexRows db.protectedMedia
  rw [h.keys_eq, List.mem_append]
  constructor
  · rintro (hfirst | hsecond)
    · obtain ⟨row, hrow, rfl⟩ := List.mem_map.mp hfirst
      obtain ⟨key, hget, hreason⟩ := (h.mem_kept row).mp hrow
      obtain ⟨hmem, hsource, hkey⟩ := hindex _ _ hget
      refine ⟨key, hkey, hreason.imp_right fun hspares => ?_⟩
      exact ⟨row, mem_ruleRows.mpr ⟨hmem, hsource⟩, hkey, hspares⟩
    · obtain ⟨e, he, rfl⟩ := List.mem_map.mp hsecond
      exact ⟨e.1, rfl, Or.inl (exists_entry_iff.mpr ⟨e.2, List.mem_of_mem_filter he⟩)⟩
  · rintro ⟨key, rfl, hreason⟩
    have hfirst : ∀ row, (indexRows db.protectedMedia).existing.get? key = some row →
        (Matches rules records key ∨ preserve.spares row = true) → some key ∈ kept.map rowKey := by
      intro row hget hreason
      exact List.mem_map.mpr ⟨row, (h.mem_kept row).mpr ⟨key, hget, hreason⟩, (hindex _ _ hget).2.2⟩
    rcases hreason with hmatches | ⟨row, hrow, hkey, hspares⟩
    · cases hget : (indexRows db.protectedMedia).existing.get? key with
      | none =>
        obtain ⟨m, hm⟩ := exists_entry_iff.mp hmatches
        exact Or.inr (List.mem_map.mpr ⟨(key, m), List.mem_filter.mpr ⟨hm, by simp [hget]⟩, rfl⟩)
      | some row => exact Or.inl (hfirst row hget (Or.inl hmatches))
    · obtain ⟨first, hget⟩ := exists_existing hrow hkey
      have hsame : rowKey first = rowKey row := (hindex _ _ hget).2.2.trans hkey.symm
      exact Or.inl (hfirst first hget (Or.inr ((spares_congr hsame).trans hspares)))

theorem Reconciled.isManaged (h : Reconciled db rules records preserve kept created after)
    {row : ProtectedMedia} (hrow : row ∈ ruleRows after) {key : ManagedProtectionKey}
    (hkey : rowKey row = some key) (hmatches : Matches rules records key) :
    ∃ m, (matchedRules rules records).reverse.find? (matchKey · = key) = some m ∧
      IsManaged (managedProtectionReason m.1 m.2) row := by
  have hindex := indexes_indexRows db.protectedMedia
  obtain ⟨m, hm⟩ := exists_entry_iff.mp hmatches
  have hlast : (desired rules records).get? key = some m := Dict.get?_eq_some_iff.mpr hm
  refine ⟨m, (desired_get? key).symm.trans hlast, ?_⟩
  rw [h.rows, List.mem_append] at hrow
  rcases hrow with hrow | hrow
  · obtain ⟨p, hp, rfl⟩ := List.mem_map.mp hrow
    obtain ⟨key', hget, -⟩ := (h.mem_kept p).mp hp
    rw [rowKey_updateRow, (hindex _ _ hget).2.2, Option.some.injEq] at hkey
    rw [updateRow_of_mem hindex (desired rules records).nodup hm (hkey ▸ hget)]
    exact manage_isManaged _ _
  · obtain ⟨e, he, id, rfl⟩ := h.mem_created row hrow
    have hsame : e.1 = key := by
      rw [← matchKey_of_mem_desired he]
      exact Option.some.inj hkey
    rw [← hsame, Dict.get?_eq_some_iff.mpr he] at hlast
    exact Option.some.inj hlast ▸ createRow_isManaged _ _ _

end Reconciled

/-- A row of another source is not updated. -/
theorem updateRow_of_source_ne {row : ProtectedMedia} (h : row.source ≠ "rule")
    {entries : List (ManagedProtectionKey × MatchedCandidateRecord × Nat)} :
    updateRow (indexRows db.protectedMedia).existing entries row = row := by
  rcases @updateRow_eq (indexRows db.protectedMedia).existing entries row with heq | ⟨e, -, hget, -⟩
  · exact heq
  · exact absurd (indexes_indexRows _ _ _ hget).2.1 h

theorem reconcile_converged (hids : (db.protectedMedia.map (·.id)).Nodup) :
    Converged rules records preserve db.protectedMedia
      (reconcileRuleManagedProtections db rules records preserve).db.protectedMedia := by
  obtain ⟨keeps, created, hafter, hkeeps, hcreatedKeys, hcreated⟩ :=
    @reconcile_rows db rules records preserve hids
  set after := (reconcileRuleManagedProtections db rules records preserve).db.protectedMedia
  have hcreatedRule : ∀ row ∈ created, row.source = "rule" := by
    intro row hrow
    obtain ⟨e, -, id, rfl⟩ := hcreated row hrow
    rfl
  have hreconciled : Reconciled db rules records preserve
      (ruleRows (db.protectedMedia.filter keeps)) created after := by
    refine ⟨?_, ((List.Nodup.of_map _ hids).filter _).filter _, fun row => ?_, hcreatedKeys,
      hcreated⟩
    · rw [hafter, ruleRows_append, ruleRows_map_updateRow]
      congr 1
      exact List.filter_eq_self.mpr fun row hrow => by simp [hcreatedRule row hrow]
    · rw [mem_ruleRows, List.mem_filter]
      constructor
      · rintro ⟨⟨hrow, hkeep⟩, hsource⟩
        exact (hkeeps row hrow).mp hkeep hsource
      · rintro ⟨key, hget, hreason⟩
        obtain ⟨hrow, hsource, -⟩ := indexes_indexRows _ key row hget
        exact ⟨⟨hrow, (hkeeps row hrow).mpr fun _ => ⟨key, hget, hreason⟩⟩, hsource⟩
  have hothers : after.filter (·.source ≠ "rule") =
      db.protectedMedia.filter (·.source ≠ "rule") := by
    have hnone : created.filter (·.source ≠ "rule") = [] :=
      List.filter_eq_nil_iff.mpr fun row hrow => by simp [hcreatedRule row hrow]
    rw [hafter, List.filter_append, List.filter_map, List.filter_filter, hnone, List.append_nil]
    have hfilter : db.protectedMedia.filter (fun row => ((fun row => decide (row.source ≠ "rule")) ∘
        updateRow (indexRows db.protectedMedia).existing (desired rules records).entries) row &&
          keeps row) = db.protectedMedia.filter (·.source ≠ "rule") := by
      refine List.filter_congr fun row hrow => ?_
      by_cases hsource : row.source = "rule"
      · simp [hsource]
      · simp [hsource, (hkeeps row hrow).mpr fun h => absurd h hsource]
    rw [hfilter]
    refine (List.map_congr_left fun row hrow => ?_).trans (List.map_id _)
    exact updateRow_of_source_ne (by simpa using (List.mem_filter.mp hrow).2)
  exact ⟨hreconciled.distinct, hreconciled.mem_keys_iff,
    fun row hrow key hkey hmatches => hreconciled.isManaged hrow hkey hmatches, hothers⟩

/-- A reconciliation makes the rows follow the rules, and the next one with the same records
changes nothing. -/
theorem reconcile_converges (db : Tables) (rules : List ReclaimRule)
    (records : List MatchedCandidateRecord) (preserve : Preserve)
    (hids : (db.protectedMedia.map (·.id)).Nodup) :
    Converged rules records preserve db.protectedMedia
        (reconcileRuleManagedProtections db rules records preserve).db.protectedMedia ∧
      reconcileRuleManagedProtections
          (reconcileRuleManagedProtections db rules records preserve).db rules records preserve =
        ⟨(reconcileRuleManagedProtections db rules records preserve).db, 0, 0, 0⟩ :=
  ⟨reconcile_converged hids, reconcile_of_converged (reconcile_converged hids)⟩

end Result

/-- A manual row, two rows of rule 1 for movie 1 and an orphan of rule 2. -/
def mixedRows : Tables where
  protectedMedia :=
    [{ id := 1, mediaType := .movie, movieId := some 1 },
      { id := 2, mediaType := .movie, movieId := some 1, source := "rule", sourceRuleId := some 1,
        permanent := false, expiresAt := some 9 },
      { id := 3, mediaType := .movie, movieId := some 1, source := "rule", sourceRuleId := some 1 },
      { id := 4, mediaType := .series, seriesId := some 5, source := "rule", sourceRuleId :=
        some 2 }]

/-- Rule 1 matches the movies 1 and 2. -/
def movieRecords : List MatchedCandidateRecord :=
  [⟨{ mediaType := .movie, movieId := some 1 }, [1], "old", [⟨some 1, some " kept by rule "⟩]⟩,
    ⟨{ mediaType := .movie, movieId := some 2 }, [1], "", []⟩]

example : ((reconcileRuleManagedProtections mixedRows [{ id := 1, mediaType :=
  .movie }] movieRecords
    {}).db.protectedMedia.map fun row => (row.id, row.movieId, row.reason)) =
      [(1, some 1, none), (2, some 1, some "kept by rule"),
        (5, some 2, some "Matched automated protection rule")] := by decide

theorem reconcile_converges_mixedRows : Converged [{ id := 1, mediaType := .movie }] movieRecords {}
    mixedRows.protectedMedia (reconcileRuleManagedProtections mixedRows
      [{ id := 1, mediaType := .movie }] movieRecords {}).db.protectedMedia :=
  (reconcile_converges mixedRows [{ id := 1, mediaType := .movie }] movieRecords {}
    (by decide)).1

end MediaMasterr.Protections
