import Mathlib.Data.List.Pairwise
import MediaMasterr.Foundations.Writes
import MediaMasterr.Media.ImportedUnion

/-! # Importing Arr filters

`sync_imported_arr_filters`: the saved filters and tags of every Arr instance as rows of
`query_filters`. Failed fetches leave a shorter list, and rows that are not in the list are
disabled; a filter that is new and listed twice breaks the constraint on provider keys, as
nothing is flushed before the commit. -/

namespace MediaMasterr.Media

open MediaMasterr.Foundations MediaMasterr.Database MediaMasterr.RuleEngine

/-! ## Fetches -/

/-- An entry of `get_saved_filters`. -/
structure SavedFilter where
  id : String
  name : String
  raw : List (String × PyValue)

/-- What the two fetches of an instance give; `none` where one raises. -/
structure ArrFetch where
  service : Service
  configId : Nat
  savedFilters : Option (List SavedFilter)
  tagDetails : Option (List (String × List PyInt))

structure ImportedItem where
  id : String
  name : String
  raw : List (String × PyValue)

/-- `_normalized_provider_filter_id`. -/
def normalizedProviderFilterId (source rawId : String) : String :=
  if PythonText.strip rawId = "" then "" else source ++ ":" ++ PythonText.strip rawId

namespace ArrFetch

def succeeded (f : ArrFetch) : Bool := f.savedFilters.isSome && f.tagDetails.isSome

def mediaType (f : ArrFetch) : MediaType := if f.service = .radarr then .movie else .series

def idsKey (f : ArrFetch) : String := if f.service = .radarr then "movieIds" else "seriesIds"

variable (t : PythonText.CaseTables) (f : ArrFetch)

/-- `imported` or `imported_series`. -/
def imported : List ImportedItem :=
  ((f.savedFilters.getD []).map fun saved =>
    { id := normalizedProviderFilterId "saved" saved.id
      name := PythonText.strip saved.name
      raw := saved.raw }) ++
  (f.tagDetails.getD []).filterMap fun tag =>
    let tagName := PythonText.strip tag.1
    if tagName = "" then none
    else some
      { id := normalizedProviderFilterId "tag" (t.lower tagName)
        name := tagName
        raw := [(f.idsKey, .list (tag.2.map .int))] }

/-- The items that are stored: those with an id, under a name. -/
def items : List ImportedItem :=
  (f.imported t).filterMap fun item =>
    let providerFilterId := PythonText.strip item.id
    if providerFilterId = "" then none
    else some
      { id := providerFilterId
        name := if PythonText.strip item.name = "" then "Filter " ++ providerFilterId
          else PythonText.strip item.name
        raw := item.raw }

end ArrFetch

/-! ## Writes -/

namespace StoredFilter

/-- An imported filter of the instance. -/
def isOf (f : ArrFetch) (row : StoredFilter) : Bool :=
  row.kind = "imported_arr" && row.providerService = some f.service &&
    row.providerConfigId = some f.configId

/-- The columns of `uq_query_filters_provider_key`, which does not compare rows with a `NULL`. -/
def providerKey (row : StoredFilter) : Option (Service × Nat × String) := do
  let service ← row.providerService
  let configId ← row.providerConfigId
  let filterId ← row.providerFilterId
  return (service, configId, filterId)

def take (f : ArrFetch) (item : ImportedItem) (row : StoredFilter) : StoredFilter :=
  { row with
    name := item.name
    mediaType := some f.mediaType
    definition := [("raw", .dict item.raw)]
    readOnly := true
    enabled := true }

def disable (row : StoredFilter) : StoredFilter := { row with enabled := false }

def imported (f : ArrFetch) (item : ImportedItem) (id : Nat) : StoredFilter :=
  { id := id
    name := item.name
    kind := "imported_arr"
    mediaType := some f.mediaType
    definition := [("raw", .dict item.raw)]
    readOnly := true
    providerService := some f.service
    providerConfigId := some f.configId
    providerFilterId := some item.id }

end StoredFilter

inductive CommitError where
  | integrityError
  deriving DecidableEq, Repr

section Sync

variable (t : PythonText.CaseTables) (table : List StoredFilter)

/-- `existing`; what the session has added is not in the table yet. -/
def existingFilter (f : ArrFetch) (item : ImportedItem) : Option StoredFilter :=
  table.find? fun row => row.isOf f && row.providerFilterId = some item.id

def writeItem (f : ArrFetch) (item : ImportedItem) : Write StoredFilter :=
  match existingFilter table f item with
  | none => .insert (.imported f item)
  | some existing => .update existing.id (.take f item)

/-- The rows of the instance that were not seen. -/
def staleFilters (f : ArrFetch) : List StoredFilter :=
  table.filter fun row => row.isOf f &&
    !(f.items t).any fun item => row.providerFilterId = some item.id

def fetchWrites (f : ArrFetch) : List (Write StoredFilter) :=
  (f.items t).map (writeItem table f) ++
    (staleFilters t table f).map fun row => .update row.id .disable

/-- `sync_imported_arr_filters`. -/
def syncImportedArrFilters (fetches : List ArrFetch) : Except CommitError (List StoredFilter) :=
  let rows := Write.applyAll (·.id) table (fetches.flatMap (fetchWrites t table))
  if (rows.filterMap (·.providerKey)).Nodup then .ok rows else .error .integrityError

end Sync

/-! ## What the writes leave -/

/-- Primary keys and provider keys are unique. -/
structure WellKeyed (table : List StoredFilter) : Prop where
  ids : (table.map (·.id)).Nodup
  keys : (table.filterMap (·.providerKey)).Nodup

section Writes

variable {t : PythonText.CaseTables} {table : List StoredFilter} {f g : ArrFetch}
  {row row' : StoredFilter} {item : ImportedItem} {fetches : List ArrFetch}

theorem isOf_iff : row.isOf f = true ↔ row.kind = "imported_arr" ∧
    row.providerService = some f.service ∧ row.providerConfigId = some f.configId := by
  simp [StoredFilter.isOf, and_assoc]

theorem providerKey_of_isOf (h : row.isOf f = true) :
    row.providerKey = row.providerFilterId.map fun id => (f.service, f.configId, id) := by
  obtain ⟨-, hservice, hconfig⟩ := isOf_iff.mp h
  cases hid : row.providerFilterId <;> simp [StoredFilter.providerKey, hservice, hconfig, hid]

/-- One row has the key. -/
theorem WellKeyed.eq_of_key (h : WellKeyed table) (hrow : row ∈ table) (hrow' : row' ∈ table)
    {key : Service × Nat × String} (hkey : row.providerKey = some key)
    (hkey' : row'.providerKey = some key) : row = row' := by
  have hpairs : table.Pairwise fun a b => a.providerKey = some key → b.providerKey ≠ some key :=
    (List.pairwise_filterMap.mp h.keys).imp fun hne ha hb => hne _ ha _ hb rfl
  have : Std.Symm fun a b : StoredFilter =>
      a.providerKey = some key → b.providerKey ≠ some key :=
    ⟨fun _ _ hab hb ha => hab ha hb⟩
  by_contra hne
  exact hpairs.forall hrow hrow' hne hkey hkey'

theorem existingFilter_eq_some_iff (h : WellKeyed table) (hrow : row ∈ table) :
    existingFilter table f item = some row ↔
      row.isOf f = true ∧ row.providerFilterId = some item.id := by
  constructor
  · intro hfind
    simpa using List.find?_some hfind
  · intro hrowOf
    have hsome : (existingFilter table f item).isSome :=
      List.find?_isSome.mpr ⟨row, hrow, by simpa using hrowOf⟩
    obtain ⟨row', hfind⟩ := Option.isSome_iff_exists.mp hsome
    have hrowOf' : row'.isOf f = true ∧ row'.providerFilterId = some item.id := by
      simpa using List.find?_some hfind
    rw [hfind, h.eq_of_key (List.mem_of_find?_eq_some hfind) hrow
      (by rw [providerKey_of_isOf hrowOf'.1, hrowOf'.2]; rfl)
      (by rw [providerKey_of_isOf hrowOf.1, hrowOf.2]; rfl)]

/-- The items under the row's filter id. -/
def itemsFor (t : PythonText.CaseTables) (f : ArrFetch) (row : StoredFilter) : List ImportedItem :=
  (f.items t).filter fun item => row.providerFilterId = some item.id

/-- A row of the instance takes the last item under its filter id, or is disabled. -/
def refreshed (t : PythonText.CaseTables) (f : ArrFetch) (row : StoredFilter) : StoredFilter :=
  match (itemsFor t f row).getLast? with
  | some item => row.take f item
  | none => row.disable

theorem changeOf_writeItem (h : WellKeyed table) (hrow : row ∈ table) :
    Write.changeOf row.id (writeItem table f item) =
      if row.isOf f ∧ row.providerFilterId = some item.id then some (.take f item) else none := by
  unfold writeItem
  cases hexisting : existingFilter table f item with
  | none =>
    have hnot := List.find?_eq_none.mp hexisting row hrow
    rw [if_neg (by simpa using hnot)]
    rfl
  | some existing =>
    have hmem := List.mem_of_find?_eq_some hexisting
    have hsame : existing.id = row.id ↔
        row.isOf f = true ∧ row.providerFilterId = some item.id := by
      rw [← existingFilter_eq_some_iff h hrow, hexisting, Option.some.injEq]
      exact ⟨List.inj_on_of_nodup_map h.ids hmem hrow, fun heq => heq ▸ rfl⟩
    simp only [Write.changeOf, hsame]

theorem mem_staleFilters_iff :
    row ∈ staleFilters t table f ↔ row ∈ table ∧ row.isOf f = true ∧ itemsFor t f row = [] := by
  simp [staleFilters, itemsFor, List.filter_eq_nil_iff]

theorem changesOf_stale (h : WellKeyed table) (hrow : row ∈ table) :
    Write.changesOf ((staleFilters t table f).map fun row =>
        .update row.id StoredFilter.disable) row.id =
      if row.isOf f ∧ itemsFor t f row = [] then [StoredFilter.disable] else [] := by
  split_ifs with hstale
  · have hmem : row ∈ staleFilters t table f := mem_staleFilters_iff.mpr ⟨hrow, hstale⟩
    have hids : ((staleFilters t table f).map (·.id)).Nodup :=
      h.ids.sublist (List.filter_sublist.map _)
    refine Write.changesOf_eq_singleton (List.mem_map_of_mem hmem) (List.pairwise_map.mpr ?_)
    refine (List.pairwise_map.mp hids).imp fun hne heq heq' => hne ?_
    exact (Option.some.inj heq).trans (Option.some.inj heq').symm
  · refine Write.changesOf_eq_nil fun change hmem => hstale ?_
    obtain ⟨row', hrow', heq⟩ := List.mem_map.mp hmem
    obtain ⟨htable, hstale'⟩ := mem_staleFilters_iff.mp hrow'
    obtain rfl := List.inj_on_of_nodup_map h.ids htable hrow (Write.update.inj heq).1
    exact hstale'

theorem changesOf_items (h : WellKeyed table) (hrow : row ∈ table) :
    Write.changesOf ((f.items t).map (writeItem table f)) row.id =
      if row.isOf f then (itemsFor t f row).map (StoredFilter.take f) else [] := by
  rw [Write.changesOf, List.filterMap_map]
  simp only [Function.comp_def, changeOf_writeItem h hrow]
  by_cases hof : row.isOf f
  · simp only [hof, true_and, if_true, itemsFor]
    rw [← List.filterMap_eq_map, List.filterMap_filter]
    simp
  · simp [hof]

theorem foldl_take (f : ArrFetch) (items : List ImportedItem) (row : StoredFilter) :
    (items.map (StoredFilter.take f)).foldl (fun row change => change row) row =
      match items.getLast? with
      | some item => row.take f item
      | none => row := by
  induction items using List.reverseRecOn with
  | nil => rfl
  | append_singleton items item ih =>
    rw [List.map_append, List.foldl_append, ih, List.getLast?_concat]
    cases items.getLast? <;> rfl

/-- The writes of an instance refresh its rows, and no others. -/
theorem foldl_changesOf_fetchWrites (h : WellKeyed table) (hrow : row ∈ table) :
    (Write.changesOf (fetchWrites t table f) row.id).foldl (fun row change => change row) row =
      if row.isOf f then refreshed t f row else row := by
  rw [fetchWrites, Write.changesOf, List.filterMap_append]
  change ((Write.changesOf _ row.id) ++ Write.changesOf _ row.id).foldl _ row = _
  rw [changesOf_items h hrow, changesOf_stale h hrow, refreshed]
  by_cases hof : row.isOf f
  · simp only [hof, true_and, if_true, List.foldl_append, foldl_take]
    by_cases hnil : itemsFor t f row = []
    · simp [hnil]
    · obtain ⟨item, hlast⟩ := Option.ne_none_iff_exists'.mp
        (fun hnone => hnil (List.getLast?_eq_none_iff.mp hnone))
      simp [hnil, hlast]
  · simp [hof]

/-- The instances of the fetches are different, as the keys of dictionaries. -/
def DistinctFetches (fetches : List ArrFetch) : Prop :=
  (fetches.map fun f => (f.service, f.configId)).Nodup

theorem distinctFetches_singleton (f : ArrFetch) : DistinctFetches [f] := List.nodup_singleton _

theorem key_eq_of_isOf (hf : row.isOf f = true) (hg : row.isOf g = true) :
    (f.service, f.configId) = (g.service, g.configId) := by
  obtain ⟨-, hservice, hconfig⟩ := isOf_iff.mp hf
  obtain ⟨-, hservice', hconfig'⟩ := isOf_iff.mp hg
  exact Prod.ext (Option.some.inj (hservice.symm.trans hservice'))
    (Option.some.inj (hconfig.symm.trans hconfig'))

def syncWrites (t : PythonText.CaseTables) (table : List StoredFilter) (fetches : List ArrFetch) :
    List (Write StoredFilter) := fetches.flatMap (fetchWrites t table)

theorem refreshed_isOf : (refreshed t f row).isOf g = row.isOf g := by
  unfold refreshed
  split <;> rfl

theorem refreshed_id : (refreshed t f row).id = row.id := by
  unfold refreshed
  split <;> rfl

theorem changesOf_syncWrites (fetches : List ArrFetch) (id : Nat) :
    Write.changesOf (syncWrites t table fetches) id =
      fetches.flatMap fun f => Write.changesOf (fetchWrites t table f) id :=
  List.filterMap_flatMap ..

theorem changesOf_fetchWrites_eq_nil (h : WellKeyed table) (hrow : row ∈ table)
    (hof : ¬row.isOf f = true) : Write.changesOf (fetchWrites t table f) row.id = [] := by
  rw [fetchWrites, Write.changesOf, List.filterMap_append]
  refine List.append_eq_nil_iff.mpr ⟨(changesOf_items h hrow).trans (if_neg hof), ?_⟩
  exact (changesOf_stale h hrow).trans (if_neg fun hstale => hof hstale.1)

theorem changed_of_not_isOf (h : WellKeyed table) (hrow : row ∈ table)
    (hof : ∀ f ∈ fetches, ¬row.isOf f = true) :
    Write.changed (·.id) (syncWrites t table fetches) row = row := by
  have hnil : Write.changesOf (syncWrites t table fetches) row.id = [] := by
    rw [changesOf_syncWrites, List.flatMap_eq_nil_iff]
    exact fun f hf => changesOf_fetchWrites_eq_nil h hrow (hof f hf)
  rw [Write.changed, hnil, List.foldl_nil]

theorem changed_of_isOf (h : WellKeyed table) (hfetches : DistinctFetches fetches)
    (hrow : row ∈ table) (hf : f ∈ fetches) (hof : row.isOf f = true) :
    Write.changed (·.id) (syncWrites t table fetches) row = refreshed t f row := by
  obtain ⟨before, after, rfl⟩ := List.append_of_mem hf
  have hother (g : ArrFetch) (hg : g ∈ before ∨ g ∈ after) : ¬row.isOf g = true := by
    intro hofg
    rw [DistinctFetches, List.map_append, List.map_cons, List.nodup_middle, List.nodup_cons,
      ← List.map_append, key_eq_of_isOf hof hofg] at hfetches
    exact hfetches.1 (List.mem_map_of_mem (List.mem_append.mpr hg))
  have hbefore : (before.flatMap fun g => Write.changesOf (fetchWrites t table g) row.id) = [] :=
    List.flatMap_eq_nil_iff.mpr fun g hg => changesOf_fetchWrites_eq_nil h hrow (hother g (.inl hg))
  have hafter : (after.flatMap fun g => Write.changesOf (fetchWrites t table g) row.id) = [] :=
    List.flatMap_eq_nil_iff.mpr fun g hg => changesOf_fetchWrites_eq_nil h hrow (hother g (.inr hg))
  have hsame := foldl_changesOf_fetchWrites (t := t) (f := f) h hrow
  rw [if_pos hof] at hsame
  rw [Write.changed, changesOf_syncWrites, List.flatMap_append, List.flatMap_cons, hbefore, hafter,
    List.nil_append, List.append_nil]
  exact hsame

/-- The new filters of an instance. -/
def newItems (t : PythonText.CaseTables) (table : List StoredFilter) (f : ArrFetch) :
    List ImportedItem :=
  (f.items t).filter fun item => (existingFilter table f item).isNone

def newKeys (t : PythonText.CaseTables) (table : List StoredFilter) (f : ArrFetch) :
    List (Service × Nat × String) :=
  (newItems t table f).map fun item => (f.service, f.configId, item.id)

theorem inserts_syncWrites : Write.inserts (syncWrites t table fetches) =
    fetches.flatMap fun f => (newItems t table f).map (StoredFilter.imported f) := by
  rw [Write.inserts, syncWrites, List.filterMap_flatMap]
  refine List.flatMap_congr fun f _ => ?_
  rw [fetchWrites, List.filterMap_append, List.filterMap_map, List.filterMap_map]
  have hstale : (staleFilters t table f).filterMap (Write.makeOf ∘ fun row =>
      Write.update row.id StoredFilter.disable) = [] :=
    List.filterMap_eq_nil_iff.mpr fun _ _ => rfl
  rw [hstale, List.append_nil, newItems, ← List.filterMap_eq_map, List.filterMap_filter]
  refine List.filterMap_congr fun item _ => ?_
  rw [Function.comp_apply, writeItem]
  cases existingFilter table f item <;> rfl

theorem keyed_syncWrites : ∀ w ∈ syncWrites t table fetches, w.Keyed (·.id) := by
  intro w hw
  obtain ⟨f, -, hw⟩ := List.mem_flatMap.mp hw
  rcases List.mem_append.mp hw with hw | hw
  · obtain ⟨item, -, rfl⟩ := List.mem_map.mp hw
    unfold writeItem
    split
    · exact fun _ => rfl
    · exact fun _ => rfl
  · obtain ⟨row, -, rfl⟩ := List.mem_map.mp hw
    exact fun _ => rfl

theorem update_syncWrites {id : Nat} {change : StoredFilter → StoredFilter}
    (h : .update id change ∈ syncWrites t table fetches) : ∃ row ∈ table, row.id = id := by
  obtain ⟨f, -, hw⟩ := List.mem_flatMap.mp h
  rcases List.mem_append.mp hw with hw | hw
  · obtain ⟨item, -, heq⟩ := List.mem_map.mp hw
    unfold writeItem at heq
    split at heq
    · cases heq
    · rename_i existing hexisting
      exact ⟨existing, List.mem_of_find?_eq_some hexisting, (Write.update.inj heq).1⟩
  · obtain ⟨row, hrow, heq⟩ := List.mem_map.mp hw
    exact ⟨row, (List.mem_filter.mp hrow).1, (Write.update.inj heq).1⟩

variable (t table) in
/-- The rows of a sync: the old ones, refreshed, and then the new ones. -/
theorem exists_created (fetches : List ArrFetch) :
    ∃ created, Write.applyAll (·.id) table (syncWrites t table fetches) =
        table.map (Write.changed (·.id) (syncWrites t table fetches)) ++ created ∧
      Write.Created (Write.nextId (·.id) table)
        (fetches.flatMap fun f => (newItems t table f).map (StoredFilter.imported f)) created := by
  rw [← inserts_syncWrites]
  refine Write.applyAll_eq keyed_syncWrites fun id change hmem => ?_
  obtain ⟨row, hrow, rfl⟩ := update_syncWrites hmem
  exact @Write.lt_nextId _ (·.id) _ _ hrow

theorem filterMap_changed (rows : List StoredFilter) :
    (rows.map (Write.changed (·.id) (syncWrites t table fetches))).filterMap (·.providerKey) =
      rows.filterMap (·.providerKey) := by
  rw [List.filterMap_map]
  refine List.filterMap_congr fun row _ => ?_
  refine Write.changed_keeps StoredFilter.providerKey (fun id change hmem row => ?_) row
  obtain ⟨f, -, hw⟩ := List.mem_flatMap.mp hmem
  rcases List.mem_append.mp hw with hw | hw
  · obtain ⟨item, -, heq⟩ := List.mem_map.mp hw
    unfold writeItem at heq
    split at heq
    · cases heq
    · obtain ⟨-, rfl⟩ := Write.update.inj heq
      rfl
  · obtain ⟨row', -, heq⟩ := List.mem_map.mp hw
    obtain ⟨-, rfl⟩ := Write.update.inj heq
    rfl

theorem filterMap_created {next : Nat} {created : List StoredFilter}
    (h : Write.Created next
      (fetches.flatMap fun f => (newItems t table f).map (StoredFilter.imported f)) created) :
    created.filterMap (·.providerKey) = fetches.flatMap (newKeys t table) := by
  have hmap : created.map (·.providerKey) =
      (fetches.flatMap fun f => (newItems t table f).map (StoredFilter.imported f)).map
        fun make => (make 0).providerKey := by
    refine h.map_eq fun make hmake id => ?_
    obtain ⟨f, -, hmake⟩ := List.mem_flatMap.mp hmake
    obtain ⟨item, -, rfl⟩ := List.mem_map.mp hmake
    rfl
  have hsome : created.map (·.providerKey) = (fetches.flatMap (newKeys t table)).map some := by
    rw [hmap, List.map_flatMap, List.map_flatMap]
    refine List.flatMap_congr fun f _ => ?_
    rw [newKeys, List.map_map, List.map_map]
    rfl
  have hid := congrArg (List.filterMap id) hsome
  rw [List.filterMap_map, List.filterMap_map] at hid
  simpa using hid

/-- The keys of the table, and those that come in. -/
theorem providerKeys_applyAll (fetches : List ArrFetch) :
    (Write.applyAll (·.id) table (syncWrites t table fetches)).filterMap (·.providerKey) =
      table.filterMap (·.providerKey) ++ fetches.flatMap (newKeys t table) := by
  obtain ⟨created, hrows, hcreated⟩ := exists_created t table fetches
  rw [hrows, List.filterMap_append, filterMap_changed, filterMap_created hcreated]

end Writes

/-! ## Mirroring -/

section Mirror

variable (t : PythonText.CaseTables) (table : List StoredFilter) (fetches : List ArrFetch)

/-- The enabled filters of the instance are those that were fetched, each once. -/
structure Mirrored (f : ArrFetch) (table' : List StoredFilter) : Prop where
  shown : ∀ row ∈ table', row.isOf f = true → row.enabled = true →
    ∃ item ∈ f.items t, row.providerFilterId = some item.id ∧ row.name = item.name ∧
      row.definition = [("raw", .dict item.raw)]
  once : ∀ item ∈ f.items t, ∃! row, row ∈ table' ∧ row.isOf f = true ∧ row.enabled = true ∧
    row.providerFilterId = some item.id

structure MirrorsFetched (table' : List StoredFilter) : Prop where
  mirrored : ∀ f ∈ fetches, f.succeeded = true → Mirrored t f table'
  kept : ∀ f ∈ fetches, f.succeeded = false → ∀ row ∈ table, row.isOf f = true →
    ∃ row' ∈ table', row'.id = row.id ∧ row'.enabled = row.enabled ∧
      row'.definition = row.definition
  untouched : ∀ row : StoredFilter, (∀ f ∈ fetches, row.isOf f = false) →
    (row ∈ table' ↔ row ∈ table)

/-- The sync goes through, mirrors what was fetched and nothing else, and changes nothing when it
is run again. -/
def SyncMirrors : Prop :=
  ∃ table', syncImportedArrFilters t table fetches = .ok table' ∧
    MirrorsFetched t table fetches table' ∧ syncImportedArrFilters t table' fetches = .ok table'

/-- A row that the fetches leave as it is: listed, enabled and with the definition that is listed
last for it, or not listed and disabled. -/
def IsSettled (f : ArrFetch) (row : StoredFilter) : Prop :=
  match (itemsFor t f row).getLast? with
  | some item => row.enabled = true ∧ row.definition = [("raw", .dict item.raw)]
  | none => row.enabled = false

/-- No new filter has the key of another row or of another new filter, and with a failed fetch the
rows of the instance are left as they are. -/
structure ImportsCleanly : Prop where
  fresh : (table.filterMap (·.providerKey) ++ fetches.flatMap (newKeys t table)).Nodup
  failed : ∀ f ∈ fetches, f.succeeded = false → ∀ row ∈ table, row.isOf f = true →
    IsSettled t f row

variable {t table fetches} {f : ArrFetch} {row : StoredFilter}

theorem syncImportedArrFilters_eq_ok_iff {table' : List StoredFilter} :
    syncImportedArrFilters t table fetches = .ok table' ↔
      (table.filterMap (·.providerKey) ++ fetches.flatMap (newKeys t table)).Nodup ∧
        table' = Write.applyAll (·.id) table (syncWrites t table fetches) := by
  rw [← providerKeys_applyAll, syncImportedArrFilters, ← syncWrites]
  split_ifs with hnodup
  · rw [Except.ok.injEq, and_iff_right hnodup, eq_comm]
  · exact ⟨fun h => (by cases h), fun h => absurd h.1 hnodup⟩

theorem isSettled_iff : IsSettled t f row ↔ (refreshed t f row).enabled = row.enabled ∧
    (refreshed t f row).definition = row.definition := by
  unfold IsSettled refreshed
  split
  · exact and_congr eq_comm eq_comm
  · exact eq_comm.trans (and_iff_left rfl).symm

/-- Where the rows of a sync come from. -/
structure Synced (t : PythonText.CaseTables) (table : List StoredFilter) (fetches : List ArrFetch)
    (table' : List StoredFilter) : Prop where
  wellKeyed : WellKeyed table'
  old : ∀ row ∈ table, (∀ f ∈ fetches, row.isOf f = true → refreshed t f row ∈ table') ∧
    ((∀ f ∈ fetches, row.isOf f = false) → row ∈ table')
  new : ∀ f ∈ fetches, ∀ item ∈ newItems t table f, ∃ id, .imported f item id ∈ table'
  cases : ∀ row' ∈ table',
    (∃ f ∈ fetches, ∃ row ∈ table, row.isOf f = true ∧ row' = refreshed t f row) ∨
    (row' ∈ table ∧ ∀ f ∈ fetches, row'.isOf f = false) ∨
    ∃ f ∈ fetches, ∃ item ∈ newItems t table f, ∃ id, row' = .imported f item id

theorem synced (h : WellKeyed table) (hfetches : DistinctFetches fetches)
    (hfresh : (table.filterMap (·.providerKey) ++ fetches.flatMap (newKeys t table)).Nodup) :
    Synced t table fetches (Write.applyAll (·.id) table (syncWrites t table fetches)) := by
  obtain ⟨created, hrows, hcreated⟩ := exists_created t table fetches
  have hsame (row : StoredFilter) (hrow : row ∈ table) :
      (∀ f ∈ fetches, row.isOf f = true →
        Write.changed (·.id) (syncWrites t table fetches) row = refreshed t f row) ∧
      ((∀ f ∈ fetches, row.isOf f = false) →
        Write.changed (·.id) (syncWrites t table fetches) row = row) :=
    ⟨fun f hf hof => changed_of_isOf h hfetches hrow hf hof, fun hof =>
      changed_of_not_isOf h hrow fun f hf => Bool.eq_false_iff.mp (hof f hf)⟩
  have hold (row : StoredFilter) (hrow : row ∈ table) :
      Write.changed (·.id) (syncWrites t table fetches) row ∈
        Write.applyAll (·.id) table (syncWrites t table fetches) := by
    rw [hrows]
    exact List.mem_append_left _ (List.mem_map_of_mem hrow)
  refine ⟨⟨Write.nodup_applyAll keyed_syncWrites h.ids, ?_⟩, fun row hrow => ⟨?_, ?_⟩, ?_, ?_⟩
  · rw [providerKeys_applyAll]
    exact hfresh
  · intro f hf hof
    rw [← (hsame row hrow).1 f hf hof]
    exact hold row hrow
  · intro hof
    have hmem := hold row hrow
    rw [(hsame row hrow).2 hof] at hmem
    exact hmem
  · intro f hf item hitem
    obtain ⟨id, -, hmem⟩ := hcreated.exists_of_make
      (List.mem_flatMap.mpr ⟨f, hf, List.mem_map_of_mem hitem⟩)
    rw [hrows]
    exact ⟨id, List.mem_append_right _ hmem⟩
  · intro row' hrow'
    rw [hrows] at hrow'
    rcases List.mem_append.mp hrow' with hrow' | hrow'
    · obtain ⟨row, hrow, rfl⟩ := List.mem_map.mp hrow'
      by_cases hof : ∃ f ∈ fetches, row.isOf f = true
      · obtain ⟨f, hf, hof⟩ := hof
        exact .inl ⟨f, hf, row, hrow, hof, (hsame row hrow).1 f hf hof⟩
      · have hof' : ∀ f ∈ fetches, row.isOf f = false := fun f hf =>
          Bool.eq_false_iff.mpr fun htrue => hof ⟨f, hf, htrue⟩
        rw [(hsame row hrow).2 hof']
        exact .inr (.inl ⟨hrow, hof'⟩)
    · obtain ⟨make, hmake, id, -, rfl⟩ := hcreated.exists_of_mem hrow'
      obtain ⟨f, hf, hmake⟩ := List.mem_flatMap.mp hmake
      obtain ⟨item, hitem, rfl⟩ := List.mem_map.mp hmake
      exact .inr (.inr ⟨f, hf, item, hitem, id, rfl⟩)

theorem imported_isOf_iff {item : ImportedItem} {id : Nat} {f g : ArrFetch} :
    (StoredFilter.imported f item id).isOf g = true ↔
      (f.service, f.configId) = (g.service, g.configId) := by
  rw [isOf_iff]
  simp [StoredFilter.imported]

theorem DistinctFetches.eq_of_key (h : DistinctFetches fetches) {f g : ArrFetch} (hf : f ∈ fetches)
    (hg : g ∈ fetches) (hkey : (f.service, f.configId) = (g.service, g.configId)) : f = g :=
  List.inj_on_of_nodup_map h hf hg hkey

/-- The rows of an instance after a sync. -/
theorem Synced.of_isOf {table' : List StoredFilter} (hsynced : Synced t table fetches table')
    (hfetches : DistinctFetches fetches) (hf : f ∈ fetches) {row' : StoredFilter}
    (hrow' : row' ∈ table') (hof : row'.isOf f = true) :
    (∃ row ∈ table, row.isOf f = true ∧ row' = refreshed t f row) ∨
      ∃ item ∈ newItems t table f, ∃ id, row' = .imported f item id := by
  rcases hsynced.cases row' hrow' with ⟨g, hg, row, hrow, hofg, rfl⟩ | ⟨-, hnone⟩ |
    ⟨g, hg, item, hitem, id, rfl⟩
  · rw [refreshed_isOf] at hof
    obtain rfl := hfetches.eq_of_key hf hg (key_eq_of_isOf hof hofg)
    exact .inl ⟨row, hrow, hof, rfl⟩
  · rw [hnone f hf] at hof
    cases hof
  · obtain rfl := hfetches.eq_of_key hg hf (imported_isOf_iff.mp hof)
    exact .inr ⟨item, hitem, id, rfl⟩

theorem mem_itemsFor {item : ImportedItem} : item ∈ itemsFor t f row ↔
    item ∈ f.items t ∧ row.providerFilterId = some item.id := by
  simp [itemsFor]

theorem Synced.mirrored {table' : List StoredFilter} (hsynced : Synced t table fetches table')
    (hfetches : DistinctFetches fetches) (hf : f ∈ fetches) : Mirrored t f table' := by
  have hshown (row' : StoredFilter) (hrow' : row' ∈ table') (hof : row'.isOf f = true)
      (henabled : row'.enabled = true) : ∃ item ∈ f.items t,
        row'.providerFilterId = some item.id ∧ row'.name = item.name ∧
          row'.definition = [("raw", .dict item.raw)] := by
    rcases hsynced.of_isOf hfetches hf hrow' hof with ⟨row, -, -, rfl⟩ | ⟨item, hitem, id, rfl⟩
    · cases hlast : (itemsFor t f row).getLast? with
      | none =>
        rw [refreshed, hlast] at henabled
        cases henabled
      | some item =>
        obtain ⟨hitem, hid⟩ := mem_itemsFor.mp (List.mem_of_getLast? hlast)
        rw [refreshed, hlast]
        exact ⟨item, hitem, hid, rfl, rfl⟩
    · exact ⟨item, (List.mem_filter.mp hitem).1, rfl, rfl, rfl⟩
  refine ⟨hshown, fun item hitem => ?_⟩
  have hexists : ∃ row', row' ∈ table' ∧ row'.isOf f = true ∧ row'.enabled = true ∧
      row'.providerFilterId = some item.id := by
    cases hexisting : existingFilter table f item with
    | none =>
      obtain ⟨id, hmem⟩ := hsynced.new f hf item
        (List.mem_filter.mpr ⟨hitem, by rw [hexisting]; rfl⟩)
      exact ⟨_, hmem, imported_isOf_iff.mpr rfl, rfl, rfl⟩
    | some row =>
      have hrow := List.mem_of_find?_eq_some hexisting
      have hfound : row.isOf f = true ∧ row.providerFilterId = some item.id := by
        simpa using List.find?_some hexisting
      have hmem := (hsynced.old row hrow).1 f hf hfound.1
      have hne : itemsFor t f row ≠ [] := List.ne_nil_of_mem (mem_itemsFor.mpr ⟨hitem, hfound.2⟩)
      obtain ⟨last, hlast⟩ := Option.ne_none_iff_exists'.mp
        (fun hnone => hne (List.getLast?_eq_none_iff.mp hnone))
      rw [refreshed, hlast] at hmem
      exact ⟨_, hmem, hfound.1, rfl, hfound.2⟩
  obtain ⟨row', hrow', hof, henabled, hid⟩ := hexists
  refine ⟨row', ⟨hrow', hof, henabled, hid⟩, ?_⟩
  rintro other ⟨hother, hof', -, hid'⟩
  have hkey (row : StoredFilter) (hof : row.isOf f = true)
      (hid : row.providerFilterId = some item.id) :
      row.providerKey = some (f.service, f.configId, item.id) := by
    rw [providerKey_of_isOf hof, hid]
    rfl
  exact hsynced.wellKeyed.eq_of_key hother hrow' (hkey other hof' hid') (hkey row' hof hid)

theorem refreshed_refreshed : refreshed t f (refreshed t f row) = refreshed t f row := by
  have hitems : itemsFor t f (refreshed t f row) = itemsFor t f row := by
    unfold refreshed
    split <;> rfl
  rw [refreshed, hitems]
  cases hlast : (itemsFor t f row).getLast? with
  | none =>
    rw [refreshed, hlast]
    rfl
  | some item =>
    rw [refreshed, hlast]
    rfl

/-- The only item of a new id is the one that makes the row. -/
theorem refreshed_imported {item : ImportedItem} {id : Nat} (hitem : item ∈ newItems t table f)
    (hnodup : (newKeys t table f).Nodup) :
    refreshed t f (.imported f item id) = .imported f item id := by
  have hlast : (itemsFor t f (.imported f item id)).getLast? = some item := by
    have hall : ∀ other ∈ itemsFor t f (.imported f item id), other = item := by
      intro other hother
      obtain ⟨hmem, hid⟩ := mem_itemsFor.mp hother
      have hid : item.id = other.id := Option.some.inj hid
      have hnew : other ∈ newItems t table f := by
        refine List.mem_filter.mpr ⟨hmem, ?_⟩
        have hnone := (List.mem_filter.mp hitem).2
        rw [existingFilter, hid] at hnone
        exact hnone
      exact List.inj_on_of_nodup_map hnodup hnew hitem (by rw [hid])
    have hmem : item ∈ itemsFor t f (.imported f item id) :=
      mem_itemsFor.mpr ⟨(List.mem_filter.mp hitem).1, rfl⟩
    have hne := List.ne_nil_of_mem hmem
    rw [List.getLast?_eq_some_getLast hne, hall _ (List.getLast_mem hne)]
  rw [refreshed, hlast]
  rfl

/-- Nothing is new to the sync when it is run again, and every row stays as it is. -/
theorem Synced.again {table' : List StoredFilter} (hsynced : Synced t table fetches table')
    (hfetches : DistinctFetches fetches)
    (hfresh : (table.filterMap (·.providerKey) ++ fetches.flatMap (newKeys t table)).Nodup) :
    syncImportedArrFilters t table' fetches = .ok table' := by
  have hnone (f : ArrFetch) (hf : f ∈ fetches) : newItems t table' f = [] := by
    refine List.filter_eq_nil_iff.mpr fun item hitem => ?_
    obtain ⟨row', ⟨hrow', hof, -, hid⟩, -⟩ := (hsynced.mirrored hfetches hf).once item hitem
    rw [(existingFilter_eq_some_iff hsynced.wellKeyed hrow').mpr ⟨hof, hid⟩]
    exact Bool.false_ne_true
  have hkeys : fetches.flatMap (newKeys t table') = [] :=
    List.flatMap_eq_nil_iff.mpr fun f hf => by rw [newKeys, hnone f hf, List.map_nil]
  have hnew : (fetches.flatMap fun f => (newItems t table' f).map (StoredFilter.imported f)) = [] :=
    List.flatMap_eq_nil_iff.mpr fun f hf => by rw [hnone f hf, List.map_nil]
  have hnodup (f : ArrFetch) (hf : f ∈ fetches) : (newKeys t table f).Nodup :=
    (List.nodup_flatMap.mp (List.nodup_append'.mp hfresh).2.1).1 f hf
  have hsame (row' : StoredFilter) (hrow' : row' ∈ table') :
      Write.changed (·.id) (syncWrites t table' fetches) row' = row' := by
    by_cases hof : ∃ f ∈ fetches, row'.isOf f = true
    · obtain ⟨f, hf, hof⟩ := hof
      rw [changed_of_isOf hsynced.wellKeyed hfetches hrow' hf hof]
      rcases hsynced.of_isOf hfetches hf hrow' hof with ⟨row, -, -, rfl⟩ | ⟨item, hitem, id, rfl⟩
      · exact refreshed_refreshed
      · exact refreshed_imported hitem (hnodup f hf)
    · exact changed_of_not_isOf hsynced.wellKeyed hrow' fun f hf htrue => hof ⟨f, hf, htrue⟩
  refine syncImportedArrFilters_eq_ok_iff.mpr ⟨?_, ?_⟩
  · rw [hkeys, List.append_nil]
    exact hsynced.wellKeyed.keys
  · obtain ⟨created, hrows, hcreated⟩ := exists_created t table' fetches
    rw [hnew] at hcreated
    cases hcreated
    rw [hrows, List.append_nil, List.map_congr_left hsame, List.map_id']

/-- The import mirrors what was fetched, and nothing else, exactly when no filter that is new is
listed twice or under the key of another row, and the rows of every instance with a failed fetch
are already as the shorter list leaves them. -/
theorem syncMirrors_iff (h : WellKeyed table) (hfetches : DistinctFetches fetches) :
    SyncMirrors t table fetches ↔ ImportsCleanly t table fetches := by
  constructor
  · rintro ⟨table', hsync, hmirrors, -⟩
    obtain ⟨hfresh, rfl⟩ := syncImportedArrFilters_eq_ok_iff.mp hsync
    have hsynced := synced h hfetches hfresh
    refine ⟨hfresh, fun f hf hfailed row hrow hof => isSettled_iff.mpr ?_⟩
    obtain ⟨row', hrow', hid, henabled, hdefinition⟩ := hmirrors.kept f hf hfailed row hrow hof
    have hmem := (hsynced.old row hrow).1 f hf hof
    obtain rfl := List.inj_on_of_nodup_map hsynced.wellKeyed.ids hrow' hmem
      (hid.trans refreshed_id.symm)
    exact ⟨henabled, hdefinition⟩
  · intro hclean
    have hsynced := synced h hfetches hclean.fresh
    refine ⟨_, syncImportedArrFilters_eq_ok_iff.mpr ⟨hclean.fresh, rfl⟩, ⟨?_, ?_, ?_⟩,
      hsynced.again hfetches hclean.fresh⟩
    · exact fun f hf _ => hsynced.mirrored hfetches hf
    · intro f hf hfailed row hrow hof
      exact ⟨_, (hsynced.old row hrow).1 f hf hof, refreshed_id,
        isSettled_iff.mp (hclean.failed f hf hfailed row hrow hof)⟩
    · intro row hnone
      refine ⟨fun hrow => ?_, fun hrow => (hsynced.old row hrow).2 hnone⟩
      rcases hsynced.cases row hrow with ⟨f, hf, row₀, -, hof, rfl⟩ | ⟨hmem, -⟩ |
        ⟨f, hf, item, -, id, rfl⟩
      · rw [← refreshed_isOf (t := t) (f := f), hnone f hf] at hof
        cases hof
      · exact hmem
      · have hof := hnone f hf
        rw [imported_isOf_iff.mpr rfl] at hof
        cases hof

end Mirror

/-! ## Tags that are fetched, and a fetch of tags that fails -/

def tagFetch (tagDetails : Option (List (String × List PyInt))) : ArrFetch :=
  { service := .radarr, configId := 1, savedFilters := some [], tagDetails := tagDetails }

/-- The filter of a tag, imported before. -/
def horrorFilter : StoredFilter :=
  .imported (tagFetch none) { id := "tag:horror", name := "horror", raw := [] } 1

theorem syncMirrors_tags : SyncMirrors asciiQueryRuntime.toCaseTables [horrorFilter]
    [tagFetch (some [("horror", []), ("kids", [])])] :=
  (syncMirrors_iff ⟨by decide, by decide⟩ (distinctFetches_singleton _)).mpr
    ⟨by decide, fun f hf hfailed => by
      obtain rfl := List.mem_singleton.mp hf
      cases hfailed⟩

/-- The fetch of the tags fails, and the filter of the tag is disabled. -/
theorem not_syncMirrors_tagsFail :
    ¬SyncMirrors asciiQueryRuntime.toCaseTables [horrorFilter] [tagFetch none] := by
  rintro ⟨table', hsync, hmirrors, -⟩
  have hdone : syncImportedArrFilters asciiQueryRuntime.toCaseTables [horrorFilter]
    [tagFetch none] = .ok [horrorFilter.disable] := rfl
  obtain rfl := Except.ok.inj (hsync.symm.trans hdone)
  obtain ⟨row', hrow', -, henabled, -⟩ := hmirrors.kept _ (List.mem_singleton_self _) rfl
    horrorFilter (List.mem_singleton_self _) rfl
  obtain rfl := List.mem_singleton.mp hrow'
  cases henabled

end MediaMasterr.Media
