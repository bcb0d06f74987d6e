import MediaMasterr.Candidates.ArrTags
import MediaMasterr.Foundations.Writes

/-! # Managed Arr tags

`_sync_expected_arr_tags` brings the tags of one instance to the labels that the rules
want: three passes, all of them on the items as they were read before the first. The catalog
of an instance has one tag for an id and one for a label, whatever its case. -/

namespace MediaMasterr.Candidates

open MediaMasterr.Foundations

/-- The tags of an instance. -/
structure TagCatalog (lower : String → String) where
  tags : List ArrTag
  nodup_ids : (tags.map ArrTag.id).Nodup
  nodup_labels : (tags.map (lower ·.label)).Nodup

/-- How an instance makes a tag: with an unused id, and with the label in some case. -/
structure TagCreation (lower : String → String) where
  newId : List ArrTag → Nat
  storedLabel : String → String
  newId_notMem : ∀ tags, newId tags ∉ tags.map ArrTag.id
  lower_storedLabel : ∀ label, lower (storedLabel label) = lower label

variable {lower : String → String}

namespace TagCatalog

variable {c : TagCatalog lower} {tag tag' : ArrTag} {label : String}

theorem eq_of_id (h : tag ∈ c.tags) (h' : tag' ∈ c.tags) (hid : tag.id = tag'.id) : tag = tag' :=
  List.inj_on_of_nodup_map c.nodup_ids h h' hid

theorem eq_of_label (h : tag ∈ c.tags) (h' : tag' ∈ c.tags)
    (hlabel : lower tag.label = lower tag'.label) : tag = tag' :=
  List.inj_on_of_nodup_map c.nodup_labels h h' hlabel

def find? (c : TagCatalog lower) (label : String) : Option ArrTag :=
  c.tags.find? fun tag => lower tag.label = lower label

theorem find?_eq_some_iff : c.find? label = some tag ↔
    tag ∈ c.tags ∧ lower tag.label = lower label := by
  constructor
  · intro h
    exact ⟨List.mem_of_find?_eq_some h, by simpa using List.find?_some h⟩
  · rintro ⟨hmem, hlabel⟩
    obtain ⟨found, hfound⟩ : ∃ found, c.find? label = some found :=
      Option.isSome_iff_exists.mp (List.find?_isSome.mpr ⟨tag, hmem, by simpa using hlabel⟩)
    have hlower : lower found.label = lower label := by simpa using List.find?_some hfound
    rw [hfound, eq_of_label (List.mem_of_find?_eq_some hfound) hmem (hlower.trans hlabel.symm)]

theorem find?_eq_none_iff : c.find? label = none ↔
    ∀ tag ∈ c.tags, lower tag.label ≠ lower label := by
  simp [find?]

/-- `create_tag`, for a label that no tag has. -/
def create (creation : TagCreation lower) (c : TagCatalog lower) (label : String)
    (h : c.find? label = none) : TagCatalog lower where
  tags := c.tags ++ [⟨creation.newId c.tags, creation.storedLabel label⟩]
  nodup_ids := by
    rw [List.map_append, List.map_singleton, List.nodup_append_comm, List.singleton_append,
      List.nodup_cons]
    exact ⟨creation.newId_notMem c.tags, c.nodup_ids⟩
  nodup_labels := by
    rw [List.map_append, List.map_singleton, List.nodup_append_comm, List.singleton_append,
      List.nodup_cons, creation.lower_storedLabel, List.mem_map]
    exact ⟨fun ⟨tag, htag, heq⟩ => find?_eq_none_iff.mp h tag htag heq, c.nodup_labels⟩

/-- `get_or_create_tag`. -/
def getOrCreateTag (creation : TagCreation lower) (c : TagCatalog lower) (label : String) :
    ArrTag × TagCatalog lower :=
  match h : c.find? label with
  | some tag => (tag, c)
  | none => (⟨creation.newId c.tags, creation.storedLabel label⟩, c.create creation label h)

/-- The tag has the label, and the other tags of the catalog are those from before. -/
theorem getOrCreateTag_spec (creation : TagCreation lower) (c : TagCatalog lower) (label : String) :
    lower (c.getOrCreateTag creation label).1.label = lower label ∧
      ∀ tag, tag ∈ (c.getOrCreateTag creation label).2.tags ↔
        tag ∈ c.tags ∨ tag = (c.getOrCreateTag creation label).1 := by
  unfold getOrCreateTag
  split
  next found hfound =>
    obtain ⟨hmem, hlabel⟩ := find?_eq_some_iff.mp hfound
    exact ⟨hlabel, fun tag => ⟨.inl, fun h => h.elim id fun heq => heq ▸ hmem⟩⟩
  next hnone =>
    exact ⟨creation.lower_storedLabel label, fun tag => by simp [create]⟩

end TagCatalog

/-! ## The instance -/

/-- An instance: its tags, and the tag ids of its items. -/
structure ArrServer (lower : String → String) where
  catalog : TagCatalog lower
  items : Dict Nat (List Nat)

namespace ArrServer

variable {s : ArrServer lower} {ids : List Nat} {t u i : Nat}

/-- The item has the tag. -/
def Carries (s : ArrServer lower) (i t : Nat) : Prop :=
  ∃ tags, s.items.get? i = some tags ∧ t ∈ tags

instance (s : ArrServer lower) (i t : Nat) : Decidable (s.Carries i t) :=
  decidable_of_iff ((s.items.get? i).any (t ∈ ·)) (by simp [Carries, Option.any_eq_true])

/-- `add_tag_to_movies` and `add_tag_to_series`. -/
def addTag (s : ArrServer lower) (ids : List Nat) (t : Nat) : ArrServer lower where
  catalog := s.catalog
  items := s.items.mapValues fun i tags => if i ∈ ids ∧ t ∉ tags then tags ++ [t] else tags

/-- `remove_tag_from_movies` and `remove_tag_from_series`. -/
def removeTag (s : ArrServer lower) (ids : List Nat) (t : Nat) : ArrServer lower where
  catalog := s.catalog
  items := s.items.mapValues fun i tags => if i ∈ ids then tags.filter (· ≠ t) else tags

theorem carries_addTag : (s.addTag ids t).Carries i u ↔
    s.Carries i u ∨ u = t ∧ i ∈ ids ∧ i ∈ s.items.keys := by
  simp only [Carries, addTag, Dict.get?_mapValues, Option.map_eq_some_iff, Dict.mem_keys_iff]
  constructor
  · rintro ⟨_, ⟨tags, hget, rfl⟩, hu⟩
    split_ifs at hu with hadd
    · rcases List.mem_append.mp hu with hu | hu
      · exact .inl ⟨tags, hget, hu⟩
      · exact .inr ⟨List.mem_singleton.mp hu, hadd.1, tags, hget⟩
    · exact .inl ⟨tags, hget, hu⟩
  · rintro (⟨tags, hget, hu⟩ | ⟨rfl, hi, tags, hget⟩)
    · refine ⟨_, ⟨tags, hget, rfl⟩, ?_⟩
      split_ifs
      · exact List.mem_append_left _ hu
      · exact hu
    · refine ⟨_, ⟨tags, hget, rfl⟩, ?_⟩
      split_ifs with hadd
      · exact List.mem_append_right _ (List.mem_singleton_self u)
      · by_contra hu
        exact hadd ⟨hi, hu⟩

theorem carries_removeTag : (s.removeTag ids t).Carries i u ↔
    s.Carries i u ∧ ¬(u = t ∧ i ∈ ids) := by
  simp only [Carries, removeTag, Dict.get?_mapValues, Option.map_eq_some_iff]
  constructor
  · rintro ⟨_, ⟨tags, hget, rfl⟩, hu⟩
    split_ifs at hu with hi
    · rw [List.mem_filter] at hu
      exact ⟨⟨tags, hget, hu.1⟩, fun h => by simpa [h.1] using hu.2⟩
    · exact ⟨⟨tags, hget, hu⟩, fun h => hi h.2⟩
  · rintro ⟨⟨tags, hget, hu⟩, hne⟩
    refine ⟨_, ⟨tags, hget, rfl⟩, ?_⟩
    split_ifs with hi
    · rw [List.mem_filter, decide_eq_true_iff]
      exact ⟨hu, fun heq => hne ⟨heq, hi⟩⟩
    · exact hu

@[simp] theorem keys_addTag : (s.addTag ids t).items.keys = s.items.keys := by
  rw [addTag, Dict.keys_mapValues]

@[simp] theorem keys_removeTag : (s.removeTag ids t).items.keys = s.items.keys := by
  rw [removeTag, Dict.keys_mapValues]

@[simp] theorem catalog_addTag : (s.addTag ids t).catalog = s.catalog := rfl

@[simp] theorem catalog_removeTag : (s.removeTag ids t).catalog = s.catalog := rfl

end ArrServer

/-! ## The synchronisation -/

/-- What the three passes carry along. -/
structure TagSync (lower : String → String) where
  server : ArrServer lower
  tagByLabel : Dict String ArrTag
  tagged : Nat := 0
  untagged : Nat := 0

namespace TagSync

/-- What `_sync_expected_arr_tags` returns. -/
def counts (s : TagSync lower) : Nat × Nat := (s.tagged, s.untagged)

variable (creation : TagCreation lower) (itemsById : Dict Nat (List Nat))
  (expectedByTag : Dict String (List Nat))

def remove (s : TagSync lower) (ids : List Nat) (t : Nat) : TagSync lower where
  server := if ids = [] then s.server else s.server.removeTag ids t
  tagByLabel := s.tagByLabel
  tagged := s.tagged
  untagged := s.untagged + ids.length

/-- The tag of a label in the dictionary, or else in the catalog. -/
def findTag (s : TagSync lower) (label : String) : ArrTag × TagCatalog lower :=
  match s.tagByLabel.get? label with
  | some tag => (tag, s.server.catalog)
  | none => s.server.catalog.getOrCreateTag creation label

/-- The first pass, for one expected label. -/
def tagExpected (s : TagSync lower) (expected : String × List Nat) : TagSync lower :=
  let found := findTag creation s expected.1
  let server := { s.server with catalog := found.2 }
  let toAdd := expected.2.filter fun i => (itemsById.get? i).any fun tags => found.1.id ∉ tags
  { server := if toAdd = [] then server else server.addTag toAdd found.1.id
    tagByLabel := s.tagByLabel.set expected.1 found.1
    tagged := s.tagged + toAdd.length
    untagged := s.untagged }

/-- The second pass, for one stale tag. -/
def removeStale (s : TagSync lower) (stale : ArrTag) : TagSync lower :=
  s.remove ((itemsById.entries.filter fun e => stale.id ∈ e.2).map Prod.fst) stale.id

/-- The third pass, for one label that may be active. -/
def removeUnexpected (s : TagSync lower) (labelled : String × ArrTag) : TagSync lower :=
  if !PythonText.startsWith labelled.1 "rec-" || labelled.1 ∉ expectedByTag.keys then s
  else
    let expectedIds := (expectedByTag.get? labelled.1).getD []
    s.remove ((itemsById.entries.filter fun e =>
      e.1 ∉ expectedIds ∧ labelled.2.id ∈ e.2).map Prod.fst) labelled.2.id

end TagSync

/-- The labels that only this program gives. -/
def isManagedLabel (label : String) : Bool :=
  PythonText.startsWith label "rec-" || PythonText.startsWith label "reclaimerr"

/-- `managed_stale_tags`. -/
def managedStaleTags (expectedByTag : Dict String (List Nat)) (c : TagCatalog lower) :
    List ArrTag :=
  c.tags.filter fun tag =>
    isManagedLabel (lower tag.label) ∧ lower tag.label ∉ expectedByTag.keys

/-- `_sync_expected_arr_tags`, up to its log. -/
def syncExpectedArrTags (creation : TagCreation lower) (itemsById : Dict Nat (List Nat))
    (expectedByTag : Dict String (List Nat)) (server : ArrServer lower) : TagSync lower :=
  let start : TagSync lower :=
    { server := server
      tagByLabel := Dict.build (fun tag => some (lower tag.label)) id server.catalog.tags }
  let tagged := expectedByTag.entries.foldl (TagSync.tagExpected creation itemsById) start
  let cleared := (managedStaleTags expectedByTag server.catalog).foldl
    (TagSync.removeStale itemsById) tagged
  tagged.tagByLabel.entries.foldl (TagSync.removeUnexpected itemsById expectedByTag) cleared

/-! ## One pass after the other -/

namespace TagSync

variable {creation : TagCreation lower} {itemsById : Dict Nat (List Nat)}
  {expectedByTag : Dict String (List Nat)} {s : TagSync lower} {ids : List Nat} {t u i : Nat}

theorem carries_remove : (s.remove ids t).server.Carries i u ↔
    s.server.Carries i u ∧ ¬(u = t ∧ i ∈ ids) := by
  rw [remove]
  dsimp only
  split_ifs with hids
  · simp [hids]
  · exact ArrServer.carries_removeTag

theorem remove_nil (s : TagSync lower) (t : Nat) : s.remove [] t = s := rfl

@[simp] theorem keys_remove : (s.remove ids t).server.items.keys = s.server.items.keys := by
  rw [remove]
  dsimp only
  split_ifs
  · rfl
  · exact ArrServer.keys_removeTag

@[simp] theorem catalog_remove : (s.remove ids t).server.catalog = s.server.catalog := by
  rw [remove]
  dsimp only
  split_ifs <;> rfl

section Removals

variable {α : Type*} (idsOf : α → List Nat) (tagId : α → Nat) (xs : List α)

def removeAll (s : TagSync lower) : TagSync lower :=
  xs.foldl (fun s a => s.remove (idsOf a) (tagId a)) s

/-- A loop of removals leaves what no removal takes. -/
theorem removeAll_spec (s : TagSync lower) :
    (∀ i u, (removeAll idsOf tagId xs s).server.Carries i u ↔
      s.server.Carries i u ∧ ∀ a ∈ xs, ¬(u = tagId a ∧ i ∈ idsOf a)) ∧
    (removeAll idsOf tagId xs s).server.catalog = s.server.catalog ∧
    (removeAll idsOf tagId xs s).server.items.keys = s.server.items.keys := by
  induction xs generalizing s with
  | nil => simp [removeAll]
  | cons a xs ih =>
    obtain ⟨hcarries, hcatalog, hkeys⟩ := ih (s.remove (idsOf a) (tagId a))
    refine ⟨fun i u => ?_, hcatalog.trans catalog_remove, hkeys.trans keys_remove⟩
    change (removeAll idsOf tagId xs _).server.Carries i u ↔ _
    rw [hcarries, carries_remove, and_assoc, List.forall_mem_cons]

/-- A loop with nothing to remove changes nothing. -/
theorem removeAll_of_nil (s : TagSync lower) (h : ∀ a ∈ xs, idsOf a = []) :
    removeAll idsOf tagId xs s = s := by
  induction xs with
  | nil => rfl
  | cons a xs ih =>
    change removeAll idsOf tagId xs (s.remove (idsOf a) (tagId a)) = s
    rw [h a List.mem_cons_self, remove_nil]
    exact ih fun b hb => h b (List.mem_cons_of_mem a hb)

end Removals

/-- The items that the second pass takes a stale tag from. -/
def staleIds (itemsById : Dict Nat (List Nat)) (stale : ArrTag) : List Nat :=
  (itemsById.entries.filter fun e => stale.id ∈ e.2).map Prod.fst

/-- The items that the third pass takes the tag of a label from. -/
def unexpectedIds (itemsById : Dict Nat (List Nat)) (expectedByTag : Dict String (List Nat))
    (labelled : String × ArrTag) : List Nat :=
  if !PythonText.startsWith labelled.1 "rec-" || labelled.1 ∉ expectedByTag.keys then []
  else (itemsById.entries.filter fun e =>
    e.1 ∉ (expectedByTag.get? labelled.1).getD [] ∧ labelled.2.id ∈ e.2).map Prod.fst

theorem foldl_removeStale (stale : List ArrTag) (s : TagSync lower) :
    stale.foldl (removeStale itemsById) s = removeAll (staleIds itemsById) ArrTag.id stale s :=
  rfl

theorem foldl_removeUnexpected (labelled : List (String × ArrTag)) (s : TagSync lower) :
    labelled.foldl (removeUnexpected itemsById expectedByTag) s =
      removeAll (unexpectedIds itemsById expectedByTag) (·.2.id) labelled s := by
  rw [removeAll]
  congr 1
  funext s e
  rw [removeUnexpected, unexpectedIds]
  split_ifs <;> rfl

end TagSync

/-! ## What the passes look up -/

theorem mem_managedStaleTags {expectedByTag : Dict String (List Nat)} {c : TagCatalog lower}
    {tag : ArrTag} : tag ∈ managedStaleTags expectedByTag c ↔
      tag ∈ c.tags ∧ isManagedLabel (lower tag.label) ∧ lower tag.label ∉ expectedByTag.keys := by
  rw [managedStaleTags, List.mem_filter, decide_eq_true_iff]

theorem mem_staleIds {server : ArrServer lower} {stale : ArrTag} {i : Nat} :
    i ∈ TagSync.staleIds server.items stale ↔ server.Carries i stale.id := by
  simp only [TagSync.staleIds, List.mem_map, List.mem_filter, decide_eq_true_iff,
    ArrServer.Carries, Dict.get?_eq_some_iff, Prod.exists]
  constructor
  · rintro ⟨i, tags, ⟨hmem, ht⟩, rfl⟩
    exact ⟨tags, hmem, ht⟩
  · rintro ⟨tags, hmem, ht⟩
    exact ⟨i, tags, ⟨hmem, ht⟩, rfl⟩

theorem mem_unexpectedIds {server : ArrServer lower} {expectedByTag : Dict String (List Nat)}
    {label : String} {tag : ArrTag} {i : Nat} :
    i ∈ TagSync.unexpectedIds server.items expectedByTag (label, tag) ↔
      PythonText.startsWith label "rec-" ∧ ∃ ids, expectedByTag.get? label = some ids ∧ i ∉ ids ∧
        server.Carries i tag.id := by
  rw [TagSync.unexpectedIds]
  cases hget : expectedByTag.get? label with
  | none =>
    rw [if_pos (by simp [Dict.get?_eq_none_iff.mp hget])]
    simp
  | some ids =>
    have hkey : label ∈ expectedByTag.keys := Dict.mem_keys_iff.mpr ⟨ids, hget⟩
    cases PythonText.startsWith label "rec-" with
    | false => simp
    | true =>
      rw [if_neg (by simp [hkey])]
      simp only [List.mem_map, List.mem_filter, Bool.decide_and, Bool.and_eq_true,
        decide_eq_true_iff, ArrServer.Carries, Dict.get?_eq_some_iff, Prod.exists,
        Option.getD_some, Option.some.injEq, exists_eq_left', true_and]
      constructor
      · rintro ⟨i, tags, ⟨hmem, hi, ht⟩, rfl⟩
        exact ⟨hi, tags, hmem, ht⟩
      · rintro ⟨hi, tags, hmem, ht⟩
        exact ⟨i, tags, ⟨hmem, hi, ht⟩, rfl⟩

/-- The dictionary finds exactly the tags of the catalog, by their labels in lower case. -/
def Indexes (tagByLabel : Dict String ArrTag) (c : TagCatalog lower) : Prop :=
  ∀ label tag, tagByLabel.get? label = some tag ↔ tag ∈ c.tags ∧ lower tag.label = label

theorem indexes_build (c : TagCatalog lower) :
    Indexes (Dict.build (fun tag => some (lower tag.label)) id c.tags) c := by
  intro label tag
  constructor
  · intro h
    obtain ⟨found, hmem, hlabel, rfl⟩ := Dict.of_get?_build h
    exact ⟨hmem, Option.some.inj hlabel⟩
  · rintro ⟨hmem, rfl⟩
    exact Dict.get?_build_of_mem (by simpa using c.nodup_labels) hmem rfl

/-- A tag with a label in lower case joins the dictionary when it joins the catalog. -/
theorem Indexes.set {tagByLabel : Dict String ArrTag} {c c' : TagCatalog lower} {label : String}
    {tag : ArrTag} (h : Indexes tagByLabel c) (hlabel : lower tag.label = label)
    (hc' : ∀ t, t ∈ c'.tags ↔ t ∈ c.tags ∨ t = tag) : Indexes (tagByLabel.set label tag) c' := by
  intro label' tag'
  rw [Dict.get?_set]
  split_ifs with heq
  · subst heq
    constructor
    · intro hsome
      obtain rfl := Option.some.inj hsome
      exact ⟨(hc' tag).mpr (.inr rfl), hlabel⟩
    · rintro ⟨hmem, hlabel'⟩
      rw [c'.eq_of_label hmem ((hc' tag).mpr (.inr rfl)) (hlabel'.trans hlabel.symm)]
  · rw [h label' tag', hc' tag']
    constructor
    · exact fun hmem => ⟨.inl hmem.1, hmem.2⟩
    · rintro ⟨hmem | rfl, hlabel'⟩
      · exact ⟨hmem, hlabel'⟩
      · exact absurd (hlabel'.symm.trans hlabel) heq

/-! ## The first pass -/

namespace TagSync

variable {creation : TagCreation lower} {expectedByTag : Dict String (List Nat)}
  {server : ArrServer lower}

/-- The state after some of the expected labels: every item has what it had and the tags of these
labels that it should have. -/
structure Tagged (server : ArrServer lower) (done : List (String × List Nat))
    (s : TagSync lower) : Prop where
  indexes : Indexes s.tagByLabel s.server.catalog
  keys : s.server.items.keys = server.items.keys
  mem_tags : ∀ tag ∈ server.catalog.tags, tag ∈ s.server.catalog.tags
  of_mem_tags : ∀ tag ∈ s.server.catalog.tags,
    tag ∈ server.catalog.tags ∨ lower tag.label ∈ done.map Prod.fst
  found : ∀ e ∈ done, ∃ tag, s.tagByLabel.get? e.1 = some tag
  carries : ∀ i t, s.server.Carries i t ↔ server.Carries i t ∨
    ∃ e ∈ done, ∃ tag, s.tagByLabel.get? e.1 = some tag ∧ t = tag.id ∧ i ∈ e.2 ∧
      i ∈ server.items.keys

theorem findTag_spec (creation : TagCreation lower) {s : TagSync lower} {label : String}
    (hindex : Indexes s.tagByLabel s.server.catalog) (hlower : lower label = label) :
    lower (findTag creation s label).1.label = label ∧
      ∀ t, t ∈ (findTag creation s label).2.tags ↔
        t ∈ s.server.catalog.tags ∨ t = (findTag creation s label).1 := by
  rw [findTag]
  cases hget : s.tagByLabel.get? label with
  | none =>
    obtain ⟨hlabel, hmem⟩ := s.server.catalog.getOrCreateTag_spec creation label
    exact ⟨hlabel.trans hlower, hmem⟩
  | some tag =>
    obtain ⟨hmem, hlabel⟩ := (hindex label tag).mp hget
    exact ⟨hlabel, fun t => ⟨.inl, fun h => h.elim id fun heq => heq ▸ hmem⟩⟩

section Step

variable {s : TagSync lower} {itemsById : Dict Nat (List Nat)} {e : String × List Nat}

theorem catalog_tagExpected : (tagExpected creation itemsById s e).server.catalog =
    (findTag creation s e.1).2 := by
  rw [tagExpected]
  dsimp only
  split_ifs <;> rfl

theorem keys_tagExpected : (tagExpected creation itemsById s e).server.items.keys =
    s.server.items.keys := by
  rw [tagExpected]
  dsimp only
  split_ifs
  · rfl
  · exact ArrServer.keys_addTag

/-- The items that get the tag are the expected ones that did not have it at the start. -/
theorem carries_tagExpected {i u : Nat} : (tagExpected creation itemsById s e).server.Carries i u ↔
    s.server.Carries i u ∨ u = (findTag creation s e.1).1.id ∧
      (i ∈ e.2 ∧ ∃ tags, itemsById.get? i = some tags ∧ (findTag creation s e.1).1.id ∉ tags) ∧
        i ∈ s.server.items.keys := by
  have hadd : i ∈ (e.2.filter fun i => (itemsById.get? i).any fun tags =>
      (findTag creation s e.1).1.id ∉ tags) ↔
        i ∈ e.2 ∧ ∃ tags, itemsById.get? i = some tags ∧
          (findTag creation s e.1).1.id ∉ tags := by
    rw [List.mem_filter, Option.any_eq_true]
    simp only [decide_eq_true_iff]
  rw [tagExpected, ← hadd]
  dsimp only
  split_ifs with hnil
  · rw [hnil]
    simp [ArrServer.Carries]
  · exact ArrServer.carries_addTag

end Step

/-- One more label. -/
theorem Tagged.step {done : List (String × List Nat)} {s : TagSync lower}
    (h : Tagged server done s) {e : String × List Nat} (hlower : lower e.1 = e.1) :
    Tagged server (done ++ [e]) (tagExpected creation server.items s e) := by
  obtain ⟨hlabel, hmem⟩ := findTag_spec creation h.indexes hlower
  have htags : (tagExpected creation server.items s e).tagByLabel =
      s.tagByLabel.set e.1 (findTag creation s e.1).1 := rfl
  -- the tag of an earlier label stays
  have hearlier {label : String} {tag : ArrTag} (hget : s.tagByLabel.get? label = some tag) :
      (tagExpected creation server.items s e).tagByLabel.get? label = some tag := by
    rw [htags, Dict.get?_set]
    split_ifs with heq
    · subst heq
      rw [findTag, hget]
    · exact hget
  have hnow : (tagExpected creation server.items s e).tagByLabel.get? e.1 =
      some (findTag creation s e.1).1 := by
    rw [htags, Dict.get?_set, if_pos rfl]
  refine ⟨?_, keys_tagExpected.trans h.keys, ?_, ?_, ?_, fun i t => ?_⟩
  · rw [htags, catalog_tagExpected]
    exact h.indexes.set hlabel hmem
  · intro tag htag
    rw [catalog_tagExpected, hmem]
    exact .inl (h.mem_tags tag htag)
  · intro tag htag
    rw [catalog_tagExpected, hmem] at htag
    rw [List.map_append, List.mem_append]
    rcases htag with htag | rfl
    · exact (h.of_mem_tags tag htag).imp_right .inl
    · exact .inr (.inr (by rw [hlabel]; exact List.mem_singleton_self e.1))
  · intro e' he'
    rcases List.mem_append.mp he' with he' | he'
    · obtain ⟨tag, hget⟩ := h.found e' he'
      exact ⟨tag, hearlier hget⟩
    · obtain rfl := List.mem_singleton.mp he'
      exact ⟨_, hnow⟩
  · rw [carries_tagExpected, h.carries, h.keys]
    constructor
    · rintro ((hstart | ⟨e', he', tag, hget, ht⟩) | ⟨ht, hi, hkey⟩)
      · exact .inl hstart
      · exact .inr ⟨e', List.mem_append_left _ he', tag, hearlier hget, ht⟩
      · exact .inr ⟨e, List.mem_append_right _ (List.mem_singleton_self e), _, hnow, ht, hi.1, hkey⟩
    · rintro (hstart | ⟨e', he', tag, hget, rfl, hi, hkey⟩)
      · exact .inl (.inl hstart)
      · rcases List.mem_append.mp he' with he' | he'
        · obtain ⟨tag', hget'⟩ := h.found e' he'
          obtain rfl := Option.some.inj ((hearlier hget').symm.trans hget)
          exact .inl (.inr ⟨e', he', tag', hget', rfl, hi, hkey⟩)
        · obtain rfl := List.mem_singleton.mp he'
          obtain rfl := Option.some.inj (hnow.symm.trans hget)
          by_cases hstart : server.Carries i (findTag creation s e'.1).1.id
          · exact .inl (.inl hstart)
          · obtain ⟨tags, htags'⟩ := Dict.mem_keys_iff.mp hkey
            exact .inr ⟨rfl, ⟨hi, tags, htags', fun ht => hstart ⟨tags, htags', ht⟩⟩, hkey⟩

/-- The first pass over all labels. -/
theorem tagged_foldl (creation : TagCreation lower) (server : ArrServer lower)
    {done : List (String × List Nat)} (hlower : ∀ e ∈ done, lower e.1 = e.1) :
    Tagged server done (done.foldl (tagExpected creation server.items)
      { server := server
        tagByLabel := Dict.build (fun tag => some (lower tag.label)) id server.catalog.tags }) := by
  induction done using List.reverseRecOn with
  | nil =>
    exact ⟨indexes_build _, rfl, fun _ h => h, fun _ h => .inl h, by simp, by simp⟩
  | append_singleton done e ih =>
    rw [List.foldl_concat]
    exact (ih fun e' he' => hlower e' (List.mem_append_left _ he')).step
      (hlower e (List.mem_append_right _ (List.mem_singleton_self e)))

end TagSync

/-! ## The target -/

/-- The state before the second pass. -/
def taggedState (creation : TagCreation lower) (expectedByTag : Dict String (List Nat))
    (server : ArrServer lower) : TagSync lower :=
  expectedByTag.entries.foldl (TagSync.tagExpected creation server.items)
    { server := server
      tagByLabel := Dict.build (fun tag => some (lower tag.label)) id server.catalog.tags }

theorem syncExpectedArrTags_eq (creation : TagCreation lower)
    (expectedByTag : Dict String (List Nat)) (server : ArrServer lower) :
    syncExpectedArrTags creation server.items expectedByTag server =
      TagSync.removeAll (TagSync.unexpectedIds server.items expectedByTag) (·.2.id)
        (taggedState creation expectedByTag server).tagByLabel.entries
        (TagSync.removeAll (TagSync.staleIds server.items) ArrTag.id
          (managedStaleTags expectedByTag server.catalog)
          (taggedState creation expectedByTag server)) := by
  rw [syncExpectedArrTags, TagSync.foldl_removeUnexpected, TagSync.foldl_removeStale]
  rfl

/-- The instance afterwards. -/
def afterSync (creation : TagCreation lower) (expectedByTag : Dict String (List Nat))
    (server : ArrServer lower) : ArrServer lower :=
  (syncExpectedArrTags creation server.items expectedByTag server).server

/-- What the synchronisation of an instance should reach, with labels compared in lower case. -/
structure ReachesTarget (creation : TagCreation lower) (expectedByTag : Dict String (List Nat))
    (server : ArrServer lower) : Prop where
  keys : (afterSync creation expectedByTag server).items.keys = server.items.keys
  expected : ∀ label ids, expectedByTag.get? label = some ids →
    ∃ tag ∈ (afterSync creation expectedByTag server).catalog.tags, lower tag.label = lower label ∧
      ∀ i, (afterSync creation expectedByTag server).Carries i tag.id ↔
        i ∈ ids ∧ i ∈ server.items.keys
  others : ∀ tag ∈ (afterSync creation expectedByTag server).catalog.tags,
    isManagedLabel (lower tag.label) →
    (∀ label ∈ expectedByTag.keys, lower tag.label ≠ lower label) →
    ∀ i, ¬(afterSync creation expectedByTag server).Carries i tag.id
  unchanged : ∀ t, (∀ tag ∈ (afterSync creation expectedByTag server).catalog.tags, tag.id = t →
      ¬isManagedLabel (lower tag.label) ∧
        ∀ label ∈ expectedByTag.keys, lower tag.label ≠ lower label) →
    ∀ i, (afterSync creation expectedByTag server).Carries i t ↔ server.Carries i t
  again : (syncExpectedArrTags creation (afterSync creation expectedByTag server).items
      expectedByTag (afterSync creation expectedByTag server)).counts = (0, 0)

section Target

variable {creation : TagCreation lower} {expectedByTag : Dict String (List Nat)}
  {server : ArrServer lower}

theorem afterSync_spec : (afterSync creation expectedByTag server).catalog =
      (taggedState creation expectedByTag server).server.catalog ∧
    (afterSync creation expectedByTag server).items.keys =
      (taggedState creation expectedByTag server).server.items.keys ∧
    ∀ i t, (afterSync creation expectedByTag server).Carries i t ↔
      ((taggedState creation expectedByTag server).server.Carries i t ∧
        ∀ stale ∈ managedStaleTags expectedByTag server.catalog,
          ¬(t = stale.id ∧ server.Carries i stale.id)) ∧
        ∀ e ∈ (taggedState creation expectedByTag server).tagByLabel.entries,
          ¬(t = e.2.id ∧ i ∈ TagSync.unexpectedIds server.items expectedByTag e) := by
  rw [afterSync, syncExpectedArrTags_eq]
  obtain ⟨hcarries, hcatalog, hkeys⟩ := TagSync.removeAll_spec
    (TagSync.unexpectedIds server.items expectedByTag) (·.2.id)
    (taggedState creation expectedByTag server).tagByLabel.entries
    (TagSync.removeAll (TagSync.staleIds server.items) ArrTag.id
      (managedStaleTags expectedByTag server.catalog)
      (taggedState creation expectedByTag server))
  obtain ⟨hcarries', hcatalog', hkeys'⟩ := TagSync.removeAll_spec
    (TagSync.staleIds server.items) ArrTag.id (managedStaleTags expectedByTag server.catalog)
    (taggedState creation expectedByTag server)
  refine ⟨hcatalog.trans hcatalog', hkeys.trans hkeys', fun i t => ?_⟩
  rw [hcarries, hcarries']
  simp only [mem_staleIds]

variable (hlower : ∀ label ∈ expectedByTag.keys, lower label = label)

include hlower

theorem tagged_taggedState (creation : TagCreation lower) (server : ArrServer lower) :
    TagSync.Tagged server expectedByTag.entries (taggedState creation expectedByTag server) :=
  TagSync.tagged_foldl creation server fun e he =>
    hlower e.1 (List.mem_map.mpr ⟨e, he, rfl⟩)

/-- The tags of the expected labels, by their ids in the catalog afterwards. -/
theorem tag_eq_of_found {label : String} {tag tag' : ArrTag}
    (htag : tag ∈ (afterSync creation expectedByTag server).catalog.tags)
    (hget : (taggedState creation expectedByTag server).tagByLabel.get? label = some tag')
    (hid : tag.id = tag'.id) : tag' = tag ∧ lower tag.label = label := by
  have htagged := tagged_taggedState hlower creation server
  rw [afterSync_spec.1] at htag
  obtain ⟨hmem, hlabel⟩ := (htagged.indexes label tag').mp hget
  obtain rfl := TagCatalog.eq_of_id htag hmem hid
  exact ⟨rfl, hlabel⟩

/-- An expected label's tag is on exactly the expected items. -/
theorem carries_of_expected
    (hrec : ∀ label ∈ expectedByTag.keys, PythonText.startsWith label "rec-") {tag : ArrTag} {ids : List Nat}
    (htag : tag ∈ (afterSync creation expectedByTag server).catalog.tags)
    (hids : expectedByTag.get? (lower tag.label) = some ids) (i : Nat) :
    (afterSync creation expectedByTag server).Carries i tag.id ↔
      i ∈ ids ∧ i ∈ server.items.keys := by
  have htagged := tagged_taggedState hlower creation server
  have hindex := (htagged.indexes (lower tag.label) tag).mpr ⟨afterSync_spec.1 ▸ htag, rfl⟩
  have hkey : lower tag.label ∈ expectedByTag.keys := Dict.mem_keys_iff.mpr ⟨ids, hids⟩
  rw [afterSync_spec.2.2, htagged.carries]
  constructor
  · rintro ⟨⟨hstart | ⟨e, he, tag', hget, hid, hi, hitem⟩, -⟩, hunexpected⟩
    · -- an item that had the tag keeps it in the third pass only when it is expected
      refine ⟨?_, ?_⟩
      · by_contra hi
        exact hunexpected _ (Dict.get?_eq_some_iff.mp hindex)
          ⟨rfl, mem_unexpectedIds.mpr ⟨hrec _ hkey, ids, hids, hi, hstart⟩⟩
      · obtain ⟨tags, hget, -⟩ := hstart
        exact Dict.mem_keys_iff.mpr ⟨tags, hget⟩
    · obtain ⟨-, hlabel⟩ := tag_eq_of_found hlower htag hget hid
      rw [hlabel, Dict.get?_eq_some_iff.mpr he] at hids
      obtain rfl := Option.some.inj hids
      exact ⟨hi, hitem⟩
  · rintro ⟨hi, hitem⟩
    refine ⟨⟨.inr ⟨(lower tag.label, ids), Dict.get?_eq_some_iff.mp hids, tag, hindex, rfl, hi,
      hitem⟩, ?_⟩, ?_⟩
    · rintro stale hstale ⟨hid, -⟩
      obtain ⟨hstart, -, hnotKey⟩ := mem_managedStaleTags.mp hstale
      have hmem := htagged.mem_tags stale hstart
      rw [← afterSync_spec.1] at hmem
      obtain rfl := TagCatalog.eq_of_id htag hmem hid
      exact hnotKey hkey
    · rintro ⟨label, tag'⟩ he ⟨hid, hmem⟩
      obtain ⟨-, hlabel⟩ := tag_eq_of_found hlower htag (Dict.get?_eq_some_iff.mpr he) hid
      obtain ⟨-, ids', hids', hi', -⟩ := mem_unexpectedIds.mp hmem
      rw [← hlabel, hids] at hids'
      exact hi' (Option.some.inj hids' ▸ hi)

theorem not_carries_of_stale {tag : ArrTag}
    (htag : tag ∈ (afterSync creation expectedByTag server).catalog.tags)
    (hmanaged : isManagedLabel (lower tag.label)) (hkey : lower tag.label ∉ expectedByTag.keys)
    (i : Nat) : ¬(afterSync creation expectedByTag server).Carries i tag.id := by
  have htagged := tagged_taggedState hlower creation server
  have hstart : tag ∈ server.catalog.tags :=
    (htagged.of_mem_tags tag (afterSync_spec.1 ▸ htag)).resolve_right hkey
  have hstale := mem_managedStaleTags.mpr ⟨hstart, hmanaged, hkey⟩
  rw [afterSync_spec.2.2, htagged.carries]
  rintro ⟨⟨hcarried | ⟨e, he, tag', hget, hid, -⟩, hnone⟩, -⟩
  · exact hnone tag hstale ⟨rfl, hcarried⟩
  · obtain ⟨-, hlabel⟩ := tag_eq_of_found hlower htag hget hid
    exact hkey (hlabel ▸ List.mem_map.mpr ⟨e, he, rfl⟩)

/-- The tags that are neither managed nor expected stay where they are. -/
theorem carries_of_other {t : Nat}
    (ht : ∀ tag ∈ (afterSync creation expectedByTag server).catalog.tags, tag.id = t →
      ¬isManagedLabel (lower tag.label) ∧ lower tag.label ∉ expectedByTag.keys) (i : Nat) :
    (afterSync creation expectedByTag server).Carries i t ↔ server.Carries i t := by
  have htagged := tagged_taggedState hlower creation server
  have hfound {label : String} {tag : ArrTag}
      (hget : (taggedState creation expectedByTag server).tagByLabel.get? label = some tag)
      (hid : t = tag.id) : label ∉ expectedByTag.keys := by
    obtain ⟨hmem, hlabel⟩ := (htagged.indexes label tag).mp hget
    rw [← hlabel]
    exact (ht tag (afterSync_spec.1 ▸ hmem) hid.symm).2
  rw [afterSync_spec.2.2, htagged.carries]
  constructor
  · rintro ⟨⟨hstart | ⟨e, he, tag, hget, hid, -⟩, -⟩, -⟩
    · exact hstart
    · exact absurd (List.mem_map.mpr ⟨e, he, rfl⟩) (hfound hget hid)
  · intro hstart
    refine ⟨⟨.inl hstart, ?_⟩, ?_⟩
    · rintro stale hstale ⟨hid, -⟩
      obtain ⟨hmem, hmanaged, -⟩ := mem_managedStaleTags.mp hstale
      have hafter := htagged.mem_tags stale hmem
      exact (ht stale (afterSync_spec.1 ▸ hafter) hid.symm).1 hmanaged
    · rintro ⟨label, tag⟩ he ⟨hid, hmem⟩
      obtain ⟨-, ids, hids, -⟩ := mem_unexpectedIds.mp hmem
      exact hfound (Dict.get?_eq_some_iff.mpr he) hid (Dict.mem_keys_iff.mpr ⟨ids, hids⟩)

/-- The tag of an expected label is in the catalog afterwards. -/
theorem exists_tag_of_expected (creation : TagCreation lower) (server : ArrServer lower)
    {label : String} (hkey : label ∈ expectedByTag.keys) :
    ∃ tag ∈ (afterSync creation expectedByTag server).catalog.tags, lower tag.label = label := by
  have htagged := tagged_taggedState hlower creation server
  obtain ⟨e, he, rfl⟩ := List.mem_map.mp hkey
  obtain ⟨tag, hget⟩ := htagged.found e he
  obtain ⟨hmem, hlabel⟩ := (htagged.indexes e.1 tag).mp hget
  exact ⟨tag, afterSync_spec.1 ▸ hmem, hlabel⟩

end Target

/-! ## The second run -/

/-- Nothing is left to do: the expected labels have their tags, which are on the expected items
only, and no stale tag is on an item. -/
structure AtTarget (expectedByTag : Dict String (List Nat)) (server : ArrServer lower) : Prop where
  expected : ∀ label ids, expectedByTag.get? label = some ids →
    ∃ tag ∈ server.catalog.tags, lower tag.label = label ∧
      ∀ i, server.Carries i tag.id ↔ i ∈ ids ∧ i ∈ server.items.keys
  stale : ∀ tag ∈ managedStaleTags expectedByTag server.catalog, ∀ i, ¬server.Carries i tag.id

namespace AtTarget

variable {expectedByTag : Dict String (List Nat)} {server : ArrServer lower}

/-- A label with its tags in place changes neither the instance nor the counts. -/
theorem tagExpected_eq (h : AtTarget expectedByTag server) (creation : TagCreation lower)
    {s : TagSync lower} {e : String × List Nat} (he : e ∈ expectedByTag.entries)
    (hindex : Indexes s.tagByLabel server.catalog) :
    ∃ tag, s.tagByLabel.get? e.1 = some tag ∧
      TagSync.tagExpected creation server.items s e =
        { s with tagByLabel := s.tagByLabel.set e.1 tag } := by
  obtain ⟨tag, htag, hlabel, hcarries⟩ := h.expected e.1 e.2 (Dict.get?_eq_some_iff.mpr he)
  have hget := (hindex e.1 tag).mpr ⟨htag, hlabel⟩
  have hfind : TagSync.findTag creation s e.1 = (tag, s.server.catalog) := by
    rw [TagSync.findTag, hget]
  have hadd : (e.2.filter fun i => (server.items.get? i).any fun tags => tag.id ∉ tags) = [] := by
    rw [List.filter_eq_nil_iff]
    intro i hi hmissing
    obtain ⟨tags, hitem, hnone⟩ := (Option.any_eq_true _ _).mp hmissing
    obtain ⟨tags', hitem', ht⟩ := (hcarries i).mpr ⟨hi, Dict.mem_keys_iff.mpr ⟨tags, hitem⟩⟩
    obtain rfl := Option.some.inj (hitem.symm.trans hitem')
    exact (decide_eq_true_iff.mp hnone) ht
  refine ⟨tag, hget, ?_⟩
  rw [TagSync.tagExpected, hfind]
  dsimp only
  rw [hadd, if_pos rfl]
  rfl

theorem foldl_tagExpected (h : AtTarget expectedByTag server) (creation : TagCreation lower)
    {done : List (String × List Nat)} (hdone : ∀ e ∈ done, e ∈ expectedByTag.entries)
    {s : TagSync lower}
    (hs : s = done.foldl (TagSync.tagExpected creation server.items)
      { server := server
        tagByLabel := Dict.build (fun tag => some (lower tag.label)) id server.catalog.tags }) :
    s.server = server ∧ Indexes s.tagByLabel server.catalog ∧ s.tagged = 0 ∧ s.untagged = 0 := by
  induction done using List.reverseRecOn generalizing s with
  | nil =>
    subst hs
    exact ⟨rfl, indexes_build _, rfl, rfl⟩
  | append_singleton done e ih =>
    rw [List.foldl_concat] at hs
    obtain ⟨hserver, hindex, htagged, huntagged⟩ :=
      ih (fun e' he' => hdone e' (List.mem_append_left _ he')) rfl
    obtain ⟨tag, hget, hstep⟩ := h.tagExpected_eq creation
      (hdone e (List.mem_append_right _ (List.mem_singleton_self e))) hindex
    rw [hstep] at hs
    subst hs
    obtain ⟨hmem, hlabel⟩ := (hindex e.1 tag).mp hget
    refine ⟨hserver, hindex.set hlabel fun t => ?_, htagged, huntagged⟩
    exact ⟨.inl, fun ht => ht.elim id fun heq => heq ▸ hmem⟩

/-- The next run changes nothing and counts nothing. -/
theorem sync_eq (h : AtTarget expectedByTag server) (creation : TagCreation lower) :
    (syncExpectedArrTags creation server.items expectedByTag server).server = server ∧
      (syncExpectedArrTags creation server.items expectedByTag server).tagged = 0 ∧
      (syncExpectedArrTags creation server.items expectedByTag server).untagged = 0 := by
  obtain ⟨hserver, hindex, htagged, huntagged⟩ :=
    h.foldl_tagExpected creation (fun _ he => he) rfl
  have hstale : ∀ tag ∈ managedStaleTags expectedByTag server.catalog,
      TagSync.staleIds server.items tag = [] := by
    intro tag htag
    rw [List.eq_nil_iff_forall_not_mem]
    exact fun i hi => h.stale tag htag i (mem_staleIds.mp hi)
  have hunexpected : ∀ e ∈ (taggedState creation expectedByTag server).tagByLabel.entries,
      TagSync.unexpectedIds server.items expectedByTag e = [] := by
    rintro ⟨label, tag⟩ he
    rw [List.eq_nil_iff_forall_not_mem]
    intro i hi
    obtain ⟨-, ids, hids, hnot, hcarried⟩ := mem_unexpectedIds.mp hi
    obtain ⟨tag', htag', hlabel', hcarries⟩ := h.expected label ids hids
    have hsame := (hindex label tag').mpr ⟨htag', hlabel'⟩
    obtain rfl := Option.some.inj ((Dict.get?_eq_some_iff.mpr he).symm.trans hsame)
    exact hnot ((hcarries i).mp hcarried).1
  rw [syncExpectedArrTags_eq, TagSync.removeAll_of_nil _ _ _ _ hunexpected,
    TagSync.removeAll_of_nil _ _ _ _ hstale]
  exact ⟨hserver, htagged, huntagged⟩

end AtTarget

/-- For expected labels in lower case that start with `rec-`, one run reaches the target and the
next one has nothing to do. -/
theorem syncExpectedArrTags_reachesTarget (creation : TagCreation lower)
    (expectedByTag : Dict String (List Nat)) (server : ArrServer lower)
    (hrec : ∀ label ∈ expectedByTag.keys, PythonText.startsWith label "rec-")
    (hlower : ∀ label ∈ expectedByTag.keys, lower label = label) :
    ReachesTarget creation expectedByTag server := by
  have hkeys : (afterSync creation expectedByTag server).items.keys = server.items.keys :=
    afterSync_spec.2.1.trans (tagged_taggedState hlower creation server).keys
  -- to have none of the expected labels in lower case is not to be a key
  have hnotKey {label : String}
      (h : ∀ label' ∈ expectedByTag.keys, label ≠ lower label') : label ∉ expectedByTag.keys :=
    fun hmem => h label hmem (hlower label hmem).symm
  have hexpected : ∀ label ids, expectedByTag.get? label = some ids →
      ∃ tag ∈ (afterSync creation expectedByTag server).catalog.tags, lower tag.label = label ∧
        ∀ i, (afterSync creation expectedByTag server).Carries i tag.id ↔
          i ∈ ids ∧ i ∈ server.items.keys := by
    intro label ids hids
    obtain ⟨tag, htag, rfl⟩ := exists_tag_of_expected hlower creation server
      (Dict.mem_keys_iff.mpr ⟨ids, hids⟩)
    exact ⟨tag, htag, rfl, carries_of_expected hlower hrec htag hids⟩
  have hstale : ∀ tag ∈ (afterSync creation expectedByTag server).catalog.tags,
      isManagedLabel (lower tag.label) → lower tag.label ∉ expectedByTag.keys →
        ∀ i, ¬(afterSync creation expectedByTag server).Carries i tag.id :=
    fun tag htag hmanaged hkey i => not_carries_of_stale hlower htag hmanaged hkey i
  have htarget : AtTarget expectedByTag (afterSync creation expectedByTag server) := by
    refine ⟨?_, fun tag htag i => ?_⟩
    · rw [hkeys]
      exact hexpected
    · obtain ⟨hmem, hmanaged, hkey⟩ := mem_managedStaleTags.mp htag
      exact hstale tag hmem hmanaged hkey i
  refine ⟨hkeys, ?_, ?_, ?_, ?_⟩
  · intro label ids hids
    rw [hlower label (Dict.mem_keys_iff.mpr ⟨ids, hids⟩)]
    exact hexpected label ids hids
  · intro tag htag hmanaged hother
    exact hstale tag htag hmanaged (hnotKey hother)
  · intro t ht
    exact carries_of_other hlower fun tag htag hid =>
      ⟨(ht tag htag hid).1, hnotKey (ht tag htag hid).2⟩
  · obtain ⟨-, htagged, huntagged⟩ := htarget.sync_eq creation
    rw [TagSync.counts, htagged, huntagged]

/-- An instance that counts its tags and keeps labels in lower case. -/
def plainCreation : TagCreation PythonText.asciiLower where
  newId := Write.nextId ArrTag.id
  storedLabel := PythonText.asciiLower
  newId_notMem tags h := by
    obtain ⟨tag, htag, heq⟩ := List.mem_map.mp h
    exact (Write.lt_nextId htag).ne heq
  lower_storedLabel := PythonText.asciiLower_asciiLower

/-- Three items with an expected, a stale and a foreign tag. -/
def plainServer : ArrServer PythonText.asciiLower where
  catalog := ⟨[⟨1, "rec-foo"⟩, ⟨2, "Rec-old"⟩, ⟨3, "4k"⟩], by decide, by decide⟩
  items := (((∅ : Dict Nat (List Nat)).set 10 [1, 3]).set 11 [1, 2]).set 12 []

theorem syncExpectedArrTags_reachesTarget_twoLabels :
    let expected := ((∅ : Dict String (List Nat)).set "rec-foo" [10, 12]).set "rec-new" [11, 99]
    (∀ label ∈ expected.keys, PythonText.startsWith label "rec-") ∧
      (∀ label ∈ expected.keys, PythonText.asciiLower label = label) ∧
      (syncExpectedArrTags plainCreation plainServer.items expected plainServer).counts = (2, 2) ∧
      ReachesTarget plainCreation expected plainServer :=
  ⟨by decide, by decide, by decide +kernel,
    syncExpectedArrTags_reachesTarget _ _ _ (by decide) (by decide)⟩

/-- For an expected label with a capital the existing tag counts as stale. -/
theorem not_reachesTarget_capital :
    let expected := (∅ : Dict String (List Nat)).set "rec-Foo" [10]
    (∀ label ∈ expected.keys, PythonText.startsWith label "rec-") ∧
      ¬ReachesTarget plainCreation expected plainServer := by
  refine ⟨by decide, fun h => ?_⟩
  obtain ⟨tag, htag, hlabel, hcarries⟩ := h.expected "rec-Foo" [10] (by decide)
  have hlost : ∀ tag ∈ (afterSync plainCreation ((∅ : Dict String (List Nat)).set "rec-Foo" [10])
      plainServer).catalog.tags, PythonText.asciiLower tag.label = PythonText.asciiLower "rec-Foo" →
        ¬(afterSync plainCreation ((∅ : Dict String (List Nat)).set "rec-Foo" [10])
          plainServer).Carries 10 tag.id := by decide +kernel
  exact hlost tag htag hlabel ((hcarries 10).mpr (by decide))

/-! ## The labels of the rules -/

/-- The entries of a rule's action that the tagging reads; `configId` is the configuration of the
instance's kind. -/
structure RuleTagAction where
  tagEnabled : Bool := true
  arrTag : Option String := none
  configId : Option Nat := none

/-- `_managed_tag_for_rule`. -/
def managedTagForRule (lower : String → String) (action : RuleTagAction) : Option String :=
  if !action.tagEnabled then none
  else
    let tag := lower (PythonText.strip (action.arrTag.getD ""))
    if tag = "" then none
    else some (if PythonText.startsWith tag "rec-" then tag else "rec-" ++ tag)

/-- A candidate with the Arr ref that its row joins. -/
structure TagCandidateRow where
  matchedRuleIds : List Nat
  refConfigId : Option Nat := none
  arrId : Option Nat := none
  tmdbId : Option Nat := none

section Rules

variable (lower : String → String) (rules : Dict Nat RuleTagAction) (config : Nat)

/-- The labels of a candidate's rules for one configuration. -/
def ruleLabels (row : TagCandidateRow) : List String :=
  row.matchedRuleIds.filterMap fun ruleId =>
    (rules.get? ruleId).bind fun action =>
      if action.configId = some config then managedTagForRule lower action else none

/-- The labels that `by_config` gets for a candidate, with the item of its ref. -/
def directPairs (row : TagCandidateRow) : List (String × Nat) :=
  match row.arrId with
  | some arrId =>
    if row.refConfigId = some config then (ruleLabels lower rules config row).map (·, arrId) else []
  | none => []

/-- The labels that `fallback_tmdb` gets for a candidate, with the item that has its TMDB id. -/
def fallbackPairs (tmdbToId : Dict Nat Nat) (row : TagCandidateRow) : List (String × Nat) :=
  if row.refConfigId = some config ∧ row.arrId.isSome then []
  else
    match (row.tmdbId.filter (· ≠ 0)).bind tmdbToId.get? with
    | some arrId => (ruleLabels lower rules config row).map (·, arrId)
    | none => []

/-- The `expected_by_tag` of one configuration in `_sync_rule_radarr_tags` and
`_sync_rule_sonarr_tags`. -/
def expectedByRules (tmdbToId : Dict Nat Nat) (rows : List TagCandidateRow) :
    Dict String (List Nat) :=
  (rows.flatMap (directPairs lower rules config) ++
    rows.flatMap (fallbackPairs lower rules config tmdbToId)).foldl (fun d e => d.addTo e.1 e.2) ∅

variable {lower rules config}

/-- What a rule's label looks like, when lowering twice changes nothing and lowering leaves the
prefix before a lowered text as it is. -/
theorem of_managedTagForRule (htwice : ∀ s, lower (lower s) = lower s)
    (hprefixed : ∀ s, lower ("rec-" ++ lower s) = "rec-" ++ lower s) {action : RuleTagAction}
    {label : String} (h : managedTagForRule lower action = some label) :
    PythonText.startsWith label "rec-" ∧ lower label = label := by
  rw [managedTagForRule] at h
  dsimp only at h
  split_ifs at h with _ _ hrec
  · obtain rfl := Option.some.inj h
    exact ⟨hrec, htwice _⟩
  · obtain rfl := Option.some.inj h
    refine ⟨?_, hprefixed _⟩
    rw [PythonText.startsWith, List.isPrefixOf_iff_prefix, String.toList_append]
    exact List.prefix_append _ _

theorem fst_mem_ruleLabels (tmdbToId : Dict Nat Nat) {row : TagCandidateRow} {e : String × Nat}
    (h : e ∈ directPairs lower rules config row ∨
      e ∈ fallbackPairs lower rules config tmdbToId row) :
    e.1 ∈ ruleLabels lower rules config row := by
  have hmap {arrId : Nat} (h : e ∈ (ruleLabels lower rules config row).map (·, arrId)) :
      e.1 ∈ ruleLabels lower rules config row := by
    obtain ⟨label, hlabel, rfl⟩ := List.mem_map.mp h
    exact hlabel
  rcases h with h | h
  · unfold directPairs at h
    split at h
    · split_ifs at h
      · exact hmap h
      · exact absurd h List.not_mem_nil
    · exact absurd h List.not_mem_nil
  · unfold fallbackPairs at h
    split_ifs at h
    · exact absurd h List.not_mem_nil
    · split at h
      · exact hmap h
      · exact absurd h List.not_mem_nil

/-- Every label that is expected is the label of a rule. -/
theorem exists_rule_of_mem_expectedByRules {tmdbToId : Dict Nat Nat} {rows : List TagCandidateRow}
    {label : String} (h : label ∈ (expectedByRules lower rules config tmdbToId rows).keys) :
    ∃ action, managedTagForRule lower action = some label := by
  rw [expectedByRules, Dict.mem_keys_foldl_addTo] at h
  obtain ⟨e, hpair, rfl⟩ := List.mem_map.mp (h.resolve_right List.not_mem_nil)
  have hlabel : ∃ row, e.1 ∈ ruleLabels lower rules config row := by
    rcases List.mem_append.mp hpair with hpair | hpair
    · obtain ⟨row, -, hrow⟩ := List.mem_flatMap.mp hpair
      exact ⟨row, fst_mem_ruleLabels tmdbToId (.inl hrow)⟩
    · obtain ⟨row, -, hrow⟩ := List.mem_flatMap.mp hpair
      exact ⟨row, fst_mem_ruleLabels tmdbToId (.inr hrow)⟩
  obtain ⟨row, hrow⟩ := hlabel
  obtain ⟨ruleId, -, hsome⟩ := List.mem_filterMap.mp hrow
  obtain ⟨action, -, haction⟩ := Option.bind_eq_some_iff.mp hsome
  split_ifs at haction
  exact ⟨action, haction⟩

/-- The labels that the rules give start with the prefix and are in lower case. -/
theorem labels_expectedByRules (htwice : ∀ s, lower (lower s) = lower s)
    (hprefixed : ∀ s, lower ("rec-" ++ lower s) = "rec-" ++ lower s) (tmdbToId : Dict Nat Nat)
    (rows : List TagCandidateRow) :
    ∀ label ∈ (expectedByRules lower rules config tmdbToId rows).keys,
      PythonText.startsWith label "rec-" ∧ lower label = label := by
  intro label hmem
  obtain ⟨action, haction⟩ := exists_rule_of_mem_expectedByRules hmem
  exact of_managedTagForRule htwice hprefixed haction

end Rules

end MediaMasterr.Candidates
