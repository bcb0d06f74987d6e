import Mathlib.Data.List.Pairwise
import MediaMasterr.Foundations.LongestMatch
import MediaMasterr.Migration.Plan

/-! # The root mappings of a migration

`_apply_root_mappings` replaces the longest source root whose components begin those
of the path, and the reversed mappings take the result back. A root that consists of
slashes is empty when it is normalised, and so is one that is blank; the code skips
both, and nothing is said here about mappings from `/`. -/

namespace MediaMasterr.Migration

open MediaMasterr.Foundations MediaMasterr.Filesystem

namespace MigrationRootMapping

variable (m : MigrationRootMapping) (path : String)

def normalizedSource : String := normalizeFpath m.sourceRoot true

def normalizedDestination : String := normalizeFpath m.destinationRoot true

def reversed : MigrationRootMapping := ⟨m.destinationRoot, m.sourceRoot⟩

/-- The mapping names a source root: it is a row that has been filled in. -/
def IsNamed : Prop := PythonText.strip m.sourceRoot ≠ ""

instance : Decidable m.IsNamed := inferInstanceAs (Decidable (_ ≠ _))

/-- The components of the source root begin those of the normalised path; those of `/` begin the
ones of every absolute path. -/
def IsAbove : Prop := m.IsNamed ∧ IsRootOf '/' m.normalizedSource.toList path.toList

instance : Decidable (m.IsAbove path) := inferInstanceAs (Decidable (_ ∧ _))

/-- The destination root followed by the remaining components. -/
def translated : String :=
  String.ofList (['/'].intercalate (m.normalizedDestination.toList.splitOn '/' ++
    (path.toList.splitOn '/').drop (m.normalizedSource.toList.splitOn '/').length))

end MigrationRootMapping

open MigrationRootMapping

/-- The path is translated by its longest source root, and in every order of the mappings. -/
structure TranslatesRoots (path : String) (mappings : List MigrationRootMapping) : Prop where
  longest : ∀ m ∈ mappings, m.IsAbove (normalizeFpath path true) →
    (∀ m' ∈ mappings, m'.IsAbove (normalizeFpath path true) →
      m'.normalizedSource.length ≤ m.normalizedSource.length) →
    applyRootMappings (some path) mappings = some (m.translated (normalizeFpath path true))
  unchanged : (∀ m ∈ mappings, ¬m.IsAbove (normalizeFpath path true)) →
    applyRootMappings (some path) mappings = some (normalizeFpath path true)
  anyOrder : ∀ mappings', mappings'.Perm mappings →
    applyRootMappings (some path) mappings' = applyRootMappings (some path) mappings

/-- Neither root lies in the other one. -/
def Apart (a b : String) : Prop := ¬IsRootOf '/' a.toList b.toList ∧ ¬IsRootOf '/' b.toList a.toList

instance : DecidableRel Apart := fun _ _ => inferInstanceAs (Decidable (_ ∧ _))

/-- No root lies in another one. -/
def NonOverlapping (roots : List String) : Prop := roots.Pairwise Apart

instance (roots : List String) : Decidable (NonOverlapping roots) :=
  inferInstanceAs (Decidable (roots.Pairwise _))

/-- The source roots and the destination roots do not overlap; so no two mappings share a root. -/
structure IsOneToOne (mappings : List MigrationRootMapping) : Prop where
  sources : NonOverlapping (mappings.map normalizedSource)
  destinations : NonOverlapping (mappings.map normalizedDestination)

/-- The reversed mappings take the translated path back. -/
def GivesBack (path : String) (mappings : List MigrationRootMapping) : Prop :=
  ∀ result, applyRootMappings (some path) mappings = some result →
    applyRootMappings (some result) (mappings.map reversed) = some (normalizeFpath path true)

/-- What root mappings with different source roots are for. -/
def MapsRoots (path : String) (mappings : List MigrationRootMapping) : Prop :=
  (mappings.map normalizedSource).Nodup →
    TranslatesRoots path mappings ∧ (IsOneToOne mappings → GivesBack path mappings)

/-! ## One mapping -/

section

variable {m : MigrationRootMapping} {path : String}

theorem rstrip_normalizeFpath (s : String) :
    PythonText.rstrip '/' (normalizeFpath s true) = normalizeFpath s true :=
  PythonText.rstrip_rstrip '/' _

theorem rstrip_normalizedSource :
    PythonText.rstrip '/' m.normalizedSource = m.normalizedSource :=
  rstrip_normalizeFpath m.sourceRoot

theorem rstrip_normalizedDestination :
    PythonText.rstrip '/' m.normalizedDestination = m.normalizedDestination :=
  rstrip_normalizeFpath m.destinationRoot

theorem normalizedSource_of_not_named (h : ¬m.IsNamed) : m.normalizedSource = "" := by
  rw [normalizedSource, normalizeFpath, not_not.mp h]
  decide

theorem translated_self : m.translated m.normalizedSource = m.normalizedDestination := by
  rw [translated, List.drop_length, List.append_nil, List.intercalate_splitOn, String.ofList_toList]

theorem translated_of_rest {rest : List Char} (h : path.toList = m.normalizedSource.toList ++ '/' :: rest) :
    m.translated path = m.normalizedDestination ++ "/" ++ String.ofList rest := by
  rw [translated, h, intercalate_drop_root, ← String.toList_inj]
  simp

/-- A mapping with a source root other than `/` replaces that root. -/
theorem applyRootMapping_eq (hpath : PythonText.rstrip '/' path = path)
    (hroot : m.IsNamed → m.normalizedSource ≠ "") :
    applyRootMapping path m = if m.IsAbove path then some (m.translated path) else none := by
  have hsource : normalizeFpath m.sourceRoot true = m.normalizedSource := rfl
  have hdestination : normalizeFpath m.destinationRoot true = m.normalizedDestination := rfl
  have hseparator : (m.normalizedSource ++ "/").toList = m.normalizedSource.toList ++ ['/'] := by simp
  simp only [applyRootMapping, hsource, hdestination, rstrip_normalizedSource,
    rstrip_normalizedDestination, PythonText.startsWith, hseparator, List.isPrefixOf_iff_prefix]
  by_cases hnamed : m.IsNamed
  · have habove : m.IsAbove path ↔ path = m.normalizedSource ∨
        m.normalizedSource.toList ++ ['/'] <+: path.toList := by
      rw [IsAbove, and_iff_right hnamed, isRootOf_iff, String.toList_inj]
    rw [if_neg (hroot hnamed)]
    by_cases hself : path = m.normalizedSource
    · rw [if_pos hself, if_pos (habove.mpr (.inl hself)), hself, translated_self]
    · rw [if_neg hself]
      by_cases hbelow : m.normalizedSource.toList ++ ['/'] <+: path.toList
      · rw [if_pos hbelow, if_pos (habove.mpr (.inr hbelow))]
        obtain ⟨rest, hrest⟩ := hbelow
        have hlast : rest ≠ [] := fun hnil => PythonText.getLast?_rstrip '/' path (by rw [hpath, ← hrest, hnil]; simp)
        have hdrop : path.toList.drop (m.normalizedSource.toList ++ ['/']).length = rest := by
          rw [← hrest, List.drop_left]
        rw [hdrop, if_pos (by simpa using hlast), translated_of_rest (by simpa using hrest.symm)]
      · rw [if_neg hbelow, if_neg (mt habove.mp (not_or.mpr ⟨hself, hbelow⟩))]
  · rw [if_pos (normalizedSource_of_not_named hnamed), if_neg fun h => hnamed h.1]

theorem isAbove_iff_of_named (hnamed : m.IsNamed) : m.IsAbove path ↔ path = m.normalizedSource ∨
    ∃ rest, path.toList = m.normalizedSource.toList ++ '/' :: rest := by
  rw [IsAbove, and_iff_right hnamed, isRootOf_iff, String.toList_inj]
  refine or_congr_right ⟨fun ⟨rest, hrest⟩ => ⟨rest, ?_⟩, fun ⟨rest, hrest⟩ => ⟨rest, ?_⟩⟩
  · simpa using hrest.symm
  · simpa using hrest.symm

/-- A mapping takes what it has translated back, when its destination root is not empty. -/
theorem isAbove_translated (h : m.IsAbove path) (hdestination : m.normalizedDestination ≠ "") :
    m.reversed.IsAbove (m.translated path) ∧ m.reversed.translated (m.translated path) = path := by
  have hnamed : m.reversed.IsNamed := by
    by_contra hblank
    have hempty : m.reversed.normalizedSource = "" := normalizedSource_of_not_named hblank
    exact hdestination hempty
  rcases (isAbove_iff_of_named h.1).mp h with rfl | ⟨rest, hrest⟩
  · rw [translated_self]
    exact ⟨(isAbove_iff_of_named hnamed).mpr (.inl rfl), translated_self⟩
  · have hresult : (m.translated path).toList = m.reversed.normalizedSource.toList ++ '/' :: rest := by
      rw [translated_of_rest hrest]
      simp [normalizedSource, normalizedDestination, reversed]
    refine ⟨(isAbove_iff_of_named hnamed).mpr (.inr ⟨rest, hresult⟩), ?_⟩
    rw [translated_of_rest hresult, ← String.toList_inj, hrest]
    simp [normalizedSource, normalizedDestination, reversed]

/-! ## All mappings -/

variable {mappings : List MigrationRootMapping}

theorem longerRoot_iff (a b : MigrationRootMapping) :
    longerRoot a b = true ↔ b.normalizedSource.length ≤ a.normalizedSource.length :=
  decide_eq_true_iff

/-- What the mappings give: the translation by a longest root above the path, or the path. -/
theorem applyRootMappings_cases (hpath : path ≠ "")
    (hroots : ∀ m ∈ mappings, m.IsNamed → m.normalizedSource ≠ "") :
    (∃ m ∈ mappings, m.IsAbove (normalizeFpath path true) ∧
      (∀ m' ∈ mappings, m'.IsAbove (normalizeFpath path true) →
        m'.normalizedSource.length ≤ m.normalizedSource.length) ∧
      applyRootMappings (some path) mappings = some (m.translated (normalizeFpath path true))) ∨
    (∀ m ∈ mappings, ¬m.IsAbove (normalizeFpath path true)) ∧
      applyRootMappings (some path) mappings = some (normalizeFpath path true) := by
  have hone (m : MigrationRootMapping) (hm : m ∈ mappings) :=
    applyRootMapping_eq (rstrip_normalizeFpath path) (hroots m hm)
  have hall : applyRootMappings (some path) mappings =
      some (((mappings.mergeSort longerRoot).findSome?
        (applyRootMapping (normalizeFpath path true))).getD (normalizeFpath path true)) := if_neg hpath
  cases hfound : (mappings.mergeSort longerRoot).findSome? (applyRootMapping (normalizeFpath path true)) with
  | none =>
    refine .inr ⟨fun m hm habove => ?_, by rw [hall, hfound, Option.getD_none]⟩
    have hnone := findSome?_mergeSort_eq_none_iff.mp hfound m hm
    rw [hone m hm, if_pos habove] at hnone
    cases hnone
  | some result =>
    obtain ⟨m, hm, hresult, hlongest⟩ := exists_of_findSome?_mergeSort longerRoot_iff hfound
    rw [hone m hm, Option.ite_none_right_eq_some] at hresult
    obtain ⟨habove, htranslated⟩ := hresult
    refine .inl ⟨m, hm, habove, fun m' hm' habove' => ?_, ?_⟩
    · refine hlongest m' hm' ?_
      rw [hone m' hm', if_pos habove']
      rfl
    · rw [hall, hfound, Option.getD_some, Option.some.inj htranslated]

/-- With different source roots the longest one above a path is the only one. -/
theorem eq_of_longest (hdistinct : (mappings.map normalizedSource).Nodup)
    {m m' : MigrationRootMapping} (hm : m ∈ mappings) (hm' : m' ∈ mappings) (habove : m.IsAbove path)
    (habove' : m'.IsAbove path) (hlength : m.normalizedSource.length = m'.normalizedSource.length) :
    m = m' :=
  List.inj_on_of_nodup_map hdistinct hm hm'
    (String.toList_inj.mp (habove.2.eq_of_length_eq habove'.2 hlength))

theorem translatesRoots (hpath : path ≠ "") (hdistinct : (mappings.map normalizedSource).Nodup)
    (hroots : ∀ m ∈ mappings, m.IsNamed → m.normalizedSource ≠ "") : TranslatesRoots path mappings := by
  have hlongest {mappings : List MigrationRootMapping} (hdistinct : (mappings.map normalizedSource).Nodup)
      (hroots : ∀ m ∈ mappings, m.IsNamed → m.normalizedSource ≠ "") (m : MigrationRootMapping)
      (hm : m ∈ mappings) (habove : m.IsAbove (normalizeFpath path true))
      (hmost : ∀ m' ∈ mappings, m'.IsAbove (normalizeFpath path true) →
        m'.normalizedSource.length ≤ m.normalizedSource.length) :
      applyRootMappings (some path) mappings = some (m.translated (normalizeFpath path true)) := by
    rcases applyRootMappings_cases hpath hroots with ⟨m', hm', habove', hmost', hresult⟩ | ⟨hnone, -⟩
    · obtain rfl := eq_of_longest hdistinct hm hm' habove habove'
        (Nat.le_antisymm (hmost' m hm habove) (hmost m' hm' habove'))
      exact hresult
    · exact absurd habove (hnone m hm)
  have hunchanged {mappings : List MigrationRootMapping}
      (hroots : ∀ m ∈ mappings, m.IsNamed → m.normalizedSource ≠ "")
      (hnone : ∀ m ∈ mappings, ¬m.IsAbove (normalizeFpath path true)) :
      applyRootMappings (some path) mappings = some (normalizeFpath path true) := by
    rcases applyRootMappings_cases hpath hroots with ⟨m, hm, habove, -⟩ | ⟨-, hresult⟩
    · exact absurd habove (hnone m hm)
    · exact hresult
  refine ⟨hlongest hdistinct hroots, hunchanged hroots, fun mappings' hperm => ?_⟩
  have hroots' : ∀ m ∈ mappings', m.IsNamed → m.normalizedSource ≠ "" :=
    fun m hm => hroots m (hperm.mem_iff.mp hm)
  rcases applyRootMappings_cases hpath hroots with ⟨m, hm, habove, hmost, hresult⟩ | ⟨hnone, hresult⟩
  · rw [hresult]
    exact hlongest ((hperm.map normalizedSource).nodup_iff.mpr hdistinct) hroots' m
      (hperm.mem_iff.mpr hm) habove fun m' hm' => hmost m' (hperm.mem_iff.mp hm')
  · rw [hresult]
    exact hunchanged hroots' fun m hm => hnone m (hperm.mem_iff.mp hm)

/-- Of mappings with separate destination roots only one has its root above a path. -/
theorem eq_of_destinations (hone : NonOverlapping (mappings.map normalizedDestination))
    {m m' : MigrationRootMapping} (hm : m ∈ mappings) (hm' : m' ∈ mappings)
    (habove : IsRootOf '/' m.normalizedDestination.toList path.toList)
    (habove' : IsRootOf '/' m'.normalizedDestination.toList path.toList) : m = m' := by
  by_contra hne
  have : Std.Symm fun m m' : MigrationRootMapping =>
      Apart m.normalizedDestination m'.normalizedDestination := ⟨fun _ _ h => h.symm⟩
  have hapart := (List.pairwise_map.mp hone).forall hm hm' hne
  exact (List.prefix_or_prefix_of_prefix habove habove').elim hapart.1 hapart.2

theorem givesBack (hpath : normalizeFpath path true ≠ "")
    (hroots : ∀ m ∈ mappings, m.IsNamed → m.normalizedSource ≠ "")
    (hdestinations : ∀ m ∈ mappings, m.normalizedDestination ≠ "") (hone : IsOneToOne mappings)
    (hcovered : (∃ m ∈ mappings, m.IsAbove (normalizeFpath path true)) ∨
      ∀ m ∈ mappings, ¬IsRootOf '/' m.normalizedDestination.toList (normalizeFpath path true).toList)
    (hnormal : ∀ result, applyRootMappings (some path) mappings = some result →
      normalizeFpath result true = result) : GivesBack path mappings := by
  intro result hresult
  have hstable := hnormal result hresult
  have hpathText : path ≠ "" := by
    rintro rfl
    exact hpath (by decide)
  have hreversed : ∀ m ∈ mappings.map reversed, m.IsNamed → m.normalizedSource ≠ "" := by
    intro m hm _
    obtain ⟨m, hmapping, rfl⟩ := List.mem_map.mp hm
    exact hdestinations m hmapping
  rcases applyRootMappings_cases hpathText hroots with ⟨m, hm, habove, -, htranslated⟩ | ⟨hnone, hsame⟩
  · obtain rfl := Option.some.inj (htranslated.symm.trans hresult)
    obtain ⟨hback, hgives⟩ := isAbove_translated habove (hdestinations m hm)
    have htext : m.translated (normalizeFpath path true) ≠ "" := by
      intro hempty
      have hprefix := hback.2.isPrefix
      rw [hempty] at hprefix
      exact hdestinations m hm (String.toList_eq_nil_iff.mp (List.prefix_nil.mp hprefix))
    rcases applyRootMappings_cases htext hreversed with ⟨m', hm', habove', -, happlied⟩ | ⟨hnone, -⟩
    · obtain ⟨m', hmapping, rfl⟩ := List.mem_map.mp hm'
      rw [hstable] at habove' happlied
      obtain rfl := eq_of_destinations hone.destinations hmapping hm habove'.2 hback.2
      rw [happlied, hgives]
    · rw [hstable] at hnone
      exact absurd hback (hnone _ (List.mem_map_of_mem hm))
  · obtain rfl := Option.some.inj (hsame.symm.trans hresult)
    have hoff := hcovered.resolve_left fun ⟨m, hm, habove⟩ => hnone m hm habove
    rcases applyRootMappings_cases hpath hreversed with ⟨m', hm', habove', -⟩ | ⟨-, happlied⟩
    · obtain ⟨m', hmapping, rfl⟩ := List.mem_map.mp hm'
      rw [hstable] at habove'
      exact absurd habove'.2 (hoff m' hmapping)
    · rw [happlied, hstable]

/-- Without `/` among the source roots every path is translated by its longest one. A path below a
source root, or outside of the destination roots, comes back when no destination root is `/` or
blank and the result is not changed by another normalisation. -/
theorem rootMappings_spec (path : String) (mappings : List MigrationRootMapping) (hpath : path ≠ "")
    (hdistinct : (mappings.map normalizedSource).Nodup)
    (hroots : ∀ m ∈ mappings, m.IsNamed → m.normalizedSource ≠ "") :
    TranslatesRoots path mappings ∧
      (IsOneToOne mappings → normalizeFpath path true ≠ "" →
        (∀ m ∈ mappings, m.normalizedDestination ≠ "") →
        ((∃ m ∈ mappings, m.IsAbove (normalizeFpath path true)) ∨ ∀ m ∈ mappings,
          ¬IsRootOf '/' m.normalizedDestination.toList (normalizeFpath path true).toList) →
        (∀ result, applyRootMappings (some path) mappings = some result →
          normalizeFpath result true = result) →
        GivesBack path mappings) :=
  ⟨translatesRoots hpath hdistinct hroots, fun hone hnormalized hdestinations hcovered hnormal =>
    givesBack hnormalized hroots hdestinations hone hcovered hnormal⟩

end

theorem applyRootMappings_singleton {path : String} (m : MigrationRootMapping) (hpath : path ≠ "") :
    applyRootMappings (some path) [m] =
      some ((applyRootMapping (normalizeFpath path true) m).getD (normalizeFpath path true)) := by
  rw [applyRootMappings]
  simp only [hpath, if_false, List.mergeSort_singleton, List.findSome?_singleton]

theorem isOneToOne_singleton (m : MigrationRootMapping) : IsOneToOne [m] :=
  ⟨List.pairwise_singleton _ _, List.pairwise_singleton _ _⟩

/-- The path of an episode goes to the other disk and comes back. -/
theorem rootMappings_episode :
    TranslatesRoots "/tv/Show/e1.mkv" [⟨"/tv/", "/media"⟩] ∧
      GivesBack "/tv/Show/e1.mkv" [⟨"/tv/", "/media"⟩] := by
  have hspec := rootMappings_spec "/tv/Show/e1.mkv" [⟨"/tv/", "/media"⟩] (by decide) (by decide)
    (by decide)
  have hpath : normalizeFpath "/tv/Show/e1.mkv" true ≠ "" := by decide +kernel
  have hdestinations : ∀ m ∈ [(⟨"/tv/", "/media"⟩ : MigrationRootMapping)],
      m.normalizedDestination ≠ "" := by decide +kernel
  have habove : ∃ m ∈ [(⟨"/tv/", "/media"⟩ : MigrationRootMapping)],
      m.IsAbove (normalizeFpath "/tv/Show/e1.mkv" true) := by decide +kernel
  refine ⟨hspec.1, hspec.2 (isOneToOne_singleton _) hpath hdestinations (.inl habove) ?_⟩
  intro result hresult
  rw [applyRootMappings_singleton _ (by decide)] at hresult
  rw [← Option.some.inj hresult]
  decide +kernel

/-- `/` as a source root is skipped, and an empty path is not answered; a path below a destination
root, one with a blank before its last slash, one below a root that goes to `/`, and `/` itself do
not come back. -/
theorem not_mapsRoots :
    ¬MapsRoots "/tv/x" [⟨"/", "/mnt"⟩] ∧ ¬MapsRoots "" [] ∧ ¬MapsRoots "/media/x" [⟨"/tv", "/media"⟩] ∧
      ¬MapsRoots "/tv/x /" [⟨"/tv", "/media"⟩] ∧ ¬MapsRoots "/tv/x" [⟨"/tv", "/"⟩] ∧
      ¬MapsRoots "/" [] := by
  have hback (path result : String) (m : MigrationRootMapping) (hpath : path ≠ "") (hresult : result ≠ "")
      (hthere : (applyRootMapping (normalizeFpath path true) m).getD (normalizeFpath path true) = result)
      (hhere : (applyRootMapping (normalizeFpath result true) m.reversed).getD
        (normalizeFpath result true) ≠ normalizeFpath path true) : ¬MapsRoots path [m] := by
    intro h
    have hsame := (h (List.nodup_singleton _)).2 (isOneToOne_singleton m) result
      (by rw [applyRootMappings_singleton m hpath, hthere])
    rw [List.map_singleton, applyRootMappings_singleton _ hresult] at hsame
    exact hhere (Option.some.inj hsame)
  refine ⟨fun h => ?_, fun h => ?_, ?_, ?_, ?_, fun h => ?_⟩
  · have hmapped := (h (List.nodup_singleton _)).1.longest _ (List.mem_singleton_self _)
      (by decide +kernel) (by decide +kernel)
    rw [applyRootMappings_singleton _ (by decide)] at hmapped
    revert hmapped
    decide +kernel
  · have hmapped := (h List.nodup_nil).1.unchanged (by simp)
    cases hmapped
  · exact hback _ "/media/x" _ (by decide) (by decide) (by decide +kernel) (by decide +kernel)
  · exact hback _ "/media/x " _ (by decide) (by decide) (by decide +kernel) (by decide +kernel)
  · exact hback _ "/x" _ (by decide) (by decide) (by decide +kernel) (by decide +kernel)
  · have hback := (h List.nodup_nil).2 ⟨.nil, .nil⟩ "" (by simp [applyRootMappings]; decide +kernel)
    cases hback

end MediaMasterr.Migration
