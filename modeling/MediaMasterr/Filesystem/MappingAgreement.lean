import MediaMasterr.Filesystem.Paths

/-! # Two readings of the path mappings

`resolve_path` maps a path by the first mapping that matches and probes the result on
the disk; `mapped_path_variants` collects the texts that all mappings make of it. Here
the mappings are the dictionaries of the settings, with any text as a service type.
The two agree on the texts that `pathlib` does not rewrite. -/

namespace MediaMasterr.Filesystem

open MediaMasterr.Foundations MediaMasterr.Database

/-- `str(path)`. -/
def LocalPath.toPosix (p : LocalPath) : String :=
  if p.root = "" ∧ p.parts = [] then "." else p.root ++ "/".intercalate p.parts

/-- A mapping of the settings; a missing prefix is the empty text. -/
structure PathMappingDict where
  sourcePrefix : String := ""
  localPrefix : String := ""
  serviceType : Option String := none
  serviceConfigId : Option Int := none
  deriving DecidableEq, Repr

namespace PathMappingDict

/-- `str(mapping.get("service_type") or "")`. -/
def serviceText (m : PathMappingDict) : String := m.serviceType.getD ""

/-- `not mapping.get("service_config_id")`. -/
def noConfig (m : PathMappingDict) : Bool := m.serviceConfigId.getD 0 = 0

section Scope

variable (lower : String → String) (serviceType : Option String) (serviceConfigId : Option Int)

/-- `_mapping_applies_to_scope`. -/
def appliesToScope (m : PathMappingDict) : Bool :=
  match m.serviceConfigId with
  | some config => serviceConfigId = some config
  | none =>
    if lower m.serviceText = "" then true
    else serviceType.any fun s => lower m.serviceText = lower s

/-- The scope test of `resolve_path`. -/
def resolvesInScope (m : PathMappingDict) : Bool :=
  match m.serviceConfigId with
  | some config => serviceConfigId = some config
  | none =>
    if lower m.serviceText = "" then true
    else serviceType.any fun s => s ≠ "" ∧ lower m.serviceText = lower s

/-- The rank by which both functions sort. -/
def rank (m : PathMappingDict) : Nat :=
  if serviceConfigId.isSome ∧ m.serviceConfigId = serviceConfigId then 0
  else if serviceType.any (fun s => s ≠ "" ∧ lower m.serviceText = lower s) ∧ m.noConfig then 1
  else if m.serviceText = "" ∧ m.noConfig then 2
  else 3

/-- The sort order: rank first, then longer source prefixes. -/
def precedes (a b : PathMappingDict) : Prop :=
  rank lower serviceType serviceConfigId a < rank lower serviceType serviceConfigId b ∨
    rank lower serviceType serviceConfigId a = rank lower serviceType serviceConfigId b ∧
      b.sourcePrefix.length ≤ a.sourcePrefix.length

instance : DecidableRel (precedes lower serviceType serviceConfigId) := fun a b => by
  unfold precedes
  infer_instance

def sorted (mappings : List PathMappingDict) : List PathMappingDict :=
  mappings.insertionSort (precedes lower serviceType serviceConfigId)

/-! ## The two functions -/

/-- The rest of a path behind a prefix. -/
def restAfter (source normalized : String) : String :=
  String.ofList (normalized.toList.drop source.toList.length)

/-- The variant that one mapping adds in `mapped_path_variants`. -/
def variant (normalized : String) (m : PathMappingDict) : Option String :=
  if !appliesToScope lower serviceType serviceConfigId m then none
  else
    let source := normalizeFpath m.sourcePrefix true
    let localPrefix := normalizeFpath m.localPrefix true
    if source = "" ∨ localPrefix = "" then none
    else if normalized = source ∨ PythonText.startsWith normalized (source ++ "/") then
      some (normalizeFpath (localPrefix ++ restAfter source normalized) true)
    else none

/-- `mapped_path_variants`. -/
def variants (path : String) (mappings : List PathMappingDict) : List String :=
  let normalized := normalizeFpath path true
  if normalized = "" then []
  else
    (normalized :: (sorted lower serviceType serviceConfigId mappings).filterMap
      (variant lower serviceType serviceConfigId normalized)).filter (· ≠ "")

/-- The source prefix as `resolve_path` reads it: the root stays. -/
def resolveSource (m : PathMappingDict) : String :=
  let rawSource := PythonText.strip m.sourcePrefix
  let source := normalizeFpath rawSource true
  if source = "" ∧ PythonText.replaceChar '\\' '/' rawSource = "/" then "/" else source

/-- The local path that `resolve_path` probes for a mapping, if it is in scope and matches. -/
def probe (normalized : String) (m : PathMappingDict) : Option LocalPath :=
  if !resolvesInScope lower serviceType serviceConfigId m then none
  else
    let source := m.resolveSource
    let sourceMatches :=
      if source = "/" then PythonText.startsWith normalized "/"
      else normalized == source || PythonText.startsWith normalized (source ++ "/")
    if source ≠ "" ∧ sourceMatches then
      let suffix := String.ofList ((restAfter source normalized).toList.dropWhile (· = '/'))
      some ((LocalPath.ofString (PythonText.strip m.localPrefix)).joinParts
        (LocalPath.splitParts suffix))
    else none

/-- The mapping that `resolve_path` selects, with the local path. -/
def selection (path : String) (mappings : List PathMappingDict) :
    Option (PathMappingDict × LocalPath) :=
  if path = "" then none
  else (sorted lower serviceType serviceConfigId mappings).findSome? fun m =>
    (probe lower serviceType serviceConfigId (normalizeFpath path true) m).map (m, ·)

/-- `resolve_path`. -/
def resolve (disk : DiskView) (path : String) (mappings : List PathMappingDict) :
    Option LocalPath :=
  match selection lower serviceType serviceConfigId path mappings with
  | some (_, p) => if disk.pathExists p then some p else none
  | none =>
    if path ≠ "" ∧ disk.pathExists (LocalPath.ofString path) then some (LocalPath.ofString path)
    else none

/-- The probed path is a variant, and a path that no mapping is selected for has no other
variant. -/
structure Agree (path : String) (mappings : List PathMappingDict) : Prop where
  selected : ∀ m p, selection lower serviceType serviceConfigId path mappings = some (m, p) →
    normalizeFpath p.toPosix true ∈ variants lower serviceType serviceConfigId path mappings
  unselected : selection lower serviceType serviceConfigId path mappings = none →
    ∀ m ∈ mappings, appliesToScope lower serviceType serviceConfigId m → ∀ v,
      variant lower serviceType serviceConfigId (normalizeFpath path true) m = some v →
        v = normalizeFpath path true

end Scope

/-- The local prefix without its trailing slashes. -/
def bareLocal (m : PathMappingDict) : String :=
  PythonText.rstrip '/' (PythonText.strip m.localPrefix)

/-- The bare local prefix with the rest of the path. -/
def mappedText (m : PathMappingDict) (normalized : String) : String :=
  m.bareLocal ++ restAfter (normalizeFpath m.sourcePrefix true) normalized

/-- The source is not the root, the local prefix names something and does not end in a backslash,
and `pathlib` writes the mapped text as it is. -/
structure IsPlain (m : PathMappingDict) (normalized : String) : Prop where
  source : normalizeFpath m.sourcePrefix true ≠ ""
  named : ∃ c ∈ m.localPrefix.toList, c ≠ '/' ∧ c ≠ '\\' ∧ PythonText.isSpace c = false
  last : m.bareLocal.toList.getLast? ≠ some '\\'
  written : (LocalPath.ofString (m.mappedText normalized)).toPosix = m.mappedText normalized

/-- The agreement for plain mappings. -/
structure AgreePlain (lower : String → String) (serviceType : Option String)
    (serviceConfigId : Option Int) (path : String) (mappings : List PathMappingDict) : Prop where
  selected : ∀ m p, selection lower serviceType serviceConfigId path mappings = some (m, p) →
    m.IsPlain (normalizeFpath path true) →
    normalizeFpath p.toPosix true ∈ variants lower serviceType serviceConfigId path mappings
  unselected : selection lower serviceType serviceConfigId path mappings = none →
    ∀ m ∈ mappings, appliesToScope lower serviceType serviceConfigId m → ∀ v,
      variant lower serviceType serviceConfigId (normalizeFpath path true) m = some v →
        v = normalizeFpath path true

end PathMappingDict

/-! ## Components of joined texts -/

namespace LocalPath

theorem splitParts_append_slash (xs ys : List Char) :
    splitParts (String.ofList (xs ++ '/' :: ys)) =
      splitParts (String.ofList xs) ++ splitParts (String.ofList ys) := by
  simp [splitParts, List.splitOn_append_cons_self]

theorem splitParts_nil : splitParts (String.ofList []) = [] := by decide

theorem splitParts_cons_slash (ys : List Char) :
    splitParts (String.ofList ('/' :: ys)) = splitParts (String.ofList ys) := by
  have h := splitParts_append_slash [] ys
  rwa [List.nil_append, splitParts_nil, List.nil_append] at h

/-- Leading slashes make no components. -/
theorem splitParts_dropWhile (ys : List Char) :
    splitParts (String.ofList (ys.dropWhile (· = '/'))) = splitParts (String.ofList ys) := by
  induction ys with
  | nil => rfl
  | cons c ys ih =>
    by_cases hc : c = '/'
    · subst hc
      rw [List.dropWhile_cons_of_pos (by simp), ih, splitParts_cons_slash]
    · rw [List.dropWhile_cons_of_neg (by simpa using hc)]

/-- Trailing slashes make no components. -/
theorem splitParts_append_slashes (xs : List Char) {ys : List Char} (h : ∀ c ∈ ys, c = '/') :
    splitParts (String.ofList (xs ++ ys)) = splitParts (String.ofList xs) := by
  have hnone : splitParts (String.ofList ys) = [] := by
    rw [← splitParts_dropWhile, List.dropWhile_eq_nil_iff.mpr fun c hc => by simp [h c hc],
      splitParts_nil]
  cases ys with
  | nil => rw [List.append_nil]
  | cons c ys =>
    obtain rfl := h c List.mem_cons_self
    rw [splitParts_cons_slash] at hnone
    rw [splitParts_append_slash, hnone, List.append_nil]

theorem takeWhile_slashes {xs : List Char} (h : ∃ c ∈ xs, c ≠ '/') (ys : List Char) :
    (xs ++ ys).takeWhile (· = '/') = xs.takeWhile (· = '/') := by
  obtain ⟨c, hc, hne⟩ := h
  rw [List.takeWhile_append, if_neg]
  intro hlength
  have hall := (List.takeWhile_prefix (· = '/') (l := xs)).eq_of_length hlength
  rw [List.takeWhile_eq_self_iff] at hall
  exact hne (by simpa using hall c hc)

theorem ofString_append_slashes {xs ys : List Char} (hxs : ∃ c ∈ xs, c ≠ '/')
    (hys : ∀ c ∈ ys, c = '/') :
    ofString (String.ofList (xs ++ ys)) = ofString (String.ofList xs) := by
  simp only [ofString, String.toList_ofList, splitParts_append_slashes xs hys,
    takeWhile_slashes hxs]

/-- A path joined with the components of a rest is the path of the joined texts. -/
theorem joinParts_ofString {xs rest : List Char} (hxs : ∃ c ∈ xs, c ≠ '/')
    (hrest : rest = [] ∨ ∃ ys, rest = '/' :: ys) :
    (ofString (String.ofList xs)).joinParts
        (splitParts (String.ofList (rest.dropWhile (· = '/')))) =
      ofString (String.ofList (xs ++ rest)) := by
  have hparts : splitParts (String.ofList (xs ++ rest)) =
      splitParts (String.ofList xs) ++ splitParts (String.ofList rest) := by
    rcases hrest with rfl | ⟨ys, rfl⟩
    · rw [List.append_nil, splitParts_nil, List.append_nil]
    · rw [splitParts_append_slash, splitParts_cons_slash]
  have hkept : (splitParts (String.ofList rest)).filter (fun part => part ≠ "" ∧ part ≠ ".") =
      splitParts (String.ofList rest) := by
    rw [splitParts, List.filter_filter]
    simp only [Bool.and_self]
  rw [splitParts_dropWhile, joinParts, hkept]
  simp only [ofString, String.toList_ofList, hparts, takeWhile_slashes hxs]

end LocalPath

/-! ## Normalised joined texts -/

/-- What stands behind the last character that is kept is stripped. -/
theorem rstrip_eq_of_append {c : Char} {s : String} {xs ys : List Char} (h : s.toList = xs ++ ys)
    (hxs : ∀ hne : xs ≠ [], xs.getLast hne ≠ c) (hys : ∀ d ∈ ys, d = c) :
    PythonText.rstrip c s = String.ofList xs := by
  have hdrop : (xs ++ ys).rdropWhile (· == c) = xs := by
    clear h
    induction ys using List.reverseRecOn with
    | nil =>
      rw [List.append_nil, List.rdropWhile_eq_self_iff]
      intro hne
      simpa using hxs hne
    | append_singleton ys d ih =>
      have hd : (d == c) = true := by
        simpa using hys d (List.mem_append_right _ (List.mem_singleton_self d))
      rw [← List.append_assoc, List.rdropWhile_concat, if_pos hd]
      exact ih fun d hd => hys d (List.mem_append_left _ hd)
  rw [PythonText.rstrip, PythonText.rstripWhere_eq, h, hdrop]

/-- A text is its stripped text with the characters that were stripped on the right. -/
theorem exists_rstrip (c : Char) (s : String) :
    ∃ ys : List Char, s.toList = (PythonText.rstrip c s).toList ++ ys ∧ ∀ d ∈ ys, d = c := by
  refine ⟨s.toList.rtakeWhile (· == c), ?_, ?_⟩
  · rw [PythonText.rstrip, PythonText.rstripWhere_eq, String.toList_ofList,
      List.rdropWhile_append_rtakeWhile]
  · intro d hd
    simpa using List.mem_rtakeWhile_imp hd

/-- The normalised local prefix is the bare one with its backslashes replaced. -/
theorem normalizeFpath_eq_replaceChar {l : String} {c : Char}
    (hlast : (PythonText.rstrip '/' (PythonText.strip l)).toList.getLast? = some c)
    (hc : c ≠ '\\') : normalizeFpath l true =
      PythonText.replaceChar '\\' '/' (PythonText.rstrip '/' (PythonText.strip l)) := by
  obtain ⟨ys, hys, hslashes⟩ := exists_rstrip '/' (PythonText.strip l)
  obtain ⟨xs, hxs⟩ := List.getLast?_eq_some_iff.mp hlast
  have hslash : c ≠ '/' := by
    intro heq
    have hstrip := PythonText.rstrip_rstrip '/' (PythonText.strip l)
    have hshort : PythonText.rstrip '/' (PythonText.rstrip '/' (PythonText.strip l)) ≠
        PythonText.rstrip '/' (PythonText.strip l) := by
      rw [ne_eq, ← String.toList_inj, PythonText.rstrip, PythonText.rstripWhere_eq, hxs,
        List.rdropWhile_concat, if_pos (by simp [heq]), String.toList_ofList]
      intro hlist
      have hlength := congrArg List.length hlist
      have hle := (List.rdropWhile_prefix (· == '/') (l := xs)).length_le
      rw [List.length_append, List.length_singleton] at hlength
      omega
    exact hshort hstrip
  rw [normalizeFpath, if_pos rfl]
  have hreplaced : (PythonText.replaceChar '\\' '/' (PythonText.strip l)).toList =
      (PythonText.replaceChar '\\' '/' (PythonText.rstrip '/' (PythonText.strip l))).toList ++
        ys.map fun c => if c = '\\' then '/' else c := by
    rw [PythonText.replaceChar, String.toList_ofList, hys, List.map_append, PythonText.replaceChar,
      String.toList_ofList]
  rw [rstrip_eq_of_append hreplaced, String.ofList_toList]
  · intro hne
    have hmap : (PythonText.replaceChar '\\' '/'
        (PythonText.rstrip '/' (PythonText.strip l))).toList =
          (xs.map fun c => if c = '\\' then '/' else c) ++ [c] := by
      rw [PythonText.replaceChar, String.toList_ofList, hxs, List.map_append, List.map_singleton,
        if_neg hc]
    simp only [hmap, List.getLast_append_singleton]
    exact hslash
  · intro d hd
    obtain ⟨d', hd', rfl⟩ := List.mem_map.mp hd
    rw [hslashes d' hd']
    rfl

/-- Replacing the backslashes of a mapped text first, or only at the end. -/
theorem normalizeFpath_append {l rest : String} {c : Char}
    (hlast : (PythonText.rstrip '/' (PythonText.strip l)).toList.getLast? = some c)
    (hc : c ≠ '\\') (hrest : '\\' ∉ rest.toList) :
    normalizeFpath (normalizeFpath l true ++ rest) true =
      normalizeFpath (PythonText.rstrip '/' (PythonText.strip l) ++ rest) true := by
  have hjoined (b : String) : PythonText.replaceChar '\\' '/' b ++ rest =
      PythonText.replaceChar '\\' '/' (b ++ rest) := by
    have hsame : PythonText.replaceChar '\\' '/' rest = rest :=
      PythonText.replaceChar_eq_self hrest
    rw [← String.toList_inj, String.toList_append]
    conv_lhs => rw [← hsame]
    simp only [PythonText.replaceChar, String.toList_ofList, String.toList_append, List.map_append]
  have htwice (s : String) : PythonText.replaceChar '\\' '/' (PythonText.replaceChar '\\' '/' s) =
      PythonText.replaceChar '\\' '/' s :=
    PythonText.replaceChar_eq_self (PythonText.notMem_replaceChar (by decide) s)
  rw [normalizeFpath_eq_replaceChar hlast hc, hjoined]
  simp only [normalizeFpath, if_true]
  rw [PythonText.strip_replaceChar (by decide) (by decide), htwice]

/-- Normalisation keeps the characters that are neither blanks, slashes nor backslashes. -/
theorem mem_normalizeFpath {c : Char} {s : String} (hslash : c ≠ '/') (hback : c ≠ '\\')
    (hspace : PythonText.isSpace c = false) (h : c ∈ s.toList) :
    c ∈ (normalizeFpath s true).toList := by
  rw [normalizeFpath, if_pos rfl]
  apply PythonText.mem_rstrip hslash
  rw [PythonText.replaceChar, String.toList_ofList, List.mem_map]
  exact ⟨c, PythonText.mem_strip hspace h, if_neg hback⟩

theorem normalizeFpath_strip (s : String) (b : Bool) :
    normalizeFpath (PythonText.strip s) b = normalizeFpath s b := by
  simp only [normalizeFpath, PythonText.strip_strip]

theorem notMem_normalizeFpath (s : String) : '\\' ∉ (normalizeFpath s true).toList := by
  rw [normalizeFpath, if_pos rfl]
  exact PythonText.notMem_rstrip (PythonText.notMem_replaceChar (by decide) _)

theorem normalizeFpath_ne_slash (s : String) : normalizeFpath s true ≠ "/" := by
  rw [normalizeFpath, if_pos rfl, ← PythonText.rstrip_rstrip]
  intro h
  have htwice := congrArg (PythonText.rstrip '/') h
  rw [PythonText.rstrip_rstrip, h] at htwice
  exact absurd htwice (by decide)

namespace PathMappingDict

/-! ## The agreement -/

section Agreement

variable {lower : String → String} {serviceType : Option String} {serviceConfigId : Option Int}

theorem resolvesInScope_eq (hlower : lower "" = "") (m : PathMappingDict) :
    resolvesInScope lower serviceType serviceConfigId m =
      appliesToScope lower serviceType serviceConfigId m := by
  unfold resolvesInScope appliesToScope
  cases m.serviceConfigId with
  | some config => rfl
  | none =>
    split_ifs with htext
    · rfl
    · cases serviceType with
      | none => rfl
      | some s =>
        -- an empty service type is no service type for `resolve_path`
        have hempty : lower m.serviceText = lower s → s ≠ "" := by
          rintro heq rfl
          exact htext (heq.trans hlower)
        simp only [Option.any_some, decide_eq_decide]
        exact ⟨And.right, fun heq => ⟨hempty heq, heq⟩⟩

theorem resolveSource_eq {m : PathMappingDict} (h : normalizeFpath m.sourcePrefix true ≠ "") :
    m.resolveSource = normalizeFpath m.sourcePrefix true := by
  rw [resolveSource]
  rw [normalizeFpath_strip, if_neg fun hroot => h hroot.1]

/-- The path is the source prefix or lies below it. -/
def Matches (m : PathMappingDict) (normalized : String) : Prop :=
  normalized = normalizeFpath m.sourcePrefix true ∨
    PythonText.startsWith normalized (normalizeFpath m.sourcePrefix true ++ "/")

theorem probe_of_source {m : PathMappingDict} {normalized : String} (hlower : lower "" = "")
    (h : normalizeFpath m.sourcePrefix true ≠ "") {p : LocalPath} :
    probe lower serviceType serviceConfigId normalized m = some p ↔
      appliesToScope lower serviceType serviceConfigId m ∧ m.Matches normalized ∧
        (LocalPath.ofString (PythonText.strip m.localPrefix)).joinParts
          (LocalPath.splitParts (String.ofList
            ((restAfter (normalizeFpath m.sourcePrefix true) normalized).toList.dropWhile
              (· = '/')))) = p := by
  unfold probe
  dsimp only
  rw [resolvesInScope_eq hlower, resolveSource_eq h, if_neg (normalizeFpath_ne_slash _)]
  cases appliesToScope lower serviceType serviceConfigId m with
  | false => simp
  | true => simp [h, Matches]

theorem variant_eq_some_iff {m : PathMappingDict} {normalized v : String} :
    variant lower serviceType serviceConfigId normalized m = some v ↔
      appliesToScope lower serviceType serviceConfigId m ∧
        normalizeFpath m.sourcePrefix true ≠ "" ∧ normalizeFpath m.localPrefix true ≠ "" ∧
          m.Matches normalized ∧
            normalizeFpath (normalizeFpath m.localPrefix true ++
              restAfter (normalizeFpath m.sourcePrefix true) normalized) true = v := by
  unfold variant
  dsimp only
  cases appliesToScope lower serviceType serviceConfigId m with
  | false => simp
  | true => simp [Matches, and_assoc]

/-- A matched path is the source prefix with its rest, which is empty or starts with a slash. -/
theorem Matches.restAfter {m : PathMappingDict} {normalized : String} (h : m.Matches normalized) :
    normalized.toList = (normalizeFpath m.sourcePrefix true).toList ++
        (restAfter (normalizeFpath m.sourcePrefix true) normalized).toList ∧
      ((restAfter (normalizeFpath m.sourcePrefix true) normalized).toList = [] ∨
        ∃ ys, (restAfter (normalizeFpath m.sourcePrefix true) normalized).toList = '/' :: ys) := by
  simp only [PathMappingDict.restAfter, String.toList_ofList]
  rcases h with heq | hstarts
  · rw [heq, List.drop_length, List.append_nil]
    exact ⟨rfl, .inl rfl⟩
  · rw [PythonText.startsWith, List.isPrefixOf_iff_prefix, String.toList_append] at hstarts
    obtain ⟨ys, hys⟩ := hstarts
    rw [List.append_assoc] at hys
    rw [← hys, List.drop_left]
    exact ⟨rfl, .inr ⟨ys, rfl⟩⟩

theorem Matches.normalized_ne {m : PathMappingDict} {normalized : String}
    (h : m.Matches normalized) (hsource : normalizeFpath m.sourcePrefix true ≠ "") :
    normalized ≠ "" := by
  rintro rfl
  have happend := h.restAfter.1
  rw [String.toList_empty, eq_comm, List.append_eq_nil_iff] at happend
  exact hsource (String.toList_inj.mp happend.1)

/-- The bare local prefix of a plain mapping names something. -/
theorem IsPlain.exists_mem_bareLocal {m : PathMappingDict} {normalized : String}
    (h : m.IsPlain normalized) :
    ∃ c ∈ m.bareLocal.toList, c ≠ '/' ∧ c ≠ '\\' ∧ PythonText.isSpace c = false := by
  obtain ⟨c, hc, hslash, hback, hspace⟩ := h.named
  exact ⟨c, PythonText.mem_rstrip hslash (PythonText.mem_strip hspace hc), hslash, hback, hspace⟩

theorem normalizeFpath_ne_empty {s : String}
    (h : ∃ c ∈ s.toList, c ≠ '/' ∧ c ≠ '\\' ∧ PythonText.isSpace c = false) :
    normalizeFpath s true ≠ "" := by
  obtain ⟨c, hc, hslash, hback, hspace⟩ := h
  intro hempty
  have hmem := mem_normalizeFpath hslash hback hspace hc
  rw [hempty] at hmem
  exact List.not_mem_nil hmem

/-- The probed path of a plain mapping is the path of the mapped text. -/
theorem IsPlain.probe_eq {m : PathMappingDict} {normalized : String} (hlower : lower "" = "")
    (h : m.IsPlain normalized) {p : LocalPath}
    (hp : probe lower serviceType serviceConfigId normalized m = some p) :
    p.toPosix = m.mappedText normalized := by
  obtain ⟨-, hmatches, rfl⟩ := (probe_of_source hlower h.source).mp hp
  have hbare : ∃ c ∈ m.bareLocal.toList, c ≠ '/' := by
    obtain ⟨c, hc, hslash, -⟩ := h.exists_mem_bareLocal
    exact ⟨c, hc, hslash⟩
  obtain ⟨ys, hys, hslashes⟩ := exists_rstrip '/' (PythonText.strip m.localPrefix)
  have hlocal : LocalPath.ofString (PythonText.strip m.localPrefix) =
      LocalPath.ofString (String.ofList m.bareLocal.toList) := by
    rw [← String.ofList_toList (s := PythonText.strip m.localPrefix), hys]
    exact LocalPath.ofString_append_slashes hbare hslashes
  rw [hlocal, LocalPath.joinParts_ofString hbare hmatches.restAfter.2]
  have htext : String.ofList (m.bareLocal.toList ++
      (PathMappingDict.restAfter (normalizeFpath m.sourcePrefix true) normalized).toList) =
        m.mappedText normalized := by
    rw [mappedText, ← String.toList_append, String.ofList_toList]
  rw [htext]
  exact h.written

/-- The variant of a plain mapping is the normalised mapped text. -/
theorem IsPlain.variant_eq {m : PathMappingDict} {path : String}
    (h : m.IsPlain (normalizeFpath path true))
    (happlies : appliesToScope lower serviceType serviceConfigId m)
    (hmatches : m.Matches (normalizeFpath path true)) :
    variant lower serviceType serviceConfigId (normalizeFpath path true) m =
      some (normalizeFpath (m.mappedText (normalizeFpath path true)) true) := by
  have hlocal := normalizeFpath_ne_empty h.named
  obtain ⟨d, hd⟩ : ∃ d, m.bareLocal.toList.getLast? = some d := by
    obtain ⟨e, he, -⟩ := h.exists_mem_bareLocal
    exact ⟨_, List.getLast?_eq_some_getLast (List.ne_nil_of_mem he)⟩
  have hrest : '\\' ∉
      (restAfter (normalizeFpath m.sourcePrefix true) (normalizeFpath path true)).toList := by
    rw [restAfter, String.toList_ofList]
    exact fun hmem => notMem_normalizeFpath path (List.mem_of_mem_drop hmem)
  refine variant_eq_some_iff.mpr ⟨happlies, h.source, hlocal, hmatches, ?_⟩
  exact normalizeFpath_append hd (fun heq => h.last (heq ▸ hd)) hrest

/-- The mapped text of a plain mapping does not vanish. -/
theorem IsPlain.normalized_ne {m : PathMappingDict} {normalized : String}
    (h : m.IsPlain normalized) : normalizeFpath (m.mappedText normalized) true ≠ "" := by
  apply normalizeFpath_ne_empty
  obtain ⟨c, hc, hplain⟩ := h.exists_mem_bareLocal
  rw [mappedText, String.toList_append]
  exact ⟨c, List.mem_append_left _ hc, hplain⟩

theorem mem_sorted {mappings : List PathMappingDict} {m : PathMappingDict} :
    m ∈ sorted lower serviceType serviceConfigId mappings ↔ m ∈ mappings :=
  List.mem_insertionSort _

theorem selection_eq_some {path : String} {mappings : List PathMappingDict} {m : PathMappingDict}
    {p : LocalPath} (h : selection lower serviceType serviceConfigId path mappings = some (m, p)) :
    m ∈ mappings ∧
      probe lower serviceType serviceConfigId (normalizeFpath path true) m = some p := by
  rw [selection] at h
  split_ifs at h
  obtain ⟨m', hm', hsome⟩ := List.exists_of_findSome?_eq_some h
  obtain ⟨p', hp', heq⟩ := Option.map_eq_some_iff.mp hsome
  obtain ⟨rfl, rfl⟩ := Prod.mk.inj heq
  exact ⟨mem_sorted.mp hm', hp'⟩

theorem probe_of_selection_eq_none {path : String} {mappings : List PathMappingDict}
    {m : PathMappingDict} (hpath : path ≠ "")
    (h : selection lower serviceType serviceConfigId path mappings = none) (hm : m ∈ mappings) :
    probe lower serviceType serviceConfigId (normalizeFpath path true) m = none := by
  rw [selection, if_neg hpath, List.findSome?_eq_none_iff] at h
  exact Option.map_eq_none_iff.mp (h m (mem_sorted.mpr hm))

/-- For plain mappings the local path that is probed is a variant of the path; a path that no
mapping is selected for has no variant but itself. -/
theorem agreePlain (hlower : lower "" = "") (path : String) (mappings : List PathMappingDict) :
    AgreePlain lower serviceType serviceConfigId path mappings where
  selected := by
    intro m p hselection hplain
    obtain ⟨hm, hp⟩ := selection_eq_some hselection
    obtain ⟨happlies, hmatches, -⟩ := (probe_of_source hlower hplain.source).mp hp
    rw [hplain.probe_eq hlower hp, variants]
    rw [if_neg (hmatches.normalized_ne hplain.source), List.mem_filter]
    refine ⟨List.mem_cons_of_mem _ (List.mem_filterMap.mpr ⟨m, mem_sorted.mpr hm, ?_⟩), ?_⟩
    · exact hplain.variant_eq happlies hmatches
    · exact decide_eq_true hplain.normalized_ne
  unselected := by
    intro hselection m hm _ v hv
    obtain ⟨happlies, hsource, -, hmatches, -⟩ := variant_eq_some_iff.mp hv
    -- a mapping that makes a variant is probed, so one would have been selected
    have hpath : path ≠ "" := by
      rintro rfl
      exact hmatches.normalized_ne hsource (by decide)
    have hnone := probe_of_selection_eq_none hpath hselection hm
    have hsome := (probe_of_source hlower hsource).mpr ⟨happlies, hmatches, rfl⟩
    rw [hnone] at hsome
    exact absurd hsome (Option.some_ne_none _).symm

end Agreement

/-- A mapping of the video folder, with blanks and slashes around its prefixes. -/
def moviesMapping : PathMappingDict where
  sourcePrefix := "/media/"
  localPrefix := " /srv/movies/"
  serviceType := some "Plex"

theorem agreePlain_movies : PythonText.asciiLower "" = "" ∧
    selection PythonText.asciiLower (some "plex") none "/media/a.mkv" [moviesMapping] =
      some (moviesMapping, ⟨"/", ["srv", "movies", "a.mkv"]⟩) ∧
    moviesMapping.IsPlain "/media/a.mkv" ∧
    AgreePlain PythonText.asciiLower (some "plex") none "/media/a.mkv" [moviesMapping] :=
  ⟨by decide, by decide +kernel,
    ⟨by decide +kernel, ⟨'s', by decide +kernel⟩, by decide +kernel, by decide +kernel⟩,
    agreePlain (by decide) _ _⟩

/-- `pathlib` writes repeated slashes as one, and only `resolve_path` maps the root. -/
theorem not_agree_repeatedSlash_root :
    ¬Agree PythonText.asciiLower none none "/media//x"
        [{ sourcePrefix := "/media", localPrefix := "/srv" }] ∧
      ¬Agree PythonText.asciiLower none none "/media/x"
        [{ sourcePrefix := "/", localPrefix := "/srv" }] := by
  constructor
  · intro h
    have hmem := h.selected { sourcePrefix := "/media", localPrefix := "/srv" } ⟨"/", ["srv", "x"]⟩
      (by decide +kernel)
    exact absurd hmem (by decide +kernel)
  · intro h
    have hmem := h.selected { sourcePrefix := "/", localPrefix := "/srv" }
      ⟨"/", ["srv", "media", "x"]⟩ (by decide +kernel)
    exact absurd hmem (by decide +kernel)

/-! ## The mappings with their services -/

/-- The dictionary of a mapping. -/
def ofPathMapping (m : PathMapping) : PathMappingDict where
  sourcePrefix := m.sourcePrefix
  localPrefix := m.localPrefix
  serviceType := m.serviceType.map Service.value
  serviceConfigId := m.serviceConfigId.map Int.ofNat

section Services

variable {lower : String → String} {serviceType : Option Service} {serviceConfigId : Option Nat}

theorem serviceText_ofPathMapping_eq_value {m : PathMapping} {s : Service} :
    (ofPathMapping m).serviceText = s.value ↔ m.serviceType = some s := by
  unfold serviceText ofPathMapping
  cases m.serviceType with
  | none =>
    simp only [Option.map_none, Option.getD_none, reduceCtorEq, iff_false]
    cases s <;> decide
  | some t =>
    simp only [Option.map_some, Option.getD_some, Option.some.injEq]
    exact ⟨fun h => by cases s <;> cases t <;> first | rfl | exact absurd h (by decide),
      congrArg Service.value⟩

theorem serviceText_ofPathMapping_eq_empty {m : PathMapping} :
    (ofPathMapping m).serviceText = "" ↔ m.serviceType = none := by
  unfold serviceText ofPathMapping
  cases m.serviceType with
  | none => simp
  | some t => cases t <;> simp [Service.value]

theorem lower_serviceText (hempty : lower "" = "") (hvalue : ∀ s : Service, lower s.value = s.value)
    (m : PathMapping) : lower (ofPathMapping m).serviceText = (ofPathMapping m).serviceText := by
  unfold serviceText ofPathMapping
  cases m.serviceType with
  | none => exact hempty
  | some t => exact hvalue t

theorem value_ne_empty (s : Service) : s.value ≠ "" := by
  cases s <;> decide

theorem noConfig_ofPathMapping (m : PathMapping) : (ofPathMapping m).noConfig = noConfigId m := by
  unfold noConfig noConfigId ofPathMapping
  cases m.serviceConfigId with
  | none => rfl
  | some config => simp [Bool.beq_eq_decide_eq]

theorem serviceConfigId_ofPathMapping {m : PathMapping} :
    (ofPathMapping m).serviceConfigId = serviceConfigId.map Int.ofNat ↔
      m.serviceConfigId = serviceConfigId :=
  (Option.map_injective fun _ _ => Int.ofNat.inj).eq_iff

variable (hempty : lower "" = "") (hvalue : ∀ s : Service, lower s.value = s.value)

include hempty hvalue

theorem lower_serviceText_eq_value {m : PathMapping} {s : Service} :
    lower (ofPathMapping m).serviceText = lower s.value ↔ m.serviceType = some s := by
  rw [lower_serviceText hempty hvalue, hvalue, serviceText_ofPathMapping_eq_value]

theorem appliesToScope_ofPathMapping (m : PathMapping) :
    appliesToScope lower (serviceType.map Service.value) (serviceConfigId.map Int.ofNat)
      (ofPathMapping m) = mappingAppliesToScope serviceType serviceConfigId m := by
  cases hconfig : m.serviceConfigId with
  | some config =>
    have hdict : (ofPathMapping m).serviceConfigId = some (Int.ofNat config) := by
      rw [ofPathMapping, hconfig, Option.map_some]
    have hcast : serviceConfigId.map Int.ofNat = some (Int.ofNat config) ↔
        serviceConfigId = some config := by
      rw [← Option.map_some, (Option.map_injective fun _ _ => Int.ofNat.inj).eq_iff]
    simp only [appliesToScope, mappingAppliesToScope, hconfig, hdict, hcast]
    rw [Bool.eq_iff_iff, decide_eq_true_iff, beq_iff_eq]
  | none =>
    have hdict : (ofPathMapping m).serviceConfigId = none := by
      rw [ofPathMapping, hconfig, Option.map_none]
    simp only [appliesToScope, mappingAppliesToScope, hconfig, hdict,
      lower_serviceText hempty hvalue, serviceText_ofPathMapping_eq_empty]
    cases htype : m.serviceType with
    | none => rfl
    | some t =>
      rw [if_neg (Option.some_ne_none t)]
      cases serviceType with
      | none => rfl
      | some s =>
        simp only [Option.map_some, Option.any_some, hvalue, serviceText_ofPathMapping_eq_value,
          htype, Option.some.injEq]
        rw [Bool.eq_iff_iff, decide_eq_true_iff, beq_iff_eq, Option.some.injEq, eq_comm]

theorem rank_ofPathMapping (m : PathMapping) :
    rank lower (serviceType.map Service.value) (serviceConfigId.map Int.ofNat) (ofPathMapping m) =
      mappingRank serviceType serviceConfigId m := by
  have hservice : (serviceType.map Service.value).any
      (fun s => s ≠ "" ∧ lower (ofPathMapping m).serviceText = lower s) = true ↔
        serviceType.isSome ∧ m.serviceType = serviceType := by
    cases serviceType with
    | none => simp
    | some s =>
      simp [value_ne_empty, lower_serviceText_eq_value hempty hvalue]
  simp only [rank, mappingRank, serviceConfigId_ofPathMapping, noConfig_ofPathMapping,
    serviceText_ofPathMapping_eq_empty, hservice, Option.isSome_map, Option.isNone_iff_eq_none,
    and_assoc]

theorem sorted_ofPathMapping (mappings : List PathMapping) :
    sorted lower (serviceType.map Service.value) (serviceConfigId.map Int.ofNat)
      (mappings.map ofPathMapping) =
        (sortMappings serviceType serviceConfigId mappings).map ofPathMapping := by
  refine (List.map_insertionSort _ _ _ _ fun a _ b _ => ?_).symm
  simp only [mappingPrecedes, precedes, rank_ofPathMapping hempty hvalue]
  rfl

/-- `mapped_path_variants` on the mappings of the settings. -/
theorem variants_ofPathMapping (path : String) (mappings : List PathMapping) :
    variants lower (serviceType.map Service.value) (serviceConfigId.map Int.ofNat) path
      (mappings.map ofPathMapping) =
        mappedPathVariants serviceType serviceConfigId (some path) mappings := by
  have hvariant (normalized : String) (m : PathMapping) :
      variant lower (serviceType.map Service.value) (serviceConfigId.map Int.ofNat) normalized
        (ofPathMapping m) = mappedVariant serviceType serviceConfigId normalized m := by
    simp only [variant, mappedVariant, appliesToScope_ofPathMapping hempty hvalue]
    rfl
  simp only [variants, mappedPathVariants, sorted_ofPathMapping hempty hvalue, List.filterMap_map,
    Function.comp_def, hvariant]

theorem mappedProbe_cons (normalized : String) (m : PathMapping) (ms : List PathMapping) :
    mappedProbe serviceType serviceConfigId normalized (m :: ms) =
      (probe lower (serviceType.map Service.value) (serviceConfigId.map Int.ofNat) normalized
        (ofPathMapping m)).or (mappedProbe serviceType serviceConfigId normalized ms) := by
  rw [mappedProbe, probe, resolvesInScope_eq hempty, appliesToScope_ofPathMapping hempty hvalue]
  simp only [restAfter, String.toList_ofList]
  generalize mappedProbe serviceType serviceConfigId normalized ms = rest
  rw [apply_ite (Option.or · rest), apply_ite (Option.or · rest)]
  rfl

/-- `resolve_path` on the mappings of the settings. -/
theorem resolve_ofPathMapping (disk : DiskView) (path : String) (mappings : List PathMapping) :
    resolve lower (serviceType.map Service.value) (serviceConfigId.map Int.ofNat) disk path
      (mappings.map ofPathMapping) =
        resolvePath disk serviceType serviceConfigId (some path) mappings := by
  have hprobe (normalized : String) (ms : List PathMapping) :
      ((ms.map ofPathMapping).findSome? fun m =>
        (probe lower (serviceType.map Service.value) (serviceConfigId.map Int.ofNat) normalized
          m).map (m, ·)).map Prod.snd =
        mappedProbe serviceType serviceConfigId normalized ms := by
    induction ms with
    | nil => rfl
    | cons m ms ih =>
      rw [List.map_cons, List.findSome?_cons, mappedProbe_cons hempty hvalue, ← ih]
      cases probe lower _ _ normalized (ofPathMapping m) <;> rfl
  simp only [resolve, selection, resolvePath, sorted_ofPathMapping hempty hvalue, ← hprobe]
  by_cases hpath : path = ""
  · simp [hpath]
  · simp only [ne_eq, hpath, not_false_eq_true, true_and]
    cases List.findSome? _ _ with
    | none => rfl
    | some found => rfl

end Services

end PathMappingDict

end MediaMasterr.Filesystem
