import MediaMasterr.Foundations.Doubles
import MediaMasterr.Foundations.LongestMatch

/-! # Disk statistics

`DiskStatsResolver._resolve_arr` looks a media path up among the disks that Radarr and
Sonarr report. The disks are searched from the longest raw path to the shortest, and a
raw path may be longer than the mount that it names: with one trailing slash at most the
first match is still the longest mount above the path. -/

namespace MediaMasterr.RuleEngine

open MediaMasterr.Foundations

/-- An entry of the `/diskspace` answers. -/
structure DiskEntry where
  path : Option String := none
  freeSpace : Option Nat := none
  totalSpace : Option Nat := none
  deriving DecidableEq, Repr

namespace DiskEntry

variable (entry : DiskEntry)

/-- `str(entry.get("path") or "")` -/
def rawPath : String := entry.path.getD ""

def slashedPath : String := PythonText.replaceChar '\\' '/' entry.rawPath

/-- The normalised path of an entry that has one. -/
def mount : Option String :=
  if entry.slashedPath = "" then none
  else
    let bare := PythonText.rstrip '/' entry.slashedPath
    some (if bare = "" then "/" else bare)

/-- The free bytes, and the share of the disk that they are. -/
def stats : Nat × ℚ :=
  let free := entry.freeSpace.getD 0
  let total := entry.totalSpace.getD 0
  (free, if total = 0 then 0 else Doubles.round (Doubles.round ((free : ℚ) / total) * 100))

end DiskEntry

/-- The entries of a resolver are sorted by the lengths of their paths. -/
structure DiskStatsResolver where
  arrEntries : List DiskEntry

namespace DiskStatsResolver

def longerPath (a b : DiskEntry) : Bool := b.rawPath.length ≤ a.rawPath.length

/-- `DiskStatsResolver(arr_entries=…)`. -/
def init (arrEntries : List DiskEntry) : DiskStatsResolver := ⟨arrEntries.mergeSort longerPath⟩

/-- The tests of the loop for an entry that has a path. -/
def mountMatches (path mount : String) : Bool :=
  if mount = "/" then PythonText.startsWith path "/"
  else path == mount || PythonText.startsWith path (mount ++ "/")

/-- `_resolve_arr`. -/
def resolveArr (resolver : DiskStatsResolver) (path : String) : Option (Nat × ℚ) :=
  let norm := PythonText.replaceChar '\\' '/' path
  resolver.arrEntries.findSome? fun entry =>
    (entry.mount.filter (mountMatches norm)).map fun _ => entry.stats

end DiskStatsResolver

/-! ## Mounts above a path -/

/-- The components of the mount begin those of the path; `/` is above the absolute paths. -/
def IsMountOf (mount path : String) : Prop :=
  if mount = "/" then ['/'] <+: path.toList else IsRootOf '/' mount.toList path.toList

instance (mount path : String) : Decidable (IsMountOf mount path) :=
  inferInstanceAs (Decidable (ite _ _ _))

/-- The path of an entry, with either separator, ends in one slash at most. -/
def DiskEntry.EndsPlainly (entry : DiskEntry) : Prop := ¬['/', '/'] <:+ entry.slashedPath.toList

instance (entry : DiskEntry) : Decidable entry.EndsPlainly := inferInstanceAs (Decidable (¬_))

/-- What is found for a path is told by a longest mount above it, and nothing is found exactly when
there is none. -/
structure FindsLongestMount (entries : List DiskEntry) (path : String)
    (found : Option (Nat × ℚ)) : Prop where
  longest : ∀ stats, found = some stats → ∃ entry ∈ entries, entry.stats = stats ∧
    ∃ mount, entry.mount = some mount ∧ IsMountOf mount path ∧
      ∀ entry' ∈ entries, ∀ mount', entry'.mount = some mount' → IsMountOf mount' path →
        mount'.length ≤ mount.length
  absent : found = none ↔ ∀ entry ∈ entries, ∀ mount, entry.mount = some mount → ¬IsMountOf mount path

section

variable {entry : DiskEntry} {entries : List DiskEntry} {mount mount' path : String}

theorem mountMatches_iff : DiskStatsResolver.mountMatches path mount = true ↔ IsMountOf mount path := by
  have hseparator : (mount ++ "/").toList = mount.toList ++ ['/'] := by simp
  rw [DiskStatsResolver.mountMatches, IsMountOf]
  split_ifs
  · rw [PythonText.startsWith, List.isPrefixOf_iff_prefix]
    rfl
  · rw [Bool.or_eq_true, beq_iff_eq, PythonText.startsWith, List.isPrefixOf_iff_prefix, hseparator,
      isRootOf_iff, String.toList_inj]

theorem length_slashedPath : entry.slashedPath.length = entry.rawPath.length := by
  rw [DiskEntry.slashedPath, PythonText.replaceChar, String.length_ofList, List.length_map,
    String.length_toList]

/-- Of a plain path at most one slash is stripped. -/
theorem length_rstrip (hplain : entry.EndsPlainly) :
    entry.rawPath.length ≤ (PythonText.rstrip '/' entry.slashedPath).length + 1 := by
  rw [← length_slashedPath, PythonText.rstrip, PythonText.rstripWhere_eq, String.length_ofList,
    ← String.length_toList]
  have hsplit := List.rdropWhile_append_rtakeWhile (p := (· == '/')) (l := entry.slashedPath.toList)
  have hslashes := List.eq_replicate_of_mem fun c (hc : c ∈ entry.slashedPath.toList.rtakeWhile (· == '/')) =>
    show c = '/' by simpa using List.mem_rtakeWhile_imp hc
  rw [← congrArg List.length hsplit, List.length_append]
  by_contra hlong
  obtain ⟨k, hk⟩ := Nat.exists_eq_add_of_le
    (show 2 ≤ (entry.slashedPath.toList.rtakeWhile (· == '/')).length by omega)
  refine hplain ⟨entry.slashedPath.toList.rdropWhile (· == '/') ++ List.replicate k '/', ?_⟩
  have htwo : ['/', '/'] = List.replicate 2 '/' := rfl
  rw [htwo, List.append_assoc, List.replicate_append_replicate, Nat.add_comm, ← hk, ← hslashes, hsplit]

/-- A mount has no trailing slash, and the raw path of its entry has one more character at most;
only `/` itself is a slash. -/
theorem mount_eq_some (hplain : entry.EndsPlainly) (h : entry.mount = some mount) :
    mount = "/" ∧ entry.rawPath.length = 1 ∨
      mount ≠ "/" ∧ mount.toList.getLast? ≠ some '/' ∧ 0 < mount.length ∧
        mount.length ≤ entry.rawPath.length ∧ entry.rawPath.length ≤ mount.length + 1 := by
  have hlong := length_rstrip hplain
  rw [DiskEntry.mount, Option.ite_none_left_eq_some] at h
  obtain ⟨hpath, hmount⟩ := h
  simp only [Option.some.injEq] at hmount
  split_ifs at hmount with hbare
  · refine .inl ⟨hmount.symm, ?_⟩
    have hpositive : entry.slashedPath.length ≠ 0 := fun hzero => hpath (String.length_eq_zero_iff.mp hzero)
    rw [length_slashedPath] at hpositive
    rw [hbare] at hlong
    simp only [String.length_empty] at hlong
    omega
  · subst hmount
    have hlast := PythonText.getLast?_rstrip '/' entry.slashedPath
    refine .inr ⟨fun hslash => ?_, hlast, ?_, ?_, hlong⟩
    · rw [hslash] at hlast
      exact hlast rfl
    · exact Nat.pos_of_ne_zero fun hzero => hbare (String.length_eq_zero_iff.mp hzero)
    · rw [← length_slashedPath, ← String.length_toList, ← String.length_toList, PythonText.rstrip,
        String.toList_ofList, PythonText.rstripWhere_eq]
      exact (List.rdropWhile_prefix _ _).length_le

/-- Of two mounts above a path the one with the longer raw path is the longer one. -/
theorem length_mount_le {entry' : DiskEntry} (hplain : entry.EndsPlainly) (hplain' : entry'.EndsPlainly)
    (hmount : entry.mount = some mount) (hmount' : entry'.mount = some mount')
    (habove : IsMountOf mount path) (habove' : IsMountOf mount' path)
    (hlonger : entry'.rawPath.length ≤ entry.rawPath.length) : mount'.length ≤ mount.length := by
  rcases mount_eq_some hplain hmount with ⟨rfl, hone⟩ | ⟨hroot, -, hpositive, -, hlong⟩
  · rcases mount_eq_some hplain' hmount' with ⟨rfl, -⟩ | ⟨-, -, -, hle, -⟩
    · exact Nat.le_refl _
    · exact (hle.trans hlonger).trans hone.le
  · rcases mount_eq_some hplain' hmount' with ⟨rfl, -⟩ | ⟨hroot', hlast', -, hle', -⟩
    · exact hpositive
    · rw [IsMountOf, if_neg hroot] at habove
      rw [IsMountOf, if_neg hroot'] at habove'
      by_contra hlt
      rw [← String.length_toList, ← String.length_toList, Nat.not_le] at hlt
      have hgap := habove.add_two_le habove' hlast' hlt
      rw [String.length_toList, String.length_toList] at hgap
      omega

theorem longerPath_iff (a b : DiskEntry) :
    DiskStatsResolver.longerPath a b = true ↔ b.rawPath.length ≤ a.rawPath.length :=
  decide_eq_true_iff

theorem match_eq_some_iff {stats : Nat × ℚ} :
    ((entry.mount.filter (DiskStatsResolver.mountMatches path)).map fun _ => entry.stats) = some stats ↔
      entry.stats = stats ∧ ∃ mount, entry.mount = some mount ∧ IsMountOf mount path := by
  rw [Option.map_eq_some_iff]
  simp only [Option.filter_eq_some_iff, mountMatches_iff]
  exact ⟨fun ⟨mount, hmount, hstats⟩ => ⟨hstats, mount, hmount⟩,
    fun ⟨hstats, mount, hmount⟩ => ⟨mount, hmount, hstats⟩⟩

/-- The lookup finds a longest mount above the path, with backslashes read as slashes. -/
theorem resolveArr_findsLongestMount (entries : List DiskEntry) (path : String)
    (hplain : ∀ entry ∈ entries, entry.EndsPlainly) :
    FindsLongestMount entries (PythonText.replaceChar '\\' '/' path)
      ((DiskStatsResolver.init entries).resolveArr path) := by
  constructor
  · intro stats hstats
    obtain ⟨entry, hentry, hmatch, hlongest⟩ := exists_of_findSome?_mergeSort longerPath_iff hstats
    obtain ⟨hsame, mount, hmount, habove⟩ := match_eq_some_iff.mp hmatch
    refine ⟨entry, hentry, hsame, mount, hmount, habove, fun entry' hentry' mount' hmount' habove' => ?_⟩
    refine length_mount_le (hplain entry hentry) (hplain entry' hentry') hmount hmount' habove habove' ?_
    refine hlongest entry' hentry' ?_
    exact Option.isSome_iff_exists.mpr ⟨_, match_eq_some_iff.mpr ⟨rfl, mount', hmount', habove'⟩⟩
  · refine findSome?_mergeSort_eq_none_iff.trans (forall₂_congr fun entry _ => ?_)
    rw [Option.eq_none_iff_forall_ne_some]
    constructor
    · exact fun h mount hmount habove => h _ (match_eq_some_iff.mpr ⟨rfl, mount, hmount, habove⟩)
    · intro h stats hstats
      obtain ⟨-, mount, hmount, habove⟩ := match_eq_some_iff.mp hstats
      exact h mount hmount habove

end

/-- Two nested disks, the outer one with a trailing slash. -/
def nestedDisks : List DiskEntry :=
  [⟨some "/mnt/a/", some 1, some 4⟩, ⟨some "/mnt/a/b", some 1, some 2⟩, ⟨some "/", some 0, some 1⟩]

/-- A path on the inner disk gets a longest mount of the three. -/
theorem resolveArr_nestedDisks : FindsLongestMount nestedDisks "/mnt/a/b/film.mkv"
    ((DiskStatsResolver.init nestedDisks).resolveArr "\\mnt\\a/b/film.mkv") := by
  have hfinds := resolveArr_findsLongestMount nestedDisks "\\mnt\\a/b/film.mkv" (by decide +kernel)
  have hpath : PythonText.replaceChar '\\' '/' "\\mnt\\a/b/film.mkv" = "/mnt/a/b/film.mkv" := by decide
  rwa [hpath] at hfinds

end MediaMasterr.RuleEngine
