import Mathlib.Data.String.Basic
import MediaMasterr.Foundations.Forests
import MediaMasterr.Rules.PathValidation

/-! # The path tree

`get_path_tree`: the directories above the indexed paths, as a forest. A directory is known
by the segments of its text, which no other directory has; the forest is unfolded from the
parent of each directory, along the number of segments. -/

namespace MediaMasterr.Rules

open MediaMasterr.Foundations MediaMasterr.RuleEngine

/-! ## Ancestors -/

/-- `[s for s in text.split("/") if s]`. -/
def segments (text : String) : List String :=
  ((text.toList.splitOn '/').map String.ofList).filter (· ≠ "")

/-- The loop over the segments that puts a slash before each. -/
def extendPath (current : String) : List String → List String
  | [] => []
  | segment :: rest =>
    (current ++ "/" ++ segment) :: extendPath (current ++ "/" ++ segment) rest

/-- `_split_ancestors`. -/
def splitAncestors (py : PythonRuntime) (path : String) : List String :=
  if path = "" then []
  else
    let norm := py.normalizeFpath (.str path) true false
    if norm = "" then []
    else if PythonText.startsWith norm "/" then
      extendPath "" (segments (String.ofList (norm.toList.drop 1)))
    else
      match segments norm with
      | [] => []
      | segment :: rest => segment :: extendPath segment rest

/-! ## The tree -/

/-- `all_paths` and `children`. -/
structure DirectoryLinks where
  allPaths : List String := []
  children : Dict String (List String) := ∅

/-- One round of the loop of `get_path_tree`. -/
def DirectoryLinks.add (py : PythonRuntime) (links : DirectoryLinks) (raw : String) :
    DirectoryLinks :=
  let ancestors := splitAncestors py raw
  if ancestors.isEmpty then links
  else
    let dirAncestors := ancestors.dropLast
    if dirAncestors.isEmpty then links
    else
      { allPaths := Loops.appendMissing links.allPaths dirAncestors
        children := (dirAncestors.zip dirAncestors.tail).foldl
          (fun children link => children.addTo link.1 link.2) links.children }

/-- `sorted` on a set of texts. -/
def sortedTexts (texts : List String) : List String := texts.mergeSort fun a b => decide (a ≤ b)

structure PathNode where
  path : String
  name : String
  deriving DecidableEq, Repr

/-- The entries of a node but its children. -/
def pathNode (path : String) : PathNode :=
  { path := path, name := if lastSegment path = "" then path else lastSegment path }

section Tree

variable (links : DirectoryLinks)

def DirectoryLinks.kids (path : String) : List String := sortedTexts (links.children.setAt path)

def DirectoryLinks.roots : List String :=
  let childSet := links.children.values.flatten
  sortedTexts (links.allPaths.filter (· ∉ childSet))

/-- `build_node`, with fuel for its depth. -/
def buildNode (fuel : Nat) (path : String) : Option (Foundations.Tree PathNode) :=
  Tree.unfold links.kids pathNode fuel path

end Tree

/-- `get_path_tree`, on the media paths that it has collected. -/
def getPathTree (py : PythonRuntime) (mediaPaths : List String) (fuel : Nat) :
    Option (List (Foundations.Tree PathNode)) :=
  let links := mediaPaths.foldl (DirectoryLinks.add py) {}
  links.roots.mapM (buildNode links fuel)

/-! ## Directories -/

/-- The directory that the segments name. -/
def directoryText (absolute : Bool) (segs : List String) : String :=
  String.ofList ((if absolute then ['/'] else []) ++ ['/'].intercalate (segs.map String.toList))

/-- The text of a path whose segments are looked at. -/
def slashedText (py : PythonRuntime) (path : String) : String :=
  py.normalizeFpath (.str path) true false

/-- A directory above one of the paths: some of the first segments of the path, but not all. -/
def IsProperAncestor (py : PythonRuntime) (mediaPaths : List String) (directory : String) : Prop :=
  ∃ path ∈ mediaPaths, ∃ k, 0 < k ∧ k < (segments (slashedText py path)).length ∧
    directory = directoryText (PythonText.startsWith (slashedText py path) "/")
      ((segments (slashedText py path)).take k)

/-- The children of a node are one segment below it, in order. -/
def OneSegmentBelow (parent : PathNode) (children : List PathNode) : Prop :=
  (children.map PathNode.path).Pairwise (· < ·) ∧
    ∀ child ∈ children, ∃ segment, segment ≠ "" ∧ '/' ∉ segment.toList ∧
      child.path = parent.path ++ "/" ++ segment

/-! ## Texts and segments -/

section Segments

variable {segs : List String} {absolute : Bool} {segment text : String}

/-- A segment is not empty and has no slash. -/
def IsSegment (segment : String) : Prop := segment ≠ "" ∧ '/' ∉ segment.toList

theorem isSegment_of_mem_segments (h : segment ∈ segments text) : IsSegment segment := by
  obtain ⟨hmem, hne⟩ := List.mem_filter.mp h
  obtain ⟨cs, hcs, rfl⟩ := List.mem_map.mp hmem
  exact ⟨of_decide_eq_true hne, String.toList_ofList ▸ PythonText.notMem_of_mem_splitOn hcs⟩

/-- The segments of a text that starts with a slash are those after it. -/
theorem segments_drop (h : PythonText.startsWith text "/" = true) :
    segments (String.ofList (text.toList.drop 1)) = segments text := by
  obtain ⟨rest, hrest⟩ := List.isPrefixOf_iff_prefix.mp h
  have htext : text.toList = '/' :: rest := hrest.symm
  have hsplit : ('/' :: rest).splitOn '/' = [] :: rest.splitOn '/' := by
    rw [List.splitOn_cons_eq_if_modifyHead, if_pos (by decide)]
  rw [segments, segments, String.toList_ofList, htext, List.drop_one, List.tail_cons, hsplit,
    List.map_cons, List.filter_cons_of_neg (by decide)]

theorem toList_directoryText : (directoryText absolute segs).toList =
    (if absolute then ['/'] else []) ++ ['/'].intercalate (segs.map String.toList) :=
  String.toList_ofList

/-- The segments of a directory are those that it was made of. -/
theorem segments_directoryText (hne : segs ≠ []) (hsegs : ∀ segment ∈ segs, IsSegment segment) :
    segments (directoryText absolute segs) = segs := by
  have hsplit : (['/'].intercalate (segs.map String.toList)).splitOn '/' =
      segs.map String.toList := by
    refine List.splitOn_intercalate '/' (fun cs hcs => ?_) (by simpa using hne)
    obtain ⟨segment, hsegment, rfl⟩ := List.mem_map.mp hcs
    exact (hsegs segment hsegment).2
  have htexts : (segs.map String.toList).map String.ofList = segs := by
    rw [List.map_map]
    exact (List.map_congr_left fun s _ => String.ofList_toList).trans (List.map_id _)
  have hfilter : segs.filter (· ≠ "") = segs :=
    List.filter_eq_self.mpr fun segment h => decide_eq_true (hsegs segment h).1
  cases absolute with
  | false =>
    rw [segments, toList_directoryText, if_neg Bool.false_ne_true, List.nil_append, hsplit, htexts,
      hfilter]
  | true =>
    rw [segments, toList_directoryText, if_pos rfl, List.singleton_append,
      List.splitOn_cons_eq_if_modifyHead, if_pos (by decide), hsplit, List.map_cons, htexts,
      List.filter_cons_of_neg (by decide), hfilter]

theorem startsWith_directoryText (hne : segs ≠ []) (hsegs : ∀ segment ∈ segs, IsSegment segment) :
    PythonText.startsWith (directoryText absolute segs) "/" = absolute := by
  have hslash : "/".toList = ['/'] := rfl
  rw [PythonText.startsWith, toList_directoryText, hslash]
  cases absolute with
  | true => rfl
  | false =>
    obtain ⟨first, rest, rfl⟩ := List.exists_cons_of_ne_nil hne
    obtain ⟨hfirst, hnoslash⟩ := hsegs first List.mem_cons_self
    obtain ⟨c, cs, hcs⟩ := List.exists_cons_of_ne_nil
      (show first.toList ≠ [] from fun h => hfirst (String.toList_inj.mp h))
    have hc : ('/' == c) = false := by
      rw [beq_eq_false_iff_ne]
      rintro rfl
      exact hnoslash (hcs ▸ List.mem_cons_self)
    cases rest with
    | nil => simp [hcs, List.isPrefixOf, hc]
    | cons second rest =>
      rw [List.map_cons, List.intercalate_cons_of_ne_nil (by simp)]
      simp [hcs, List.isPrefixOf, hc]

/-- Putting one more segment at the end. -/
theorem directoryText_concat (hne : segs ≠ []) (segment : String) :
    directoryText absolute (segs ++ [segment]) =
      directoryText absolute segs ++ "/" ++ segment := by
  have hslash : "/".toList = ['/'] := rfl
  apply String.toList_inj.mp
  rw [String.toList_append, String.toList_append, toList_directoryText, toList_directoryText,
    List.map_append, List.map_singleton, PythonText.intercalate_append (by simpa using hne)
      (by simp), List.intercalate_singleton, hslash]
  simp

theorem directoryText_singleton (segment : String) :
    directoryText false [segment] = segment ∧ directoryText true [segment] = "/" ++ segment := by
  have hslash : "/".toList = ['/'] := rfl
  constructor
  · apply String.toList_inj.mp
    rw [toList_directoryText]
    simp
  · apply String.toList_inj.mp
    rw [toList_directoryText, String.toList_append, hslash]
    simp

end Segments

section Ancestors

variable {py : PythonRuntime} {path : String} {segs : List String} {absolute : Bool}

theorem extendPath_eq {before : List String} (hne : before ≠ []) :
    extendPath (directoryText absolute before) segs =
      (List.range segs.length).map fun i =>
        directoryText absolute (before ++ segs.take (i + 1)) := by
  induction segs generalizing before with
  | nil => rfl
  | cons segment rest ih =>
    rw [extendPath, ← directoryText_concat hne, ih (by simp), List.length_cons,
      List.range_succ_eq_map, List.map_cons, List.map_map]
    simp [Function.comp_def, List.append_assoc]

/-- The ancestors of a path, and the path: its first segments. -/
theorem splitAncestors_eq :
    splitAncestors py path = (List.range (segments (slashedText py path)).length).map fun i =>
      directoryText (PythonText.startsWith (slashedText py path) "/")
        ((segments (slashedText py path)).take (i + 1)) := by
  have hempty : segments "" = [] := by decide
  have hsteps (absolute : Bool) (segment : String) (rest : List String) :
      directoryText absolute [segment] :: extendPath (directoryText absolute [segment]) rest =
        (List.range (segment :: rest).length).map fun i =>
          directoryText absolute ((segment :: rest).take (i + 1)) := by
    rw [extendPath_eq (List.cons_ne_nil _ _), List.length_cons, List.range_succ_eq_map,
      List.map_cons, List.map_map]
    simp [Function.comp_def]
  have hpath : path = "" → slashedText py path = "" := by
    rintro rfl
    rfl
  rw [splitAncestors]
  simp only [← slashedText.eq_def]
  split_ifs with hraw hnorm habsolute
  · rw [hpath hraw, hempty]
    rfl
  · rw [hnorm, hempty]
    rfl
  · rw [segments_drop habsolute, habsolute]
    cases segments (slashedText py path) with
    | nil => rfl
    | cons segment rest =>
      rw [← hsteps, (directoryText_singleton segment).2]
      rfl
  · rw [Bool.not_eq_true] at habsolute
    rw [habsolute]
    cases segments (slashedText py path) with
    | nil => rfl
    | cons segment rest =>
      rw [← hsteps, (directoryText_singleton segment).1]

/-- The directory of the first segments of a path. -/
def directoryAt (py : PythonRuntime) (path : String) (k : Nat) : String :=
  directoryText (PythonText.startsWith (slashedText py path) "/")
    ((segments (slashedText py path)).take k)

theorem dropLast_splitAncestors : (splitAncestors py path).dropLast =
    (List.range ((segments (slashedText py path)).length - 1)).map fun i =>
      directoryAt py path (i + 1) := by
  rw [splitAncestors_eq, List.dropLast_eq_take, List.length_map, List.length_range, ← List.map_take,
    List.take_range, Nat.min_eq_left (Nat.sub_le _ _)]
  rfl

theorem mem_dropLast_splitAncestors {directory : String} :
    directory ∈ (splitAncestors py path).dropLast ↔
      ∃ k, 0 < k ∧ k < (segments (slashedText py path)).length ∧
        directory = directoryAt py path k := by
  rw [dropLast_splitAncestors]
  simp only [List.mem_map, List.mem_range]
  constructor
  · rintro ⟨i, hi, rfl⟩
    exact ⟨i + 1, i.succ_pos, by omega, rfl⟩
  · rintro ⟨k, hpos, hk, rfl⟩
    exact ⟨k - 1, by omega, by rw [Nat.sub_add_cancel hpos]⟩

theorem mem_zip_tail {α : Type*} {l : List α} {a b : α} :
    (a, b) ∈ l.zip l.tail ↔ ∃ i, l[i]? = some a ∧ l[i + 1]? = some b := by
  simp only [List.mem_iff_getElem?, List.getElem?_zip_eq_some, List.getElem?_tail]

theorem mem_links_splitAncestors {parent child : String} :
    (parent, child) ∈ (splitAncestors py path).dropLast.zip (splitAncestors py path).dropLast.tail ↔
      ∃ k, 0 < k ∧ k + 1 < (segments (slashedText py path)).length ∧
        parent = directoryAt py path k ∧ child = directoryAt py path (k + 1) := by
  rw [mem_zip_tail, dropLast_splitAncestors]
  simp only [List.getElem?_map, Option.map_eq_some_iff, List.getElem?_eq_some_iff,
    List.length_range, List.getElem_range]
  constructor
  · rintro ⟨i, ⟨_, ⟨hi, rfl⟩, rfl⟩, _, ⟨hi', rfl⟩, rfl⟩
    exact ⟨i + 1, i.succ_pos, by omega, rfl, rfl⟩
  · rintro ⟨k, hpos, hk, rfl, rfl⟩
    obtain ⟨i, rfl⟩ := Nat.exists_eq_add_of_le' hpos
    exact ⟨i, ⟨i, ⟨by omega, rfl⟩, rfl⟩, i + 1, ⟨by omega, rfl⟩, rfl⟩

end Ancestors

/-! ## The links -/

section Links

variable {py : PythonRuntime} {mediaPaths : List String} {parent child directory : String}

/-- The links of the loop over the media paths. -/
def pathLinks (py : PythonRuntime) (mediaPaths : List String) : DirectoryLinks :=
  mediaPaths.foldl (DirectoryLinks.add py) {}

theorem DirectoryLinks.mem_allPaths_add {links : DirectoryLinks} {raw : String} :
    directory ∈ (links.add py raw).allPaths ↔
      directory ∈ links.allPaths ∨ directory ∈ (splitAncestors py raw).dropLast := by
  unfold DirectoryLinks.add
  dsimp only
  split_ifs with hancestors hdirectories
  · rw [List.isEmpty_iff] at hancestors
    simp [hancestors]
  · rw [List.isEmpty_iff] at hdirectories
    simp [hdirectories]
  · exact Loops.mem_appendMissing

theorem DirectoryLinks.mem_setAt_add {links : DirectoryLinks} {raw : String} :
    child ∈ (links.add py raw).children.setAt parent ↔
      child ∈ links.children.setAt parent ∨ (parent, child) ∈
        (splitAncestors py raw).dropLast.zip (splitAncestors py raw).dropLast.tail := by
  unfold DirectoryLinks.add
  dsimp only
  split_ifs with hancestors hdirectories
  · rw [List.isEmpty_iff] at hancestors
    simp [hancestors]
  · rw [List.isEmpty_iff] at hdirectories
    simp [hdirectories]
  · rw [Dict.mem_setAt_foldl_addTo]
    exact or_comm

theorem pathLinks_concat (raw : String) :
    pathLinks py (mediaPaths ++ [raw]) = (pathLinks py mediaPaths).add py raw :=
  List.foldl_concat ..

theorem mem_allPaths_pathLinks :
    directory ∈ (pathLinks py mediaPaths).allPaths ↔ IsProperAncestor py mediaPaths directory := by
  have hmem : directory ∈ (pathLinks py mediaPaths).allPaths ↔
      ∃ path ∈ mediaPaths, directory ∈ (splitAncestors py path).dropLast := by
    induction mediaPaths using List.reverseRecOn with
    | nil => simp [pathLinks]
    | append_singleton paths raw ih =>
      rw [pathLinks_concat, DirectoryLinks.mem_allPaths_add, ih]
      simp [or_and_right, exists_or]
  simp only [hmem, mem_dropLast_splitAncestors, IsProperAncestor, directoryAt]

/-- One directory is the parent of another one on some path. -/
def IsLink (py : PythonRuntime) (mediaPaths : List String) (parent child : String) : Prop :=
  ∃ path ∈ mediaPaths, ∃ k, 0 < k ∧ k + 1 < (segments (slashedText py path)).length ∧
    parent = directoryAt py path k ∧ child = directoryAt py path (k + 1)

theorem mem_setAt_pathLinks :
    child ∈ (pathLinks py mediaPaths).children.setAt parent ↔
      IsLink py mediaPaths parent child := by
  have hmem : child ∈ (pathLinks py mediaPaths).children.setAt parent ↔
      ∃ path ∈ mediaPaths, (parent, child) ∈
        (splitAncestors py path).dropLast.zip (splitAncestors py path).dropLast.tail := by
    induction mediaPaths using List.reverseRecOn with
    | nil => simp [pathLinks, Dict.setAt]
    | append_singleton paths raw ih =>
      rw [pathLinks_concat, DirectoryLinks.mem_setAt_add, ih]
      simp [or_and_right, exists_or]
  simp only [hmem, mem_links_splitAncestors, IsLink]

theorem nodup_pathLinks : (pathLinks py mediaPaths).allPaths.Nodup ∧
    ∀ parent, ((pathLinks py mediaPaths).children.setAt parent).Nodup := by
  induction mediaPaths using List.reverseRecOn with
  | nil => exact ⟨List.nodup_nil, fun _ => List.nodup_nil⟩
  | append_singleton paths raw ih =>
    rw [pathLinks_concat]
    unfold DirectoryLinks.add
    dsimp only
    split_ifs
    · exact ih
    · exact ih
    · exact ⟨Loops.nodup_appendMissing ih.1, Dict.nodup_setAt_foldl_addTo _ ih.2⟩

/-! ## Parents and ranks -/

/-- The number of segments of a directory. -/
def depth (directory : String) : Nat := (segments directory).length

section Directories

variable {path : String} {k : Nat}

theorem segments_directoryAt (hpos : 0 < k) (hk : k < (segments (slashedText py path)).length) :
    segments (directoryAt py path k) = (segments (slashedText py path)).take k ∧
      PythonText.startsWith (directoryAt py path k) "/" =
        PythonText.startsWith (slashedText py path) "/" := by
  have hne : (segments (slashedText py path)).take k ≠ [] := by
    rw [ne_eq, List.take_eq_nil_iff, not_or]
    exact ⟨Nat.ne_of_gt hpos, List.ne_nil_of_length_pos (Nat.lt_of_le_of_lt (Nat.zero_le _) hk)⟩
  have hsegs : ∀ segment ∈ (segments (slashedText py path)).take k, IsSegment segment :=
    fun segment h => isSegment_of_mem_segments (List.mem_of_mem_take h)
  exact ⟨segments_directoryText hne hsegs, startsWith_directoryText hne hsegs⟩

theorem depth_directoryAt (hpos : 0 < k) (hk : k < (segments (slashedText py path)).length) :
    depth (directoryAt py path k) = k := by
  rw [depth, (segments_directoryAt hpos hk).1, List.length_take, Nat.min_eq_left hk.le]

/-- The directory without its last segment. -/
def parentText (directory : String) : String :=
  directoryText (PythonText.startsWith directory "/") (segments directory).dropLast

theorem parentText_directoryAt (hk : k + 1 < (segments (slashedText py path)).length) :
    parentText (directoryAt py path (k + 1)) = directoryAt py path k := by
  obtain ⟨hsegments, hstarts⟩ := segments_directoryAt k.succ_pos hk
  have htake : ((segments (slashedText py path)).take (k + 1)).dropLast =
      (segments (slashedText py path)).take k := by
    rw [List.dropLast_eq_take, List.length_take, Nat.min_eq_left hk.le, Nat.add_sub_cancel,
      List.take_take, Nat.min_eq_left k.le_succ]
  rw [parentText, hsegments, hstarts, htake]
  rfl

/-- A child is its parent and one more segment. -/
theorem directoryAt_succ (hpos : 0 < k) (hk : k + 1 < (segments (slashedText py path)).length) :
    ∃ segment, IsSegment segment ∧
      directoryAt py path (k + 1) = directoryAt py path k ++ "/" ++ segment := by
  have hne : (segments (slashedText py path)).take k ≠ [] := by
    rw [ne_eq, List.take_eq_nil_iff, not_or]
    exact ⟨Nat.ne_of_gt hpos, List.ne_nil_of_length_pos (Nat.lt_of_le_of_lt (Nat.zero_le _) hk)⟩
  refine ⟨(segments (slashedText py path))[k], isSegment_of_mem_segments (List.getElem_mem _), ?_⟩
  rw [directoryAt, directoryAt, ← directoryText_concat hne, List.take_concat_get']

end Directories

theorem isProperAncestor_of_isLink (h : IsLink py mediaPaths parent child) :
    IsProperAncestor py mediaPaths child := by
  obtain ⟨path, hpath, k, -, hk, -, rfl⟩ := h
  exact ⟨path, hpath, k + 1, k.succ_pos, hk, rfl⟩

theorem depth_of_isLink (h : IsLink py mediaPaths parent child) :
    depth child = depth parent + 1 := by
  obtain ⟨path, -, k, hpos, hk, rfl, rfl⟩ := h
  rw [depth_directoryAt k.succ_pos hk, depth_directoryAt hpos (Nat.lt_of_succ_lt hk)]

theorem parentText_of_isLink (h : IsLink py mediaPaths parent child) :
    parentText child = parent := by
  obtain ⟨path, -, k, -, hk, rfl, rfl⟩ := h
  exact parentText_directoryAt hk

/-- A directory with several segments is the child of another one. -/
theorem isLink_of_depth (h : IsProperAncestor py mediaPaths directory)
    (hdepth : depth directory ≠ 1) :
    IsProperAncestor py mediaPaths (parentText directory) ∧
      IsLink py mediaPaths (parentText directory) directory := by
  obtain ⟨path, hpath, k, hpos, hk, heq⟩ := h
  rw [← directoryAt] at heq
  rw [heq, depth_directoryAt hpos hk] at hdepth
  obtain ⟨j, rfl⟩ := Nat.exists_eq_add_of_le' hpos
  have hj : 0 < j := by omega
  rw [heq, parentText_directoryAt hk]
  exact ⟨⟨path, hpath, j, hj, by omega, rfl⟩, ⟨path, hpath, j, hj, hk, rfl, rfl⟩⟩

/-! ## The forest -/

theorem sortedTexts_perm (texts : List String) : (sortedTexts texts).Perm texts :=
  List.mergeSort_perm _ _

/-- The members of a set, sorted. -/
theorem pairwise_sortedTexts {texts : List String} (h : texts.Nodup) :
    (sortedTexts texts).Pairwise (· < ·) := by
  have hle : (sortedTexts texts).Pairwise (· ≤ ·) := by
    refine (List.pairwise_mergeSort (fun a b c hab hbc => ?_) (fun a b => ?_) texts).imp
      fun h => of_decide_eq_true h
    · exact decide_eq_true ((of_decide_eq_true hab).trans (of_decide_eq_true hbc))
    · rw [Bool.or_eq_true, decide_eq_true_eq, decide_eq_true_eq]
      exact le_total a b
  exact (List.pairwise_and_iff.mpr ⟨hle, (sortedTexts_perm texts).nodup_iff.mpr h⟩).imp
    fun ⟨hle, hne⟩ => lt_of_le_of_ne hle hne

theorem mem_kids_pathLinks :
    child ∈ (pathLinks py mediaPaths).kids parent ↔ IsLink py mediaPaths parent child := by
  rw [DirectoryLinks.kids, (sortedTexts_perm _).mem_iff, mem_setAt_pathLinks]

theorem mem_roots_pathLinks :
    directory ∈ (pathLinks py mediaPaths).roots ↔
      IsProperAncestor py mediaPaths directory ∧ depth directory = 1 := by
  have hchild : directory ∈ (pathLinks py mediaPaths).children.values.flatten ↔
      ∃ parent, IsLink py mediaPaths parent directory := by
    simp only [← mem_setAt_pathLinks, List.mem_flatten, Dict.mem_values_iff, Dict.setAt]
    constructor
    · rintro ⟨kids, ⟨parent, hget⟩, hmem⟩
      exact ⟨parent, by rwa [hget]⟩
    · rintro ⟨parent, hmem⟩
      cases hget : (pathLinks py mediaPaths).children.get? parent with
      | none =>
        rw [hget] at hmem
        cases hmem
      | some kids => exact ⟨kids, ⟨parent, hget⟩, by rwa [hget] at hmem⟩
  rw [DirectoryLinks.roots, (sortedTexts_perm _).mem_iff, List.mem_filter, decide_eq_true_eq,
    hchild, mem_allPaths_pathLinks]
  refine and_congr_right fun hancestor => ⟨fun hroot => ?_, ?_⟩
  · by_contra hdepth
    exact hroot ⟨_, (isLink_of_depth hancestor hdepth).2⟩
  · rintro hdepth ⟨parent, path, -, k, hpos, hk, -, rfl⟩
    rw [depth_directoryAt k.succ_pos hk] at hdepth
    omega

/-- Every directory is below a root. -/
theorem mem_reach_roots {fuel : Nat}
    (hfuel : ∀ directory, IsProperAncestor py mediaPaths directory → depth directory ≤ fuel)
    (h : IsProperAncestor py mediaPaths directory) :
    directory ∈ (pathLinks py mediaPaths).roots.flatMap
      (Tree.reach (pathLinks py mediaPaths).kids fuel) := by
  have hstep (a k : String) (hk : k ∈ (pathLinks py mediaPaths).kids a) : depth k = depth a + 1 :=
    depth_of_isLink (mem_kids_pathLinks.mp hk)
  induction hdepth : depth directory generalizing directory with
  | zero =>
    obtain ⟨path, -, k, hpos, hk, rfl⟩ := h
    exact absurd ((depth_directoryAt hpos hk).symm.trans hdepth) (Nat.ne_of_gt hpos)
  | succ n ih =>
    have hle := hfuel directory h
    by_cases hroot : depth directory = 1
    · refine List.mem_flatMap.mpr ⟨directory, mem_roots_pathLinks.mpr ⟨h, hroot⟩, ?_⟩
      cases fuel with
      | zero => omega
      | succ fuel => exact List.mem_cons_self
    · obtain ⟨hparent, hlink⟩ := isLink_of_depth h hroot
      have hrank := depth_of_isLink hlink
      obtain ⟨root, hrootMem, hreach⟩ := List.mem_flatMap.mp (ih hparent (by omega))
      refine List.mem_flatMap.mpr ⟨root, hrootMem,
        Tree.mem_reach_of_mem_kids hstep hreach (mem_kids_pathLinks.mpr hlink) ?_⟩
      rw [(mem_roots_pathLinks.mp hrootMem).2]
      omega

theorem oneSegmentBelow_of_byLabel {v : PathNode} {vs : List PathNode}
    (h : Tree.ByLabel (pathLinks py mediaPaths).kids pathNode v vs) : OneSegmentBelow v vs := by
  obtain ⟨parent, rfl, rfl⟩ := h
  have hpaths : ((pathLinks py mediaPaths).kids parent).map (PathNode.path ∘ pathNode) =
      (pathLinks py mediaPaths).kids parent :=
    List.map_id _
  constructor
  · rw [List.map_map, hpaths]
    exact pairwise_sortedTexts (nodup_pathLinks.2 parent)
  · intro child hchild
    obtain ⟨path, hpath, rfl⟩ := List.mem_map.mp hchild
    obtain ⟨raw, -, k, hpos, hk, rfl, rfl⟩ := mem_kids_pathLinks.mp hpath
    obtain ⟨segment, ⟨hne, hslash⟩, heq⟩ := directoryAt_succ hpos hk
    exact ⟨segment, hne, hslash, heq⟩

/-- The forest holds the directories above the media paths, each once, below its parent and in
order; with enough fuel it is built. -/
theorem getPathTree_correct (py : PythonRuntime) (mediaPaths : List String) :
    ∃ forest, (∃ enough, ∀ fuel ≥ enough, getPathTree py mediaPaths fuel = some forest) ∧
      (∀ directory, directory ∈ (Tree.valuesOf forest).map PathNode.path ↔
        IsProperAncestor py mediaPaths directory) ∧
      ((Tree.valuesOf forest).map PathNode.path).Nodup ∧
      (forest.map fun tree => tree.value.path).Pairwise (· < ·) ∧
      ∀ tree ∈ forest, tree.Everywhere OneSegmentBelow := by
  have hrank (a k : String) (hk : k ∈ (pathLinks py mediaPaths).kids a) : depth k = depth a + 1 :=
    depth_of_isLink (mem_kids_pathLinks.mp hk)
  obtain ⟨bound, hbound⟩ := Tree.exists_rank_bound depth (pathLinks py mediaPaths).allPaths
  simp only [mem_allPaths_pathLinks] at hbound
  have hbuilt : ∃ forest, getPathTree py mediaPaths bound = some forest ∧
      Tree.Unfolds (pathLinks py mediaPaths).kids pathNode bound (pathLinks py mediaPaths).roots
        forest :=
    Tree.exists_mapM_unfold hrank
      (fun a k hk => hbound k (isProperAncestor_of_isLink (mem_kids_pathLinks.mp hk)))
      (fun a ha => hbound a (mem_roots_pathLinks.mp ha).1) le_rfl
  obtain ⟨forest, hforest, hunfolds⟩ := hbuilt
  have hpaths : (Tree.valuesOf forest).map PathNode.path =
      (pathLinks py mediaPaths).roots.flatMap
        (Tree.reach (pathLinks py mediaPaths).kids bound) := by
    rw [hunfolds.values_all, List.map_map]
    exact List.map_id _
  have hroots : (pathLinks py mediaPaths).roots.Pairwise (· < ·) :=
    pairwise_sortedTexts (nodup_pathLinks.1.filter _)
  refine ⟨forest, ⟨bound, fun fuel hfuel => ?_⟩, fun directory => ?_, ?_, ?_, fun tree htree =>
    (hunfolds.everywhere tree htree).imp fun _ _ => oneSegmentBelow_of_byLabel⟩
  · exact Tree.mapM_imp (fun _ _ => Tree.unfold_mono hfuel) hforest
  · rw [hpaths]
    refine ⟨fun hmem => ?_, mem_reach_roots fun d hd => (hbound d hd).le⟩
    obtain ⟨root, hroot, hreach⟩ := List.mem_flatMap.mp hmem
    exact Tree.reach_invariant (P := IsProperAncestor py mediaPaths)
      (fun a _ k hk => isProperAncestor_of_isLink (mem_kids_pathLinks.mp hk))
      (mem_roots_pathLinks.mp hroot).1 hreach
  · rw [hpaths]
    refine Tree.nodup_flatMap_reach hrank
      (fun a => (sortedTexts_perm _).nodup_iff.mpr (nodup_pathLinks.2 a)) (fun a b k ha hb => ?_)
      (hroots.imp ne_of_lt) fun a ha => (mem_roots_pathLinks.mp ha).2
    rw [← parentText_of_isLink (mem_kids_pathLinks.mp ha),
      parentText_of_isLink (mem_kids_pathLinks.mp hb)]
  · have hvalues : forest.map (fun tree => tree.value.path) = (pathLinks py mediaPaths).roots := by
      have hmap := congrArg (List.map PathNode.path) hunfolds.values_roots
      rw [List.map_map, List.map_map] at hmap
      exact hmap.trans (List.map_id _)
    rw [hvalues]
    exact hroots

end Links

end MediaMasterr.Rules
