import Mathlib.Data.List.Infix
import MediaMasterr.Foundations.FileTrees
import MediaMasterr.Filesystem.Paths

/-! # A media file and its siblings

`sibling_cleanup`, `_move_single_file` and `move_media`, on a disk whose
operations may fail: what is removed or moved are the files of one directory
with one stem. Paths are taken as the disk names its files, without `..`. -/

namespace MediaMasterr.Filesystem

open MediaMasterr.Foundations

/-- `PurePath.stem`, of a name: what is before the last dot, unless the dot is the first or the
last character. -/
def stemOf (name : String) : String :=
  let chars := name.toList
  let suffix := (chars.reverse.takeWhile (· ≠ '.')).length
  if suffix = 0 ∨ chars.length ≤ suffix + 1 then name
  else String.ofList (chars.take (chars.length - suffix - 1))

namespace LocalPath

variable (p : LocalPath)

/-- `PurePath.name`. -/
def name : String := p.parts.getLast?.getD ""

/-- `PurePath.stem`. -/
def stem : String := stemOf p.name

/-- `PurePath.parent`: that of a root is the root. -/
def parent : LocalPath := { p with parts := p.parts.dropLast }

/-- `p / name`. -/
def child (name : String) : LocalPath := { p with parts := p.parts ++ [name] }

/-- The directory that a path is listed in; none for a root. -/
def directory : Option LocalPath := if p.parts = [] then none else some p.parent

/-- The path, and the directories above it. -/
def withParents : List LocalPath := p.parts.inits.map fun parts => { p with parts }

variable {p}

theorem directory_eq_some_iff {d : LocalPath} :
    p.directory = some d ↔ p.parts ≠ [] ∧ p.parent = d := by
  unfold directory
  split_ifs with h <;> simp [h]

theorem parent_of_directory {d : LocalPath} (h : p.directory = some d) : p.parent = d :=
  (directory_eq_some_iff.mp h).2

theorem withParents_closed : ∀ d ∈ p.withParents, ∀ d', d.directory = some d' →
    d' ∈ p.withParents := by
  intro d hd d' hdirectory
  obtain ⟨parts, hparts, rfl⟩ := List.mem_map.mp hd
  rw [← parent_of_directory hdirectory]
  refine List.mem_map.mpr ⟨parts.dropLast, ?_, rfl⟩
  rw [List.mem_inits] at hparts ⊢
  exact (List.dropLast_prefix parts).trans hparts

end LocalPath

/-- The files and directories of a disk. -/
abbrev Disk := FileTree LocalPath.directory

/-- The probes of `Path.exists`, `Path.is_dir` and `Path.iterdir`. -/
def view (disk : Disk) : DiskView where
  pathExists p := p ∈ disk.files ∨ p ∈ disk.dirs
  isDir p := p ∈ disk.dirs
  iterdir p := (disk.entries p).map LocalPath.name

/-- The files have one directory and one stem. -/
def Siblings (p q : LocalPath) : Prop := q.parent = p.parent ∧ q.stem = p.stem

instance (p q : LocalPath) : Decidable (Siblings p q) := inferInstanceAs (Decidable (_ ∧ _))

/-- Which operations of a disk do not raise. -/
structure DiskAccess where
  unlinks : LocalPath → Bool := fun _ => true
  lists : LocalPath → Bool := fun _ => true
  rmdirs : LocalPath → Bool := fun _ => true
  mkdirs : LocalPath → Bool := fun _ => true
  renames : LocalPath → LocalPath → Bool := fun _ _ => true
  copies : LocalPath → LocalPath → Bool := fun _ _ => true
  verifies : LocalPath → LocalPath → Bool := fun _ _ => true

namespace DiskAccess

variable (access : DiskAccess)

/-- `parent.rmdir()`, when the directory lists nothing. -/
def removeIfEmpty (disk : Disk) (d : LocalPath) : Disk :=
  if access.lists d ∧ access.rmdirs d then disk.rmdir d else disk

/-- `sibling_cleanup`. -/
def siblingCleanup (disk : Disk) (localPath : LocalPath) : Disk :=
  let parent := localPath.parent
  if parent ∈ disk.dirs ∧ access.lists parent then
    access.removeIfEmpty
      ((disk.entries parent).foldl (fun cleaned f =>
        if f ∈ disk.files ∧ f.stem = localPath.stem ∧ access.unlinks f then cleaned.unlink f
        else cleaned) disk)
      parent
  else disk

/-- `_move_single_file`: the disk afterwards, and the destination unless it raises. A copy
onto a directory lands in it. -/
def moveSingleFile (disk : Disk) (src destinationRoot : LocalPath) : Disk × Option LocalPath :=
  let dest := destinationRoot.child src.name
  if destinationRoot ∉ disk.dirs then (disk, none)
  else if access.renames src dest ∧ dest ∉ disk.dirs then
    (if src = dest then disk else (disk.addFile dest).unlink src, some dest)
  else if src = dest ∨ !access.copies src dest then (disk, none)
  else
    let copied := disk.addFile (if dest ∈ disk.dirs then dest.child src.name else dest)
    if !access.verifies src dest then
      (if dest ∈ disk.dirs ∨ !access.unlinks dest then copied else copied.unlink dest, none)
    else if access.unlinks src then (copied.unlink src, some dest)
    else (copied, none)

/-- What `move_media` has done so far: the disk, and the moves with their destinations. -/
structure MoveState where
  disk : Disk
  moved : List (LocalPath × LocalPath) := []

/-- A move that is recorded when it succeeds. -/
def moveStep (destinationRoot : LocalPath) (s : MoveState) (src : LocalPath) : MoveState :=
  match access.moveSingleFile s.disk src destinationRoot with
  | (disk, some dest) => { disk, moved := s.moved ++ [(src, dest)] }
  | (disk, none) => { s with disk }

/-- One entry of the directory in the loop of `move_media`. -/
def siblingStep (stem : String) (destinationRoot : LocalPath) (s : MoveState) (f : LocalPath) :
    MoveState :=
  if f ∈ s.disk.files ∧ f.stem = stem then access.moveStep destinationRoot s f else s

/-- `destination_root.mkdir(parents=True, exist_ok=True)`. -/
def withRoot (disk : Disk) (destinationRoot : LocalPath) : Disk :=
  disk.addDirs destinationRoot.withParents LocalPath.withParents_closed

/-- `move_media` of a file: the destination, unless it raises, and what it has done. -/
def moveMedia (disk : Disk) (src destinationRoot : LocalPath) : Option LocalPath × MoveState :=
  if !access.mkdirs destinationRoot then (none, { disk })
  else
    let first := access.moveStep destinationRoot { disk := withRoot disk destinationRoot } src
    let dest := first.moved.head?.map Prod.snd
    if dest = none ∨ src.parent ∉ first.disk.dirs then (dest, first)
    else if !access.lists src.parent then (none, first)
    else
      let last := (first.disk.entries src.parent).foldl
        (access.siblingStep src.stem destinationRoot) first
      (dest, { last with disk := access.removeIfEmpty last.disk src.parent })

/-- A file can be deleted: its directory can be listed, and it can be unlinked. -/
def Deletes (f : LocalPath) : Prop := access.lists f.parent = true ∧ access.unlinks f = true

/-- `_move_single_file` succeeds, on a disk with these directories. -/
def Moves (dirs : List LocalPath) (src destinationRoot : LocalPath) : Prop :=
  let dest := destinationRoot.child src.name
  destinationRoot ∈ dirs ∧ ((access.renames src dest = true ∧ dest ∉ dirs) ∨
    (src ≠ dest ∧ access.copies src dest = true ∧ access.verifies src dest = true ∧
      access.unlinks src = true))

/-- `move_media` of the first file moves the second: it is the same, or a sibling in a directory
that can be listed, and what is moved can be moved. -/
def MovesAlong (disk : Disk) (destinationRoot p q : LocalPath) : Prop :=
  access.mkdirs destinationRoot = true ∧
    access.Moves (withRoot disk destinationRoot).dirs p destinationRoot ∧
    (q = p ∨ Siblings p q ∧ access.lists p.parent = true ∧
      access.Moves (withRoot disk destinationRoot).dirs q destinationRoot)

end DiskAccess

variable {access : DiskAccess} {disk : Disk} {p q f d : LocalPath}

theorem directory_of_mem_files (h : f ∈ disk.files) : f.directory = some f.parent := by
  obtain ⟨d, -, hd⟩ := disk.file_parent f h
  rw [hd, LocalPath.parent_of_directory hd]

theorem parent_mem_dirs (h : f ∈ disk.files) : f.parent ∈ disk.dirs := by
  obtain ⟨d, hmem, hd⟩ := disk.file_parent f h
  exact LocalPath.parent_of_directory hd ▸ hmem

@[simp] theorem files_removeIfEmpty : (access.removeIfEmpty disk d).files = disk.files := by
  unfold DiskAccess.removeIfEmpty
  split_ifs <;> simp

theorem mem_dirs_of_removeIfEmpty (h : q ∈ (access.removeIfEmpty disk d).dirs) :
    q ∈ disk.dirs := by
  unfold DiskAccess.removeIfEmpty at h
  split_ifs at h
  · exact FileTree.mem_dirs_of_rmdir h
  · exact h

/-- The clean-up deletes the siblings of the path that can be deleted, and nothing else. -/
theorem mem_files_siblingCleanup : f ∈ (access.siblingCleanup disk p).files ↔
    f ∈ disk.files ∧ ¬(Siblings p f ∧ access.Deletes f) := by
  unfold DiskAccess.siblingCleanup
  dsimp only
  split_ifs with hlisted
  · rw [files_removeIfEmpty, FileTree.mem_files_foldl_unlink]
    refine and_congr_right fun hf => not_congr ?_
    simp only [FileTree.mem_entries, directory_of_mem_files hf, hf, Option.some.injEq,
      Siblings, DiskAccess.Deletes, true_or, true_and]
    constructor
    · rintro ⟨hparent, hstem, hunlinks⟩
      exact ⟨⟨hparent, hstem⟩, hparent ▸ hlisted.2, hunlinks⟩
    · rintro ⟨⟨hparent, hstem⟩, -, hunlinks⟩
      exact ⟨hparent, hstem, hunlinks⟩
  · refine (and_iff_left_of_imp fun hf => ?_).symm
    rintro ⟨⟨hparent, -⟩, hlists, -⟩
    rw [not_and] at hlisted
    exact hlisted (hparent ▸ parent_mem_dirs hf) (hparent ▸ hlists)

theorem mem_dirs_of_siblingCleanup (h : d ∈ (access.siblingCleanup disk p).dirs) :
    d ∈ disk.dirs := by
  unfold DiskAccess.siblingCleanup at h
  dsimp only at h
  split_ifs at h
  · have hdirs := mem_dirs_of_removeIfEmpty h
    rwa [FileTree.dirs_foldl_unlink] at hdirs
  · exact h

/-! ## Resolved paths -/

/-- The path whose existence `resolve_path` checks. -/
def probedPath (serviceType : Option Database.Service) (serviceConfigId : Option Nat)
    (path : Option String) (mappings : List Database.PathMapping) : Option LocalPath :=
  match path with
  | none => none
  | some path =>
    if path = "" then none
    else
      some ((mappedProbe serviceType serviceConfigId (normalizeFpath path true)
        (sortMappings serviceType serviceConfigId mappings)).getD (LocalPath.ofString path))

theorem resolvePath_eq_some_iff {look : DiskView} {serviceType : Option Database.Service}
    {serviceConfigId : Option Nat} {path : Option String}
    {mappings : List Database.PathMapping} :
    resolvePath look serviceType serviceConfigId path mappings = some p ↔
      probedPath serviceType serviceConfigId path mappings = some p ∧
        look.pathExists p = true := by
  unfold resolvePath probedPath
  cases path with
  | none => simp
  | some path =>
    by_cases hempty : path = ""
    · simp [hempty]
    · simp only [hempty, if_false]
      cases mappedProbe serviceType serviceConfigId (normalizeFpath path true)
        (sortMappings serviceType serviceConfigId mappings) <;> grind

/-! ## Moves -/

namespace LocalPath

theorem child_parent (h : p.parts ≠ []) : p.parent.child p.name = p := by
  cases p with
  | mk root parts =>
    have hlast : parts.dropLast ++ [parts.getLast?.getD ""] = parts := by
      rw [List.getLast?_eq_some_getLast h]
      exact List.dropLast_append_getLast h
    simp [parent, child, name, hlast]

@[simp] theorem parent_child {name : String} : (p.child name).parent = p := by
  simp [child, parent]

@[simp] theorem name_child {name : String} : (p.child name).name = name := by
  simp [child, LocalPath.name]

end LocalPath

variable {root dest : LocalPath} {s : DiskAccess.MoveState}

@[simp] theorem dirs_moveSingleFile :
    (access.moveSingleFile disk p root).1.dirs = disk.dirs := by
  unfold DiskAccess.moveSingleFile
  dsimp only
  split_ifs <;> simp

/-- When a single file is moved, and to where. -/
theorem moveSingleFile_eq_some_iff : (access.moveSingleFile disk p root).2 = some dest ↔
    dest = root.child p.name ∧ access.Moves disk.dirs p root := by
  unfold DiskAccess.moveSingleFile DiskAccess.Moves
  dsimp only
  generalize root.child p.name = target
  rw [@eq_comm _ dest target]
  by_cases hroot : root ∈ disk.dirs
  · rw [if_neg (not_not.mpr hroot), and_iff_right hroot]
    by_cases hrenames : access.renames p target = true ∧ target ∉ disk.dirs
    · simp [hrenames]
    · rw [if_neg hrenames, or_iff_right hrenames]
      by_cases hne : p = target
      · simp [hne]
      · cases access.copies p target <;> cases access.verifies p target <;>
          cases access.unlinks p <;> simp [hne]
  · simp [hroot]

/-- The other files of its directory stay when a file is moved. -/
theorem mem_files_moveSingleFile (hp : p ∈ disk.files) (hq : q ∈ disk.files) (hne : q ≠ p)
    (hparent : q.parent = p.parent) : q ∈ (access.moveSingleFile disk p root).1.files := by
  have hdest : q ≠ root.child p.name := by
    rintro rfl
    rw [LocalPath.parent_child] at hparent
    exact hne (hparent ▸ LocalPath.child_parent
      (LocalPath.directory_eq_some_iff.mp (directory_of_mem_files hp)).1)
  have hadd (r : LocalPath) : q ∈ (disk.addFile r).files := FileTree.mem_files_addFile_of_mem hq
  unfold DiskAccess.moveSingleFile
  dsimp only
  split_ifs <;> simp [hq, hne, hdest, hadd]

@[simp] theorem dirs_moveStep : (access.moveStep root s f).disk.dirs = s.disk.dirs := by
  have hdirs : (access.moveSingleFile s.disk f root).1.dirs = s.disk.dirs := dirs_moveSingleFile
  unfold DiskAccess.moveStep
  split <;> simp_all

theorem moved_moveStep_of_moves (h : access.Moves s.disk.dirs f root) :
    (access.moveStep root s f).moved = s.moved ++ [(f, root.child f.name)] := by
  have hsome := moveSingleFile_eq_some_iff.mpr ⟨rfl, h⟩
  unfold DiskAccess.moveStep
  split <;> simp_all

theorem moved_moveStep_of_not_moves (h : ¬access.Moves s.disk.dirs f root) :
    (access.moveStep root s f).moved = s.moved := by
  unfold DiskAccess.moveStep
  split
  · rename_i hmove
    exact absurd (moveSingleFile_eq_some_iff.mp (congrArg Prod.snd hmove)).2 h
  · rfl

theorem mem_moved_moveStep {m : LocalPath × LocalPath} : m ∈ (access.moveStep root s f).moved ↔
    m ∈ s.moved ∨ m = (f, root.child f.name) ∧ access.Moves s.disk.dirs f root := by
  by_cases h : access.Moves s.disk.dirs f root
  · simp [moved_moveStep_of_moves h, h]
  · simp [moved_moveStep_of_not_moves h, h]

theorem mem_files_moveStep (hf : f ∈ s.disk.files) (hq : q ∈ s.disk.files) (hne : q ≠ f)
    (hparent : q.parent = f.parent) : q ∈ (access.moveStep root s f).disk.files := by
  have hfiles : q ∈ (access.moveSingleFile s.disk f root).1.files :=
    mem_files_moveSingleFile hf hq hne hparent
  unfold DiskAccess.moveStep
  split <;> simp_all

section Loop

variable {stem : String} {items : List LocalPath} {m : LocalPath × LocalPath}

@[simp] theorem dirs_siblingStep : (access.siblingStep stem root s f).disk.dirs = s.disk.dirs := by
  unfold DiskAccess.siblingStep
  split_ifs <;> simp

theorem mem_moved_siblingStep : m ∈ (access.siblingStep stem root s f).moved ↔
    m ∈ s.moved ∨ (f ∈ s.disk.files ∧ f.stem = stem) ∧ m = (f, root.child f.name) ∧
      access.Moves s.disk.dirs f root := by
  unfold DiskAccess.siblingStep
  split_ifs with hf
  · simp [mem_moved_moveStep, hf]
  · simp [hf]

theorem mem_moved_foldl_of_mem (h : m ∈ s.moved) :
    m ∈ (items.foldl (access.siblingStep stem root) s).moved := by
  induction items generalizing s with
  | nil => exact h
  | cons f items ih => exact ih (mem_moved_siblingStep.mpr (Or.inl h))

/-- The loop moves entries with the stem only. -/
theorem of_mem_moved_foldl (h : m ∈ (items.foldl (access.siblingStep stem root) s).moved) :
    m ∈ s.moved ∨ m.1 ∈ items ∧ m.1.stem = stem ∧ m.2 = root.child m.1.name ∧
      access.Moves s.disk.dirs m.1 root := by
  induction items generalizing s with
  | nil => exact Or.inl h
  | cons f items ih =>
    rcases ih h with hold | ⟨hmem, hstem, hdest, hmoves⟩
    · rcases mem_moved_siblingStep.mp hold with hold | ⟨hf, rfl, hmoves⟩
      · exact Or.inl hold
      · exact Or.inr ⟨List.mem_cons_self, hf.2, rfl, hmoves⟩
    · rw [dirs_siblingStep] at hmoves
      exact Or.inr ⟨List.mem_cons_of_mem _ hmem, hstem, hdest, hmoves⟩

/-- The loop moves every file of the directory with the stem that can be moved. -/
theorem mem_moved_foldl (hitems : ∀ f ∈ items, f.parent = q.parent) (hmem : q ∈ items)
    (hq : q ∈ s.disk.files) (hstem : q.stem = stem) (hmoves : access.Moves s.disk.dirs q root) :
    (q, root.child q.name) ∈ (items.foldl (access.siblingStep stem root) s).moved := by
  induction items generalizing s with
  | nil => exact absurd hmem List.not_mem_nil
  | cons f items ih =>
    rw [List.foldl_cons]
    by_cases hfq : f = q
    · refine mem_moved_foldl_of_mem (mem_moved_siblingStep.mpr (Or.inr ?_))
      rw [hfq]
      exact ⟨⟨hq, hstem⟩, rfl, hmoves⟩
    · refine ih (fun f hf => hitems f (List.mem_cons_of_mem _ hf))
        ((List.mem_cons.mp hmem).resolve_left (Ne.symm hfq)) ?_ (by rwa [dirs_siblingStep])
      unfold DiskAccess.siblingStep
      split_ifs with hf
      · exact mem_files_moveStep hf.1 hq (Ne.symm hfq) (hitems f List.mem_cons_self).symm
      · exact hq

end Loop

theorem DiskAccess.MovesAlong.siblings (h : access.MovesAlong disk root p q) : Siblings p q := by
  rcases h.2.2 with rfl | hsiblings
  · exact ⟨rfl, rfl⟩
  · exact hsiblings.1

/-- What `move_media` moves of the files that were there: the file itself, and its siblings
when their directory can be listed. -/
theorem mem_moved_moveMedia (hp : p ∈ disk.files) (hq : q ∈ disk.files) :
    (q, dest) ∈ (access.moveMedia disk p root).2.moved ↔
      dest = root.child q.name ∧ access.MovesAlong disk root p q := by
  unfold DiskAccess.moveMedia DiskAccess.MovesAlong
  by_cases hmkdirs : access.mkdirs root = true
  · simp only [hmkdirs, Bool.not_true, Bool.false_eq_true, if_false, true_and]
    by_cases hmoves : access.Moves (DiskAccess.withRoot disk root).dirs p root
    · have hfirst : (access.moveStep root { disk := DiskAccess.withRoot disk root } p).moved =
          [(p, root.child p.name)] := moved_moveStep_of_moves hmoves
      have hparent : p.parent ∈ (DiskAccess.withRoot disk root).dirs :=
        FileTree.mem_dirs_addDirs_of_mem _ (parent_mem_dirs hp)
      rw [if_neg (by simp [hfirst, hparent])]
      by_cases hlists : access.lists p.parent = true
      · simp only [hlists, Bool.not_true, Bool.false_eq_true, if_false, hmoves, true_and]
        constructor
        · intro h
          rcases of_mem_moved_foldl h with hold | ⟨hmem, hstem, hdest, hq'⟩
          · rw [hfirst, List.mem_singleton, Prod.mk.injEq] at hold
            exact ⟨hold.1 ▸ hold.2, Or.inl hold.1⟩
          · rw [FileTree.mem_entries] at hmem
            rw [dirs_moveStep] at hq'
            exact ⟨hdest, Or.inr ⟨⟨LocalPath.parent_of_directory hmem.2, hstem⟩, hq'⟩⟩
        · rintro ⟨rfl, hqp⟩
          by_cases hne : q = p
          · refine mem_moved_foldl_of_mem ?_
            rw [hfirst, hne]
            exact List.mem_singleton_self _
          · obtain ⟨⟨hparents, hstem⟩, hq'⟩ := hqp.resolve_left hne
            have hfile : q ∈ (access.moveStep root
                { disk := DiskAccess.withRoot disk root } p).disk.files := by
              refine mem_files_moveStep ?_ ?_ hne hparents <;> simpa [DiskAccess.withRoot]
            refine mem_moved_foldl ?_ ?_ hfile hstem (by rwa [dirs_moveStep])
            · intro f hf
              rw [hparents]
              exact LocalPath.parent_of_directory (FileTree.mem_entries.mp hf).2
            · rw [FileTree.mem_entries, directory_of_mem_files hq, hparents]
              exact ⟨Or.inl hfile, rfl⟩
      · simp [hlists, hfirst, hmoves]
        grind
    · have hfirst : (access.moveStep root { disk := DiskAccess.withRoot disk root } p).moved =
          [] := moved_moveStep_of_not_moves hmoves
      simp [hfirst, hmoves]
  · simp [hmkdirs]

end MediaMasterr.Filesystem
