import Mathlib.Logic.Relation
import Mathlib.Data.List.Basic

/-! # Trees of files and directories

Files and directories by path, over any type of paths in which a path has at
most one parent. A tree carries that what is in it hangs in its directories, so
no operation can remove a directory that still has something in it. -/

namespace MediaMasterr.Foundations

variable {P : Type*}

/-- Files and directories, every one in a directory of the tree except the roots. -/
structure FileTree (parent : P → Option P) where
  files : List P
  dirs : List P
  file_parent : ∀ p ∈ files, ∃ d ∈ dirs, parent p = some d
  dir_parent : ∀ d ∈ dirs, ∀ d', parent d = some d' → d' ∈ dirs
  not_mem_dirs : ∀ p ∈ files, p ∉ dirs

namespace FileTree

variable {parent : P → Option P}

/-- The path lies below the directory. -/
def Below (parent : P → Option P) (d p : P) : Prop :=
  Relation.TransGen (fun a b => parent b = some a) d p

theorem mem_dirs_of_below_dir (t : FileTree parent) {d d' : P} (hd : d' ∈ t.dirs)
    (h : Below parent d d') : d ∈ t.dirs := by
  induction h with
  | single h => exact t.dir_parent _ hd _ h
  | tail _ h ih => exact ih (t.dir_parent _ hd _ h)

/-- A directory with a file anywhere below it is in the tree. -/
theorem mem_dirs_of_below (t : FileTree parent) {d p : P} (hp : p ∈ t.files)
    (h : Below parent d p) : d ∈ t.dirs := by
  obtain ⟨own, hown, hparent⟩ := t.file_parent p hp
  cases h with
  | single h =>
    rw [hparent, Option.some.injEq] at h
    exact h ▸ hown
  | tail hbelow h =>
    rw [hparent, Option.some.injEq] at h
    exact t.mem_dirs_of_below_dir (h ▸ hown) hbelow

variable [DecidableEq P]

/-- What a directory lists. -/
def entries (t : FileTree parent) (d : P) : List P :=
  (t.files ++ t.dirs).filter fun p => parent p = some d

def unlink (t : FileTree parent) (p : P) : FileTree parent where
  files := t.files.filter (· ≠ p)
  dirs := t.dirs
  file_parent q hq := t.file_parent q (List.mem_of_mem_filter hq)
  dir_parent := t.dir_parent
  not_mem_dirs q hq := t.not_mem_dirs q (List.mem_of_mem_filter hq)

/-- Remove a directory that lists nothing. -/
def rmdir (t : FileTree parent) (d : P) : FileTree parent :=
  if h : t.entries d = [] then
    have hnone : ∀ p, p ∈ t.files ∨ p ∈ t.dirs → parent p ≠ some d := by
      intro p hp hparent
      have hmem : p ∈ t.entries d :=
        List.mem_filter.mpr ⟨List.mem_append.mpr hp, decide_eq_true hparent⟩
      simp [h] at hmem
    { files := t.files
      dirs := t.dirs.filter (· ≠ d)
      file_parent := fun p hp => by
        obtain ⟨own, hown, hparent⟩ := t.file_parent p hp
        have hne : own ≠ d := fun heq => hnone p (Or.inl hp) (heq ▸ hparent)
        exact ⟨own, List.mem_filter.mpr ⟨hown, decide_eq_true hne⟩, hparent⟩
      dir_parent := fun p hp d' hparent => by
        have hp' := List.mem_of_mem_filter hp
        have hne : d' ≠ d := fun heq => hnone p (Or.inr hp') (heq ▸ hparent)
        exact List.mem_filter.mpr ⟨t.dir_parent p hp' d' hparent, decide_eq_true hne⟩
      not_mem_dirs := fun p hp hd => t.not_mem_dirs p hp (List.mem_of_mem_filter hd) }
  else t

/-- Create a file, or keep the one that is there; nothing happens where its directory is
missing. -/
def addFile (t : FileTree parent) (p : P) : FileTree parent :=
  if h : p ∉ t.dirs ∧ ∃ d ∈ t.dirs, parent p = some d then
    { files := p :: t.files
      dirs := t.dirs
      file_parent := fun q hq => by
        rcases List.mem_cons.mp hq with rfl | hq
        · exact h.2
        · exact t.file_parent q hq
      dir_parent := t.dir_parent
      not_mem_dirs := fun q hq => by
        rcases List.mem_cons.mp hq with rfl | hq
        · exact h.1
        · exact t.not_mem_dirs q hq }
  else t

/-- Create directories, given with the missing ones above them; nothing happens where a file
is in the way. -/
def addDirs (t : FileTree parent) (ds : List P)
    (hds : ∀ d ∈ ds, ∀ d', parent d = some d' → d' ∈ ds) : FileTree parent :=
  if h : ∀ d ∈ ds, d ∉ t.files then
    { files := t.files
      dirs := ds ++ t.dirs
      file_parent := fun p hp => by
        obtain ⟨d, hd, hparent⟩ := t.file_parent p hp
        exact ⟨d, List.mem_append_right _ hd, hparent⟩
      dir_parent := fun d hd d' hparent => by
        rcases List.mem_append.mp hd with hd | hd
        · exact List.mem_append_left _ (hds d hd d' hparent)
        · exact List.mem_append_right _ (t.dir_parent d hd d' hparent)
      not_mem_dirs := fun p hp hd => by
        rcases List.mem_append.mp hd with hd | hd
        · exact h p hd hp
        · exact t.not_mem_dirs p hp hd }
  else t

variable {t : FileTree parent} {p q d : P}

theorem mem_entries : q ∈ t.entries d ↔ (q ∈ t.files ∨ q ∈ t.dirs) ∧ parent q = some d := by
  simp [entries, or_and_right]

@[simp] theorem mem_files_unlink : q ∈ (t.unlink p).files ↔ q ∈ t.files ∧ q ≠ p := by
  simp [unlink]

@[simp] theorem dirs_unlink : (t.unlink p).dirs = t.dirs := rfl

@[simp] theorem files_rmdir : (t.rmdir d).files = t.files := by
  unfold rmdir
  split_ifs <;> rfl

theorem mem_dirs_of_rmdir (h : q ∈ (t.rmdir d).dirs) : q ∈ t.dirs := by
  unfold rmdir at h
  split_ifs at h
  · exact List.mem_of_mem_filter h
  · exact h

@[simp] theorem dirs_addFile : (t.addFile p).dirs = t.dirs := by
  unfold addFile
  split_ifs <;> rfl

theorem mem_files_addFile_of_mem (h : q ∈ t.files) : q ∈ (t.addFile p).files := by
  unfold addFile
  split_ifs
  · exact List.mem_cons_of_mem _ h
  · exact h

@[simp] theorem files_addDirs {ds : List P}
    (hds : ∀ d ∈ ds, ∀ d', parent d = some d' → d' ∈ ds) : (t.addDirs ds hds).files = t.files := by
  unfold addDirs
  split_ifs <;> rfl

theorem mem_dirs_addDirs_of_mem {ds : List P}
    (hds : ∀ d ∈ ds, ∀ d', parent d = some d' → d' ∈ ds) (h : d ∈ t.dirs) :
    d ∈ (t.addDirs ds hds).dirs := by
  unfold addDirs
  split_ifs
  · exact List.mem_append_right _ h
  · exact h

/-- What a pass that unlinks some of the listed files leaves. -/
theorem mem_files_foldl_unlink (items : List P) (C : P → Prop) [DecidablePred C] :
    q ∈ (items.foldl (fun t f => if C f then t.unlink f else t) t).files ↔
      q ∈ t.files ∧ ¬(q ∈ items ∧ C q) := by
  induction items generalizing t with
  | nil => simp
  | cons f items ih =>
    rw [List.foldl_cons, ih]
    by_cases hC : C f
    · simp only [if_pos hC, mem_files_unlink, List.mem_cons]
      grind
    · simp only [if_neg hC, List.mem_cons]
      grind

theorem dirs_foldl_unlink (items : List P) (C : P → Prop) [DecidablePred C] :
    (items.foldl (fun t f => if C f then t.unlink f else t) t).dirs = t.dirs := by
  induction items generalizing t with
  | nil => rfl
  | cons f items ih =>
    rw [List.foldl_cons, ih]
    split_ifs <;> rfl

end FileTree

end MediaMasterr.Foundations
