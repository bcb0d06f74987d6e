import Mathlib.Data.List.Infix
import Mathlib.Data.List.TakeWhile

/-! # Patterns with word edges

Regular expressions with greedy loops over a class, groups and word edges, as a
backtracking matcher reads them: a match at a place of a text depends on the letter
before it, and of several matches the first one in the order of the choices counts. -/

namespace MediaMasterr.Foundations

inductive WordPattern (α : Type*) where
  | empty
  | one (p : α → Bool)
  /-- As many letters of a class as there are, and fewer of them if that fails. -/
  | rep (p : α → Bool) (least : Nat) (most : Option Nat)
  /-- A place between a letter of a word and one that is none. -/
  | edge
  | seq (r s : WordPattern α)
  | alt (r s : WordPattern α)
  | group (r : WordPattern α)

namespace WordPattern

variable {α : Type*}

/-- A match at a place: the letters it takes, the groups in the order of their openings, and the
rest of the text. -/
@[ext]
structure Found (α : Type*) where
  taken : List α
  groups : List (List α)
  rest : List α

/-- The letter before the rest, where `before` is the one before the match. -/
def Found.last (f : Found α) (before : Option α) : Option α := f.taken.getLast?.or before

/-- How often a loop can run, the most first. -/
def counts (least : Nat) (most : Option Nat) (there : Nat) : List Nat :=
  (List.range' least ((most.elim there (min there)) + 1 - least)).reverse

variable (word : α → Bool)

/-- The matches at the start of a text, in the order in which they are tried. -/
def run : WordPattern α → Option α → List α → List (Found α)
  | .empty, _, t => [⟨[], [], t⟩]
  | .one _, _, [] => []
  | .one p, _, a :: t => if p a then [⟨[a], [], t⟩] else []
  | .rep p least most, _, t =>
    (counts least most (t.takeWhile p).length).map fun k => ⟨t.take k, [], t.drop k⟩
  | .edge, before, t => if before.any word != t.head?.any word then [⟨[], [], t⟩] else []
  | .seq r s, before, t =>
    (run r before t).flatMap fun f =>
      (run s (f.last before) f.rest).map fun g => ⟨f.taken ++ g.taken, f.groups ++ g.groups, g.rest⟩
  | .alt r s, before, t => run r before t ++ run s before t
  | .group r, before, t => (run r before t).map fun f => ⟨f.taken, f.taken :: f.groups, f.rest⟩

/-- `re.search`: the first match at the first place that has one. -/
def search (r : WordPattern α) : Option α → List α → Option (Found α)
  | before, [] => (run word r before []).head?
  | before, a :: t =>
    match run word r before (a :: t) with
    | f :: _ => some f
    | [] => search r (some a) t

/-- `re.sub`, with the number of letters that the last match still takes. -/
def sub (r : WordPattern α) (fill : List α) : Nat → Option α → List α → List α
  | _, before, [] => if (run word r before []).isEmpty then [] else fill
  | n + 1, _, a :: t => sub r fill n (some a) t
  | 0, before, a :: t =>
    match run word r before (a :: t) with
    | [] => a :: sub r fill 0 (some a) t
    | f :: _ =>
      match f.taken.length with
      | 0 => fill ++ a :: sub r fill 0 (some a) t
      | n + 1 => fill ++ sub r fill n (some a) t

/-- The letters of a text, one after the other. -/
def literal [DecidableEq α] (cs : List α) : WordPattern α :=
  cs.foldr (fun c r => .seq (.one (· = c)) r) .empty

/-- A pattern between two word edges. -/
def between (r : WordPattern α) : WordPattern α := .seq .edge (.seq r .edge)

variable {word} {r s : WordPattern α} {f : Found α} {before : Option α} {a : α} {t : List α}

/-! ## Matches -/

theorem mem_counts {least there k : Nat} {most : Option Nat} :
    k ∈ counts least most there ↔ least ≤ k ∧ k ≤ there ∧ ∀ m ∈ most, k ≤ m := by
  cases most with
  | none =>
    simp only [counts, List.mem_reverse, List.mem_range'_1, Option.elim_none]
    simp
    omega
  | some m =>
    simp only [counts, List.mem_reverse, List.mem_range'_1, Option.elim_some]
    simp
    omega

@[simp] theorem mem_run_empty : f ∈ run word empty before t ↔ f = ⟨[], [], t⟩ := by
  change f ∈ [⟨[], [], t⟩] ↔ _
  rw [List.mem_singleton]

@[simp] theorem mem_run_one {p : α → Bool} :
    f ∈ run word (one p) before t ↔ ∃ a rest, t = a :: rest ∧ p a ∧ f = ⟨[a], [], rest⟩ := by
  cases t with
  | nil =>
    change f ∈ [] ↔ _
    simp
  | cons a t =>
    change f ∈ (if p a then [⟨[a], [], t⟩] else []) ↔ _
    split_ifs with h
    · simp [h]
    · simp only [List.not_mem_nil, List.cons.injEq, false_iff]
      rintro ⟨b, rest, ⟨rfl, -⟩, hb, -⟩
      exact h hb

@[simp] theorem mem_run_rep {p : α → Bool} {least : Nat} {most : Option Nat} :
    f ∈ run word (rep p least most) before t ↔ ∃ taken rest, t = taken ++ rest ∧
      (∀ a ∈ taken, p a) ∧ least ≤ taken.length ∧ (∀ m ∈ most, taken.length ≤ m) ∧
        f = ⟨taken, [], rest⟩ := by
  change f ∈ (counts least most (t.takeWhile p).length).map (fun k => ⟨t.take k, [], t.drop k⟩) ↔ _
  rw [List.mem_map]
  simp only [mem_counts]
  constructor
  · rintro ⟨k, ⟨hleast, hthere, hmost⟩, rfl⟩
    have hlength : (t.take k).length = k := by
      rw [List.length_take]
      exact min_eq_left (hthere.trans (List.takeWhile_prefix p).length_le)
    have hsub : t.take k <+: t.takeWhile p := by
      have h := List.takeWhile_prefix (l := t) p
      rw [List.prefix_iff_eq_take.mp h]
      exact List.take_prefix_take_left hthere
    refine ⟨_, _, (List.take_append_drop k t).symm, fun a ha => ?_, ?_, ?_, rfl⟩
    · exact List.mem_takeWhile_imp (hsub.subset ha)
    · rwa [hlength]
    · rwa [hlength]
  · rintro ⟨taken, rest, rfl, hclass, hleast, hmost, rfl⟩
    refine ⟨taken.length, ⟨hleast, ?_, hmost⟩, by simp⟩
    rw [List.takeWhile_append_of_pos hclass, List.length_append]
    exact Nat.le_add_right _ _

@[simp] theorem mem_run_edge : f ∈ run word edge before t ↔
    before.any word ≠ t.head?.any word ∧ f = ⟨[], [], t⟩ := by
  change f ∈ (if before.any word != t.head?.any word then [⟨[], [], t⟩] else []) ↔ _
  split_ifs with h
  · simpa using fun _ => by simpa using h
  · simp at h
    simp [h]

@[simp] theorem mem_run_seq : f ∈ run word (seq r s) before t ↔
    ∃ g ∈ run word r before t, ∃ h ∈ run word s (g.last before) g.rest,
      f = ⟨g.taken ++ h.taken, g.groups ++ h.groups, h.rest⟩ := by
  change f ∈ (run word r before t).flatMap (fun g => (run word s (g.last before) g.rest).map
    fun h => ⟨g.taken ++ h.taken, g.groups ++ h.groups, h.rest⟩) ↔ _
  simp [List.mem_flatMap, @eq_comm _ f]

@[simp] theorem mem_run_alt :
    f ∈ run word (alt r s) before t ↔ f ∈ run word r before t ∨ f ∈ run word s before t := by
  change f ∈ run word r before t ++ run word s before t ↔ _
  rw [List.mem_append]

@[simp] theorem mem_run_group : f ∈ run word (group r) before t ↔
    ∃ g ∈ run word r before t, f = ⟨g.taken, g.taken :: g.groups, g.rest⟩ := by
  change f ∈ (run word r before t).map (fun g => ⟨g.taken, g.taken :: g.groups, g.rest⟩) ↔ _
  simp [@eq_comm _ f]

/-- A match splits the text. -/
theorem split_of_mem_run (h : f ∈ run word r before t) : f.taken ++ f.rest = t := by
  induction r generalizing before t f with
  | empty =>
    rw [mem_run_empty.mp h]
    rfl
  | one p =>
    obtain ⟨a, rest, rfl, -, rfl⟩ := mem_run_one.mp h
    rfl
  | rep p least most =>
    obtain ⟨taken, rest, rfl, -, -, -, rfl⟩ := mem_run_rep.mp h
    rfl
  | edge =>
    rw [(mem_run_edge.mp h).2]
    rfl
  | seq r s ihr ihs =>
    obtain ⟨g, hg, h, hh, rfl⟩ := mem_run_seq.mp h
    rw [List.append_assoc, ihs hh, ihr hg]
  | alt r s ihr ihs => exact (mem_run_alt.mp h).elim ihr ihs
  | group r ih =>
    obtain ⟨g, hg, rfl⟩ := mem_run_group.mp h
    have hsplit : g.taken ++ g.rest = t := ih hg
    exact hsplit

theorem last_eq_getLast (h : f.taken ≠ []) : f.last before = some (f.taken.getLast h) := by
  rw [Found.last, List.getLast?_eq_getLast_of_ne_nil h]
  rfl

@[simp] theorem mem_run_literal [DecidableEq α] {cs : List α} :
    f ∈ run word (literal cs) before t ↔ ∃ rest, t = cs ++ rest ∧ f = ⟨cs, [], rest⟩ := by
  induction cs generalizing before t f with
  | nil => simp [literal]
  | cons c cs ih =>
    rw [literal, List.foldr_cons, ← literal, mem_run_seq]
    simp only [mem_run_one, ih, decide_eq_true_eq]
    constructor
    · rintro ⟨_, ⟨_, rest, rfl, rfl, rfl⟩, _, ⟨rest', rfl, rfl⟩, rfl⟩
      exact ⟨rest', rfl, rfl⟩
    · rintro ⟨rest, rfl, rfl⟩
      exact ⟨_, ⟨c, _, rfl, rfl, rfl⟩, _, ⟨rest, rfl, rfl⟩, rfl⟩

/-- A match between edges is one of the pattern, from an edge to an edge. -/
theorem mem_run_between : f ∈ run word (between r) before t ↔
    f ∈ run word r before t ∧ before.any word ≠ t.head?.any word ∧
      (f.last before).any word ≠ f.rest.head?.any word := by
  rw [between, mem_run_seq]
  simp only [mem_run_edge, mem_run_seq]
  constructor
  · rintro ⟨_, ⟨hfirst, rfl⟩, _, ⟨g, hg, _, ⟨hlast, rfl⟩, rfl⟩, rfl⟩
    simpa using ⟨hg, hfirst, hlast⟩
  · rintro ⟨hf, hfirst, hlast⟩
    exact ⟨_, ⟨hfirst, rfl⟩, _, ⟨f, hf, _, ⟨hlast, rfl⟩, rfl⟩, by simp⟩

/-- Where a word ends is determined by the text. -/
theorem word_append_inj {u v w rest : List α} (h : u ++ v = w ++ rest) (hu : ∀ a ∈ u, word a)
    (hv : v.head?.any word = false) (hw : ∀ a ∈ w, word a) (hrest : rest.head?.any word = false) :
    u = w ∧ v = rest := by
  have htake {u v : List α} (hu : ∀ a ∈ u, word a) (hv : v.head?.any word = false) :
      (u ++ v).takeWhile word = u := by
    rw [List.takeWhile_append_of_pos hu]
    cases v with
    | nil => simp
    | cons a v => simp_all
  have huw : u = w := by rw [← htake hu hv, h, htake hw hrest]
  exact ⟨huw, List.append_cancel_left (huw ▸ h)⟩

/-- A match that takes a word's letters only takes the whole word. -/
theorem eq_word_of_mem_between {w rest : List α}
    (h : f ∈ run word (between r) before (w ++ rest)) (hne : f.taken ≠ [])
    (hword : ∀ a ∈ f.taken, word a) (hw : ∀ a ∈ w, word a) (hrest : rest.head?.any word = false) :
    f.taken = w ∧ f.rest = rest := by
  obtain ⟨hf, -, hlast⟩ := mem_run_between.mp h
  rw [last_eq_getLast hne] at hlast
  have hend : f.rest.head?.any word = false := by
    simpa [hword _ (List.getLast_mem hne)] using hlast
  exact word_append_inj (split_of_mem_run hf) hword hend hw hrest

/-! ## Places without a match -/

/-- Inside a word there is no edge. -/
theorem run_between_inside (hbefore : before.any word = true) (ha : word a = true) :
    run word (between r) before (a :: t) = [] := by
  refine List.eq_nil_iff_forall_not_mem.mpr fun f hf => (mem_run_between.mp hf).2.1 ?_
  rw [hbefore, List.head?_cons, Option.any_some, ha]

/-- The letter before what follows a text. -/
def lastOf (before : Option α) (w : List α) : Option α := w.getLast?.or before

theorem lastOf_cons (w : List α) : lastOf before (a :: w) = lastOf (some a) w := by
  cases w with
  | nil => rfl
  | cons b w => simp [lastOf, List.getLast?_eq_getLast_of_ne_nil]

/-- At none of the places in the first part of a text there is a match. -/
def Silent (word : α → Bool) (r : WordPattern α) : Option α → List α → List α → Prop
  | _, [], _ => True
  | before, a :: w, t => run word r before (a :: (w ++ t)) = [] ∧ Silent word r (some a) w t

theorem search_append {w : List α} (h : Silent word r before w t) :
    search word r before (w ++ t) = search word r (lastOf before w) t := by
  induction w generalizing before with
  | nil => rfl
  | cons a w ih =>
    rw [List.cons_append, search, h.1, lastOf_cons]
    exact ih h.2

theorem sub_append {fill w : List α} (h : Silent word r before w t) :
    sub word r fill 0 before (w ++ t) = w ++ sub word r fill 0 (lastOf before w) t := by
  induction w generalizing before with
  | nil => rfl
  | cons a w ih =>
    rw [List.cons_append, sub, h.1, lastOf_cons]
    exact congrArg (a :: ·) (ih h.2)

theorem Silent.append {u v : List α} (hu : Silent word r before u (v ++ t))
    (hv : Silent word r (lastOf before u) v t) : Silent word r before (u ++ v) t := by
  induction u generalizing before with
  | nil => exact hv
  | cons a u ih =>
    obtain ⟨hfirst, hrest⟩ := hu
    rw [lastOf_cons] at hv
    rw [← List.append_assoc] at hfirst
    exact ⟨hfirst, ih hrest hv⟩

/-- A word is silent unless a match starts with it. -/
theorem silent_word {w : List α} (hw : ∀ a ∈ w, word a)
    (hstart : w ≠ [] → run word (between r) before (w ++ t) = []) :
    Silent word (between r) before w t := by
  induction w generalizing before with
  | nil => trivial
  | cons a w ih =>
    obtain ⟨ha, hrest⟩ := List.forall_mem_cons.mp hw
    refine ⟨hstart (by simp), ih hrest fun hne => ?_⟩
    obtain ⟨b, w, rfl⟩ := List.exists_cons_of_ne_nil hne
    exact run_between_inside (by simpa using ha) (hrest b (by simp))

/-- Every match of the pattern starts with a letter of a word. -/
def StartsInWord (word : α → Bool) (r : WordPattern α) : Prop :=
  ∀ before t, ∀ f ∈ run word r before t, f.taken.head?.any word = true

theorem startsInWord_literal [DecidableEq α] {c : α} {cs : List α} (hc : word c = true) :
    StartsInWord word (seq (literal (c :: cs)) r) := by
  intro before t f hf
  obtain ⟨g, hg, h, -, rfl⟩ := mem_run_seq.mp hf
  obtain ⟨rest, -, rfl⟩ := mem_run_literal.mp hg
  exact hc

theorem StartsInWord.alt (hr : StartsInWord word r) (hs : StartsInWord word s) :
    StartsInWord word (alt r s) := fun before t f hf =>
  (mem_run_alt.mp hf).elim (hr before t f) (hs before t f)

theorem StartsInWord.group (hr : StartsInWord word r) : StartsInWord word (group r) := by
  intro before t f hf
  obtain ⟨g, hg, rfl⟩ := mem_run_group.mp hf
  exact hr before t g hg

theorem StartsInWord.taken_ne_nil (hr : StartsInWord word r) (hf : f ∈ run word r before t) :
    f.taken ≠ [] := by
  intro hnil
  have hhead := hr before t f hf
  rw [hnil] at hhead
  cases hhead

theorem StartsInWord.run_eq_nil (hr : StartsInWord word r) (ht : t.head?.any word = false) :
    run word (between r) before t = [] := by
  refine List.eq_nil_iff_forall_not_mem.mpr fun f hf => ?_
  have hmem := (mem_run_between.mp hf).1
  obtain ⟨a, taken, htaken⟩ := List.exists_cons_of_ne_nil (hr.taken_ne_nil hmem)
  have hhead := hr before t f hmem
  rw [← split_of_mem_run hmem, htaken] at ht
  rw [htaken] at hhead
  exact Bool.false_ne_true (ht.symm.trans hhead)

/-- No match starts with a word that is not the whole of one. -/
theorem StartsInWord.run_word_eq_nil {w : List α} (hr : StartsInWord word r)
    (hw : ∀ a ∈ w, word a) (ht : t.head?.any word = false)
    (hno : ∀ f ∈ run word r before (w ++ t), (∀ a ∈ f.taken, word a) ∧ f.taken ≠ w) :
    run word (between r) before (w ++ t) = [] := by
  refine List.eq_nil_iff_forall_not_mem.mpr fun f hf => ?_
  have hmem := (mem_run_between.mp hf).1
  obtain ⟨hword, hne⟩ := hno f hmem
  exact hne (eq_word_of_mem_between hf (hr.taken_ne_nil hmem) hword hw ht).1

/-- A match of a whole word is one between edges. -/
theorem StartsInWord.mem_run_between (hr : StartsInWord word r) (hf : f ∈ run word r before t)
    (hword : ∀ a ∈ f.taken, word a) (hbefore : before.any word = false)
    (hrest : f.rest.head?.any word = false) : f ∈ run word (between r) before t := by
  have hne := hr.taken_ne_nil hf
  refine WordPattern.mem_run_between.mpr ⟨hf, ?_, ?_⟩
  · have hhead := hr before t f hf
    obtain ⟨a, taken, htaken⟩ := List.exists_cons_of_ne_nil hne
    rw [htaken] at hhead
    rw [← split_of_mem_run hf, htaken, hbefore]
    exact fun heq => Bool.false_ne_true (heq.trans hhead)
  · rw [last_eq_getLast hne, hrest, Option.any_some, hword _ (List.getLast_mem hne)]
    decide

/-! ## What a search finds, and what a substitution leaves -/

theorem search_eq_none (h : Silent word r before t [])
    (hend : run word r (lastOf before t) [] = []) : search word r before t = none := by
  rw [← List.append_nil t, search_append h, search, hend]
  rfl

theorem sub_eq_self {fill : List α} (h : Silent word r before t [])
    (hend : run word r (lastOf before t) [] = []) : sub word r fill 0 before t = t := by
  have happend : sub word r fill 0 before (t ++ []) = _ := sub_append h
  rw [List.append_nil] at happend
  rw [happend, sub, hend]
  exact List.append_nil t

/-- The only match at a place is found there. -/
theorem search_eq_some (h : f ∈ run word r before t) (honly : ∀ g ∈ run word r before t, g = f) :
    search word r before t = some f := by
  cases t with
  | nil =>
    obtain ⟨g, rest, hrun⟩ := List.exists_cons_of_ne_nil (List.ne_nil_of_mem h)
    rw [search, hrun, List.head?_cons, honly g (by rw [hrun]; exact List.mem_cons_self)]
  | cons a t =>
    obtain ⟨g, rest, hrun⟩ := List.exists_cons_of_ne_nil (List.ne_nil_of_mem h)
    rw [search, hrun, honly g (by rw [hrun]; exact List.mem_cons_self)]

theorem sub_drop {fill : List α} {n : Nat} (hn : t.length ≤ n)
    (hend : ∀ before, run word r before [] = []) : sub word r fill n before t = [] := by
  induction t generalizing n before with
  | nil =>
    rw [sub, hend]
    rfl
  | cons a t ih =>
    obtain ⟨n, rfl⟩ := Nat.exists_eq_succ_of_ne_zero (n := n) (by rintro rfl; simp at hn)
    exact ih (Nat.le_of_succ_le_succ hn)

/-- A match of the whole text leaves what it is filled with. -/
theorem sub_eq_fill {fill : List α} (hne : t ≠ []) (h : run word r before t ≠ [])
    (hall : ∀ g ∈ run word r before t, g.taken = t)
    (hend : ∀ before, run word r before [] = []) : sub word r fill 0 before t = fill := by
  obtain ⟨a, t, rfl⟩ := List.exists_cons_of_ne_nil hne
  obtain ⟨f, rest, hrun⟩ := List.exists_cons_of_ne_nil h
  have htaken : f.taken = a :: t := hall f (by rw [hrun]; exact List.mem_cons_self)
  simp only [sub, hrun, htaken, List.length_cons]
  rw [sub_drop le_rfl hend, List.append_nil]

end WordPattern

end MediaMasterr.Foundations
