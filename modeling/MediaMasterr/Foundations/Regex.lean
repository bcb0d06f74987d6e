import Mathlib.Data.List.Infix

/-! # Regular expressions

Expressions over any alphabet, read by the rests that a match at the start of a text
leaves, and the search for a match anywhere in a text. The second part reads the syntax
of patterns with letters, digits, classes, groups, alternatives and the two loops. -/

namespace MediaMasterr.Foundations

inductive Regex (α : Type*) where
  | empty
  | one (p : α → Bool)
  | many (p : α → Bool)
  /-- No letter, where the rest of the text satisfies `p`. -/
  | ahead (p : List α → Bool)
  | seq (r s : Regex α)
  | alt (r s : Regex α)

namespace Regex

variable {α β : Type*} {p : α → Bool} {r s : Regex α} {t rest : List α} {l l' : List (Regex α)}

/-- What a loop over one class can leave. -/
def manyRests (p : α → Bool) : List α → List (List α)
  | [] => [[]]
  | a :: t => (a :: t) :: if p a then manyRests p t else []

/-- What a match at the start of the text can leave. -/
def rests : Regex α → List α → List (List α)
  | .empty, t => [t]
  | .one _, [] => []
  | .one p, a :: t => if p a then [t] else []
  | .many p, t => manyRests p t
  | .ahead p, t => if p t then [t] else []
  | .seq r s, t => (rests r t).flatMap (rests s)
  | .alt r s, t => rests r t ++ rests s t

def search (r : Regex α) (t : List α) : Bool := t.tails.any fun tail => !(r.rests tail).isEmpty

def concat (l : List (Regex α)) : Regex α := l.foldr .seq .empty

@[simp] theorem mem_rests_empty : rest ∈ (empty : Regex α).rests t ↔ rest = t := by
  change rest ∈ [t] ↔ _
  rw [List.mem_singleton]

@[simp] theorem mem_rests_one : rest ∈ (one p).rests t ↔ ∃ a, t = a :: rest ∧ p a := by
  cases t with
  | nil =>
    change rest ∈ [] ↔ _
    simp
  | cons a t =>
    change rest ∈ (if p a then [t] else []) ↔ _
    split
    case isTrue h => simp [h, @eq_comm _ t rest]
    case isFalse h =>
      simp only [List.not_mem_nil, List.cons.injEq, false_iff]
      rintro ⟨b, ⟨rfl, -⟩, hb⟩
      exact h hb

@[simp] theorem mem_rests_many :
    rest ∈ (many p).rests t ↔ ∃ run, t = run ++ rest ∧ ∀ a ∈ run, p a := by
  change rest ∈ manyRests p t ↔ _
  induction t with
  | nil =>
    rw [manyRests, List.mem_singleton]
    constructor
    · rintro rfl
      exact ⟨[], rfl, by simp⟩
    · rintro ⟨run, h, -⟩
      exact (List.append_eq_nil_iff.mp h.symm).2
  | cons a t ih =>
    rw [manyRests, List.mem_cons]
    constructor
    · rintro (rfl | h)
      · exact ⟨[], rfl, by simp⟩
      · split at h
        case isTrue ha =>
          obtain ⟨run, rfl, hrun⟩ := ih.mp h
          exact ⟨a :: run, rfl, by simpa [ha] using hrun⟩
        case isFalse => cases h
    · rintro ⟨run, h, hrun⟩
      cases run with
      | nil => exact .inl h.symm
      | cons b run =>
        obtain ⟨rfl, rfl⟩ := List.cons.inj h
        obtain ⟨hb, hrun⟩ := List.forall_mem_cons.mp hrun
        rw [if_pos hb]
        exact .inr (ih.mpr ⟨run, rfl, hrun⟩)

@[simp] theorem mem_rests_ahead {p : List α → Bool} :
    rest ∈ (ahead p).rests t ↔ rest = t ∧ p t := by
  change rest ∈ (if p t then [t] else []) ↔ _
  split <;> simp [*]

@[simp] theorem mem_rests_seq :
    rest ∈ (seq r s).rests t ↔ ∃ middle ∈ r.rests t, rest ∈ s.rests middle := by
  change rest ∈ (rests r t).flatMap (rests s) ↔ _
  rw [List.mem_flatMap]

@[simp] theorem mem_rests_alt :
    rest ∈ (alt r s).rests t ↔ rest ∈ r.rests t ∨ rest ∈ s.rests t := by
  change rest ∈ rests r t ++ rests s t ↔ _
  rw [List.mem_append]

@[simp] theorem concat_nil : concat ([] : List (Regex α)) = empty := rfl

@[simp] theorem concat_cons : concat (r :: l) = seq r (concat l) := rfl

theorem mem_rests_concat_append :
    rest ∈ (concat (l ++ l')).rests t ↔
      ∃ middle ∈ (concat l).rests t, rest ∈ (concat l').rests middle := by
  induction l generalizing t with
  | nil => simp
  | cons r l ih =>
    simp only [List.cons_append, concat_cons, mem_rests_seq, ih]
    constructor
    · rintro ⟨first, hfirst, second, hsecond, hrest⟩
      exact ⟨second, ⟨first, hfirst, hsecond⟩, hrest⟩
    · rintro ⟨second, ⟨first, hfirst, hsecond⟩, hrest⟩
      exact ⟨first, hfirst, second, hsecond, hrest⟩

theorem search_iff : r.search t ↔ ∃ tail, tail <:+ t ∧ ∃ rest, rest ∈ r.rests tail := by
  simp [search, List.any_eq_true, List.eq_nil_iff_forall_not_mem]

/-- The rest of a text after a word, where `same` compares the letters of the two. -/
def dropWord (same : β → α → Bool) : List β → List α → Option (List α)
  | [], t => some t
  | b :: word, a :: t => if same b a then dropWord same word t else none
  | _ :: _, [] => none

theorem mem_rests_word {same : β → α → Bool} {word : List β} :
    rest ∈ (concat (word.map fun b => one (same b))).rests t ↔
      dropWord same word t = some rest := by
  induction word generalizing t with
  | nil => simp [dropWord, eq_comm]
  | cons b word ih =>
    simp only [List.map_cons, concat_cons, mem_rests_seq, mem_rests_one, ih]
    cases t with
    | nil => simp [dropWord]
    | cons a t =>
      rw [dropWord]
      split
      case isTrue h => simp [h]
      case isFalse h =>
        simp only [reduceCtorEq, iff_false]
        rintro ⟨middle, ⟨c, hc, hsame⟩, -⟩
        obtain ⟨rfl, rfl⟩ := List.cons.inj hc
        exact h hsame

/-! ## The syntax -/

/-- What the pieces of a pattern stand for. -/
structure Classes where
  /-- The letter of a pattern against one of the text. -/
  same : Char → Char → Bool
  space : Char → Bool
  decimal : Char → Bool

inductive Token
  | letter (c : Char)
  | escape (c : Char)
  | opening
  | closing
  | bar
  | star
  | plus
  | dollar

/-- A letter or a digit of ASCII, or a blank. -/
def isPlain (c : Char) : Bool :=
  (97 ≤ c.toNat && c.toNat ≤ 122) || (48 ≤ c.toNat && c.toNat ≤ 57) || c.toNat == 32

def tokens : List Char → Option (List Token)
  | [] => some []
  | '\\' :: c :: t => (tokens t).map (.escape c :: ·)
  | '(' :: '?' :: ':' :: t => (tokens t).map (.opening :: ·)
  | ')' :: t => (tokens t).map (.closing :: ·)
  | '|' :: t => (tokens t).map (.bar :: ·)
  | '*' :: t => (tokens t).map (.star :: ·)
  | '+' :: t => (tokens t).map (.plus :: ·)
  | '$' :: t => (tokens t).map (.dollar :: ·)
  | c :: t => if isPlain c then (tokens t).map (.letter c :: ·) else none

/-- An open group: the alternatives before the current one, and the pieces of this one, the
last piece first. -/
structure Frame where
  before : Option (Regex Char) := none
  pieces : List (Regex Char) := []

namespace Frame

def push (f : Frame) (r : Regex Char) : Frame := { f with pieces := r :: f.pieces }

def regex (f : Frame) : Regex Char :=
  match f.before with
  | none => concat f.pieces.reverse
  | some r => alt r (concat f.pieces.reverse)

end Frame

/-- One token, with the groups that are open, the innermost first. -/
def parseToken (classes : Classes) : Frame × List Frame → Token → Option (Frame × List Frame)
  | (f, outer), .letter c => some (f.push (one (classes.same c)), outer)
  | (f, outer), .escape 's' => some (f.push (one classes.space), outer)
  | (f, outer), .escape 'D' => some (f.push (one fun c => !classes.decimal c), outer)
  | _, .escape _ => none
  | (f, outer), .opening => some ({}, f :: outer)
  | (f, g :: outer), .closing => some (g.push f.regex, outer)
  | (_, []), .closing => none
  | (f, outer), .bar => some ({ before := some f.regex }, outer)
  | (f, outer), .star =>
    match f.pieces with
    | .one p :: pieces => some ({ f with pieces := .many p :: pieces }, outer)
    | _ => none
  | (f, outer), .plus =>
    match f.pieces with
    | .one p :: pieces => some ({ f with pieces := .many p :: .one p :: pieces }, outer)
    | _ => none
  -- `$` also stands before a newline at the end.
  | (f, outer), .dollar => some (f.push (ahead fun t => t.isEmpty || t == ['\n']), outer)

def parse (classes : Classes) (pattern : String) : Option (Regex Char) := do
  let (f, outer) ← (← tokens pattern.toList).foldlM (parseToken classes) ({}, [])
  if outer.isEmpty then some f.regex else none

variable {classes : Classes} {f : Frame} {outer : List Frame} {cs t : List Char}

theorem tokens_plain_append (h : ∀ c ∈ cs, isPlain c) :
    tokens (cs ++ t) = (tokens t).map (cs.map Token.letter ++ ·) := by
  induction cs with
  | nil => simp
  | cons c cs ih =>
    obtain ⟨hc, hcs⟩ := List.forall_mem_cons.mp h
    rw [List.cons_append, tokens.eq_def]
    split
    case h_1 heq => cases heq
    case h_9 heq =>
      obtain ⟨rfl, rfl⟩ := List.cons.inj heq
      rw [if_pos hc, ih hcs, Option.map_map]
      rfl
    -- No other token begins with a plain letter.
    all_goals
      rename_i heq
      obtain ⟨rfl, -⟩ := List.cons.inj heq
      exact absurd hc (by decide)

/-- A word adds a piece for each of its letters. -/
theorem foldlM_letters (cs : List Char) (tokens : List Token) :
    (cs.map Token.letter ++ tokens).foldlM (parseToken classes) (f, outer) =
      tokens.foldlM (parseToken classes) ({ f with
        pieces := (cs.map fun c => one (classes.same c)).reverse ++ f.pieces }, outer) := by
  induction cs generalizing f with
  | nil => rfl
  | cons c cs ih =>
    rw [List.map_cons, List.cons_append, List.foldlM_cons, parseToken, Option.bind_eq_bind,
      Option.bind_some, ih]
    simp [Frame.push]

end Regex

end MediaMasterr.Foundations
