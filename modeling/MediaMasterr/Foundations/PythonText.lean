import Mathlib.Data.List.DropRight

/-! # Python text operations

The `str` methods whose result does not depend on the Unicode case tables, on
the character list of a string: `strip`, `rstrip`, `replace` of one character,
`startswith` and substring search. -/

namespace MediaMasterr.Foundations.PythonText

/-- The characters for which `str.isspace` holds. -/
def isSpace (c : Char) : Bool :=
  let n := c.toNat
  (9 ≤ n && n ≤ 13) || (28 ≤ n && n ≤ 32) || n == 0x85 || n == 0xa0 || n == 0x1680 ||
    (0x2000 ≤ n && n ≤ 0x200a) || n == 0x2028 || n == 0x2029 || n == 0x202f ||
    n == 0x205f || n == 0x3000

def rstripWhere (p : Char → Bool) (cs : List Char) : List Char :=
  (cs.reverse.dropWhile p).reverse

/-- `s.strip()`. -/
def strip (s : String) : String :=
  String.ofList (rstripWhere isSpace (s.toList.dropWhile isSpace))

/-- `s.rstrip(c)` for one character. -/
def rstrip (c : Char) (s : String) : String :=
  String.ofList (rstripWhere (· == c) s.toList)

/-- `s.replace(old, new)` for single characters. -/
def replaceChar (old new : Char) (s : String) : String :=
  String.ofList (s.toList.map fun c => if c = old then new else c)

/-- `s.startswith(p)`. -/
def startsWith (s p : String) : Bool := p.toList.isPrefixOf s.toList

/-- `needle in haystack`. -/
def contains (haystack needle : String) : Bool :=
  haystack.toList.tails.any fun rest => needle.toList.isPrefixOf rest

/-- `s.split(c, 1)[0]`. -/
def beforeFirst (c : Char) (s : String) : String :=
  String.ofList (s.toList.takeWhile (· ≠ c))

/-- `s.lower()` for ASCII text. -/
def asciiLower (s : String) : String := String.ofList (s.toList.map Char.toLower)

/-- The case mappings of the interpreter's Unicode tables. -/
structure CaseTables where
  lower : String → String
  upper : String → String

/-- What the code relies on of the case mappings: no text becomes empty, blanks, slashes and
backslashes are not letters, and lowering twice changes nothing. -/
structure CaseTables.Lawful (t : CaseTables) : Prop where
  lower_eq_empty : ∀ s, t.lower s = "" ↔ s = ""
  upper_eq_empty : ∀ s, t.upper s = "" ↔ s = ""
  lower_lower : ∀ s, t.lower (t.lower s) = t.lower s
  strip_lower : ∀ s, strip (t.lower s) = t.lower (strip s)
  rstrip_lower : ∀ s, rstrip '/' (t.lower s) = t.lower (rstrip '/' s)
  backslash_lower : ∀ s, '\\' ∈ (t.lower s).toList → '\\' ∈ s.toList

theorem rstripWhere_eq (p : Char → Bool) (cs : List Char) : rstripWhere p cs = cs.rdropWhile p :=
  rfl

/-- Dropping on the right leaves a first character that was not dropped. -/
theorem dropWhile_rstripWhere {p : Char → Bool} {cs : List Char} (h : cs.dropWhile p = cs) :
    (rstripWhere p cs).dropWhile p = rstripWhere p cs := by
  rw [rstripWhere_eq]
  obtain ⟨rest, hrest⟩ := List.rdropWhile_prefix p (l := cs)
  cases hkept : cs.rdropWhile p with
  | nil => rfl
  | cons c kept =>
    have hcons : cs = c :: (kept ++ rest) := by rw [← hrest, hkept]; rfl
    rw [hcons] at h
    have hc : p c = false := by
      by_contra hp
      rw [List.dropWhile_cons_of_pos (by simpa using hp)] at h
      have hlength := congrArg List.length h
      have hle := (List.dropWhile_suffix p (l := kept ++ rest)).length_le
      simp only [List.length_cons] at hlength
      omega
    rw [List.dropWhile_cons_of_neg (by simp [hc])]

@[simp] theorem strip_strip (s : String) : strip (strip s) = strip s := by
  have hdrop : (s.toList.dropWhile isSpace).dropWhile isSpace = s.toList.dropWhile isSpace :=
    List.dropWhile_idempotent _ _
  rw [strip, strip, String.toList_ofList, dropWhile_rstripWhere hdrop, rstripWhere_eq,
    rstripWhere_eq, List.rdropWhile_idempotent]

theorem isDigit_iff {c : Char} : c.isDigit = true ↔ 48 ≤ c.toNat ∧ c.toNat ≤ 57 :=
  Char.isDigit_iff_toNat

theorem isSpace_of_isDigit {c : Char} (h : c.isDigit = true) : isSpace c = false := by
  have hrange := isDigit_iff.mp h
  simp only [isSpace]
  simp
  omega

theorem strip_eq_self_of_ends {s : String} (hhead : ∀ c ∈ s.toList.head?, isSpace c = false)
    (hlast : ∀ c ∈ s.toList.getLast?, isSpace c = false) : strip s = s := by
  have hfront : s.toList.dropWhile isSpace = s.toList := by
    cases hs : s.toList with
    | nil => rfl
    | cons c cs =>
      rw [hs] at hhead
      exact List.dropWhile_cons_of_neg (by simpa using hhead c rfl)
  rw [strip, hfront, rstripWhere_eq,
    List.rdropWhile_eq_self_iff.mpr fun hne => by
      simpa using hlast _ (List.getLast?_eq_some_getLast hne), String.ofList_toList]

theorem strip_eq_self {s : String} (h : ∀ c ∈ s.toList, isSpace c = false) :
    strip s = s :=
  strip_eq_self_of_ends (fun c hc => h c (List.mem_of_mem_head? hc))
    fun c hc => h c (List.mem_of_getLast? hc)

/-- A map that keeps the spaces goes through `strip`. -/
theorem strip_map {f : Char → Char} (hf : ∀ c, isSpace (f c) = isSpace c) (s : String) :
    strip (String.ofList (s.toList.map f)) = String.ofList ((strip s).toList.map f) := by
  have hspace : isSpace ∘ f = isSpace := funext hf
  simp only [strip, String.toList_ofList, rstripWhere, List.dropWhile_map, hspace,
    ← List.map_reverse]

theorem toNat_toLower (c : Char) :
    c.toLower.toNat = if 65 ≤ c.toNat ∧ c.toNat ≤ 90 then c.toNat + 32 else c.toNat := by
  have hrange : (c.val ≥ 'A'.val ∧ c.val ≤ 'Z'.val) ↔ 65 ≤ c.toNat ∧ c.toNat ≤ 90 := by
    rw [ge_iff_le, UInt32.le_iff_toNat_le, UInt32.le_iff_toNat_le]
    rfl
  unfold Char.toLower
  split_ifs with hupper hnat hnat
  · have hval : (c.val + ('a'.val - 'A'.val)).toNat = (c.toNat + 32) % 2 ^ 32 := rfl
    rw [← Nat.mod_eq_of_lt (show c.toNat + 32 < 2 ^ 32 by omega)]
    exact hval
  · exact absurd (hrange.mp hupper) hnat
  · exact absurd (hrange.mpr hnat) hupper
  · rfl

theorem isSpace_toLower (c : Char) : isSpace c.toLower = isSpace c := by
  rw [Bool.eq_iff_iff]
  simp only [isSpace, toNat_toLower]
  split_ifs
  · simp
    omega
  · rfl

theorem isDigit_toLower (c : Char) : c.toLower.isDigit = c.isDigit := by
  rw [Bool.eq_iff_iff, isDigit_iff, isDigit_iff, toNat_toLower]
  split_ifs <;> omega

theorem toLower_of_isDigit {c : Char} (h : c.isDigit = true) : c.toLower = c := by
  have hrange := isDigit_iff.mp h
  apply Char.toNat_inj.mp
  rw [toNat_toLower, if_neg (by omega)]

theorem toLower_toLower (c : Char) : c.toLower.toLower = c.toLower := by
  apply Char.toNat_inj.mp
  simp only [toNat_toLower]
  split_ifs <;> omega

theorem asciiLower_asciiLower (s : String) : asciiLower (asciiLower s) = asciiLower s := by
  simp only [asciiLower, String.toList_ofList, List.map_map, Function.comp_def, toLower_toLower]

theorem strip_asciiLower (s : String) : strip (asciiLower s) = asciiLower (strip s) :=
  strip_map isSpace_toLower s

theorem rstrip_map {c : Char} {f : Char → Char} (hf : ∀ d, f d = c ↔ d = c) (s : String) :
    rstrip c (String.ofList (s.toList.map f)) = String.ofList ((rstrip c s).toList.map f) := by
  have hcomp : (fun d => d == c) ∘ f = fun d => d == c := by
    funext d
    rw [Bool.eq_iff_iff]
    simpa using hf d
  simp only [rstrip, String.toList_ofList, rstripWhere, ← List.map_reverse, List.dropWhile_map,
    hcomp]

/-- Lower case neither produces nor changes a character outside the letters. -/
theorem toLower_eq_iff {c : Char} (hc : c.toNat < 65 ∨ 90 < c.toNat ∧ c.toNat < 97) (d : Char) :
    d.toLower = c ↔ d = c := by
  rw [← Char.toNat_inj, ← Char.toNat_inj, toNat_toLower]
  split_ifs <;> omega

theorem rstrip_asciiLower {c : Char} (hc : c.toNat < 65 ∨ 90 < c.toNat ∧ c.toNat < 97)
    (s : String) :
    rstrip c (asciiLower s) = asciiLower (rstrip c s) :=
  rstrip_map (toLower_eq_iff hc) s

theorem mem_of_mem_asciiLower {c : Char} (hc : c.toNat < 65 ∨ 90 < c.toNat ∧ c.toNat < 97)
    (s : String) (h : c ∈ (asciiLower s).toList) : c ∈ s.toList := by
  rw [asciiLower, String.toList_ofList, List.mem_map] at h
  obtain ⟨d, hd, heq⟩ := h
  rwa [← (toLower_eq_iff hc d).mp heq]

theorem map_eq_empty (f : Char → Char) (s : String) :
    String.ofList (s.toList.map f) = "" ↔ s = "" := by
  simp

theorem replaceChar_eq_self {old new : Char} {s : String} (h : old ∉ s.toList) :
    replaceChar old new s = s := by
  have hmap : s.toList.map (fun c => if c = old then new else c) = s.toList.map id :=
    List.map_congr_left fun c hc => if_neg fun heq : c = old => h (heq ▸ hc)
  rw [replaceChar, hmap, List.map_id, String.ofList_toList]

theorem notMem_replaceChar {old new : Char} (hne : new ≠ old) (s : String) :
    old ∉ (replaceChar old new s).toList := by
  rw [replaceChar, String.toList_ofList, List.mem_map]
  rintro ⟨c, -, hc⟩
  split_ifs at hc with heq
  · exact hne hc
  · exact heq hc

theorem strip_replaceChar {old new : Char} (hold : isSpace old = false) (hnew : isSpace new = false)
    (s : String) : strip (replaceChar old new s) = replaceChar old new (strip s) := by
  apply strip_map
  intro c
  split_ifs with heq
  · rw [heq, hold, hnew]
  · rfl

theorem rstrip_rstrip (c : Char) (s : String) : rstrip c (rstrip c s) = rstrip c s := by
  rw [rstrip, rstrip, String.toList_ofList, rstripWhere_eq, rstripWhere_eq,
    List.rdropWhile_idempotent]

theorem getLast?_rstrip (c : Char) (s : String) : (rstrip c s).toList.getLast? ≠ some c := by
  rw [rstrip, String.toList_ofList, rstripWhere_eq]
  intro hlast
  have hne : s.toList.rdropWhile (· == c) ≠ [] := fun hnil => by simp [hnil] at hlast
  rw [List.getLast?_eq_some_getLast hne] at hlast
  exact List.rdropWhile_last_not (· == c) s.toList hne (by simpa using hlast)

theorem notMem_rstrip {c d : Char} {s : String} (h : c ∉ s.toList) : c ∉ (rstrip d s).toList := by
  rw [rstrip, String.toList_ofList, rstripWhere_eq]
  exact fun hmem => h ((List.rdropWhile_prefix _ _).subset hmem)

theorem mem_rstripWhere {p : Char → Bool} {c : Char} {cs : List Char} (hc : p c = false)
    (h : c ∈ cs) : c ∈ rstripWhere p cs := by
  rw [rstripWhere_eq]
  rw [← List.rdropWhile_append_rtakeWhile (p := p) (l := cs), List.mem_append] at h
  refine h.resolve_right fun hmem => ?_
  have hdropped := List.mem_rtakeWhile_imp hmem
  rw [hc] at hdropped
  exact Bool.false_ne_true hdropped

theorem mem_rstrip {c d : Char} {s : String} (hne : c ≠ d) (h : c ∈ s.toList) :
    c ∈ (rstrip d s).toList := by
  rw [rstrip, String.toList_ofList]
  exact mem_rstripWhere (by simpa using hne) h

theorem mem_strip {c : Char} {s : String} (hc : isSpace c = false) (h : c ∈ s.toList) :
    c ∈ (strip s).toList := by
  rw [strip, String.toList_ofList]
  rw [← List.takeWhile_append_dropWhile (p := isSpace) (l := s.toList), List.mem_append] at h
  refine mem_rstripWhere hc (h.resolve_left fun hmem => ?_)
  have hdropped := List.mem_takeWhile_imp hmem
  rw [hc] at hdropped
  exact Bool.false_ne_true hdropped

/-! ## Components -/

theorem intercalate_append {α : Type*} {x : α} {ls rs : List (List α)} (hls : ls ≠ [])
    (hrs : rs ≠ []) :
    [x].intercalate (ls ++ rs) = [x].intercalate ls ++ x :: [x].intercalate rs := by
  induction ls with
  | nil => exact absurd rfl hls
  | cons l ls ih =>
    have hcons {tail : List (List α)} (htail : tail ≠ []) :
        [x].intercalate (l :: tail) = l ++ x :: [x].intercalate tail := by
      rw [List.intercalate_cons_of_ne_nil htail]
      simp
    cases ls with
    | nil => rw [List.singleton_append, hcons hrs, List.intercalate_singleton]
    | cons l' ls =>
      rw [List.cons_append, hcons (by simp), ih (by simp), hcons (by simp), List.append_assoc,
        List.cons_append]

theorem intercalate_concat {α : Type*} (x : α) (ls : List (List α)) (l : List α) :
    [x].intercalate (ls ++ [l]) = ls.flatMap (· ++ [x]) ++ l := by
  induction ls with
  | nil => simp
  | cons l' ls ih =>
    rw [List.cons_append, List.intercalate_cons_of_ne_nil (by simp), ih]
    simp

/-- The components of a text begin those of another one when the text is the other one or ends
at one of its separators. -/
theorem splitOn_prefix_iff {α : Type*} [DecidableEq α] {x : α} {l l' : List α} :
    l.splitOn x <+: l'.splitOn x ↔ l' = l ∨ l ++ [x] <+: l' := by
  constructor
  · rintro ⟨rest, hrest⟩
    have hl' : l' = [x].intercalate (l.splitOn x ++ rest) := by
      rw [hrest, List.intercalate_splitOn]
    cases rest with
    | nil => exact .inl (by rw [hl', List.append_nil, List.intercalate_splitOn])
    | cons r rest =>
      rw [intercalate_append (List.splitOn_ne_nil x l) (by simp), List.intercalate_splitOn] at hl'
      exact .inr ⟨[x].intercalate (r :: rest), by rw [hl']; simp⟩
  · rintro (rfl | ⟨rest, rfl⟩)
    · exact List.prefix_rfl
    · rw [List.append_assoc, List.singleton_append, List.splitOn_append_cons_self]
      exact List.prefix_append _ _

theorem notMem_of_mem_splitOn {α : Type*} [DecidableEq α] {c : α} {cs l : List α}
    (h : l ∈ cs.splitOn c) : c ∉ l := by
  induction cs generalizing l with
  | nil =>
    obtain rfl := List.mem_singleton.mp h
    exact List.not_mem_nil
  | cons d cs ih =>
    rw [List.splitOn_cons_eq_if_modifyHead] at h
    split_ifs at h with hd
    · rcases List.mem_cons.mp h with rfl | h
      · exact List.not_mem_nil
      · exact ih h
    · obtain ⟨first, rest, hsplit⟩ := List.exists_cons_of_ne_nil (List.splitOn_ne_nil c cs)
      rw [hsplit, List.modifyHead_cons] at h
      rcases List.mem_cons.mp h with rfl | h
      · refine List.not_mem_cons_of_ne_of_not_mem (fun heq => hd ?_)
          (ih (hsplit ▸ List.mem_cons_self))
        rw [heq, beq_self_eq_true]
      · exact ih (hsplit ▸ List.mem_cons_of_mem _ h)

example : strip " \t a b\n" = "a b" := by decide

/-! ## Decimal texts -/

theorem isDigit_of_mem_repr {n : Nat} : ∀ c ∈ n.repr.toList, c.isDigit = true := by
  rw [Nat.toList_repr]
  exact fun c hc => Nat.isDigit_of_mem_toDigits (by decide) (by decide) hc

theorem ofDigitChars_repr (n : Nat) : Nat.ofDigitChars 10 n.repr.toList 0 = n := by
  rw [Nat.toList_repr, Nat.ofDigitChars_ten_toDigits]

theorem repr_injective {m n : Nat} (h : m.repr = n.repr) : m = n := by
  rw [← ofDigitChars_repr m, h, ofDigitChars_repr]

/-! ## Texts put together -/

theorem append_cancel {p x y : String} (h : p ++ x = p ++ y) : x = y := by
  have hlist := congrArg String.toList h
  rw [String.toList_append, String.toList_append] at hlist
  exact String.toList_inj.mp (List.append_cancel_left hlist)

/-- What comes behind the first `c` does not matter. -/
theorem beforeFirst_append {c : Char} {p : String} (h : c ∈ p.toList) (x : String) :
    beforeFirst c (p ++ x) = beforeFirst c p := by
  simp only [beforeFirst, String.toList_append]
  congr 1
  generalize p.toList = cs at h
  induction cs with
  | nil => exact absurd h List.not_mem_nil
  | cons d cs ih =>
    by_cases hd : d = c
    · simp [hd]
    · rw [List.cons_append, List.takeWhile_cons_of_pos (by simpa using hd),
        ih ((List.mem_cons.mp h).resolve_left (Ne.symm hd)),
        List.takeWhile_cons_of_pos (by simpa using hd)]

theorem beforeFirst_append_sep {c : Char} {p sep : String} (hsep : sep.toList = [c])
    (hp : c ∉ p.toList) (x : String) : beforeFirst c (p ++ sep ++ x) = p := by
  have hall : ∀ d ∈ p.toList, decide (d ≠ c) = true := fun d hd =>
    decide_eq_true (ne_of_mem_of_not_mem hd hp)
  rw [beforeFirst, String.toList_append, String.toList_append, hsep, List.append_assoc,
    List.takeWhile_append_of_pos hall, List.singleton_append, List.takeWhile_cons_of_neg (by simp),
    List.append_nil, String.ofList_toList]

/-- A text before a separator that it does not contain is determined by the whole. -/
theorem append_sep_inj {c : Char} {p p' x x' sep : String} (hsep : sep.toList = [c])
    (hp : c ∉ p.toList) (hp' : c ∉ p'.toList) (h : p ++ sep ++ x = p' ++ sep ++ x') :
    p = p' ∧ x = x' := by
  have hbefore : p = p' := by
    rw [← beforeFirst_append_sep hsep hp x, h, beforeFirst_append_sep hsep hp' x']
  subst hbefore
  exact ⟨rfl, append_cancel h⟩

end MediaMasterr.Foundations.PythonText
