import MediaMasterr.Foundations.Regex
import MediaMasterr.Filesystem.Paths

/-! # Names of season folders

The season numbers that the name of a folder tells: `find_season_folder` takes the first
directory whose name tells the number, wherever in the name. -/

namespace MediaMasterr.Filesystem

open MediaMasterr.Foundations

/-- The interpreter's table of decimal digits. -/
structure DigitTable where
  isDecimal : Char → Bool
  isDecimal_of_isDigit : ∀ c : Char, c.isDigit → isDecimal c
  isDecimal_newline : isDecimal '\n' = false

/-- What a small letter stands for under `re.IGNORECASE` besides itself. -/
def caseVariants (c : Char) : List Char :=
  if 97 ≤ c.toNat ∧ c.toNat ≤ 122 then
    Char.ofNat (c.toNat - 32) ::
      if c = 's' then ['\u017f'] else if c = 'i' then ['\u0130', '\u0131']
      else if c = 'k' then ['\u212a'] else []
  else []

def sameIgnoringCase (c d : Char) : Bool := d == c || (caseVariants c).contains d

variable (table : DigitTable)

def classes : Regex.Classes := ⟨sameIgnoringCase, PythonText.isSpace, table.isDecimal⟩

/-- `re.compile(pattern, re.IGNORECASE).search(name)` -/
def reSearch (pattern name : String) : Bool :=
  (Regex.parse (classes table) pattern).any fun r => r.search name.toList

/-! ## The numbers of a name -/

/-- The number that `season`, blanks and digits at the start of a text make. -/
def seasonNumberAt (t : List Char) : Option Nat := do
  let rest ← Regex.dropWord sameIgnoringCase "season".toList t
  let numbered := rest.dropWhile PythonText.isSpace
  let digits := numbered.takeWhile Char.isDigit
  if rest.head?.any PythonText.isSpace && !digits.isEmpty &&
      !(numbered.dropWhile Char.isDigit).head?.any table.isDecimal then
    some (Nat.ofDigitChars 10 digits 0)
  else none

/-- The seasons that a name tells, wherever in the name. -/
def seasonNumbers (name : String) : List Nat :=
  name.toList.tails.filterMap (seasonNumberAt table) ++
    if name.toList.tails.any fun t =>
      (Regex.dropWord sameIgnoringCase "specials".toList t).isSome then [0] else []

/-- `Season n` with any number of leading zeros, or `Specials`. -/
def IsExactName (n : Nat) (name : String) : Prop :=
  (∃ zeros, name = "Season " ++ String.ofList (List.replicate zeros '0') ++ toString n) ∨
    n = 0 ∧ name = "Specials"

/-- The text is `n` with any number of leading zeros. -/
def IsPadded (n : Nat) (digits : List Char) : Prop :=
  ∃ zeros, digits = List.replicate zeros '0' ++ Nat.toDigits 10 n

theorem isPadded_zero_iff {digits : List Char} :
    IsPadded 0 digits ↔ digits ≠ [] ∧ ∀ c ∈ digits, c = '0' := by
  constructor
  · rintro ⟨zeros, rfl⟩
    simp [Nat.toDigits_zero, or_imp]
  · rintro ⟨hne, hzero⟩
    obtain ⟨zeros, hzeros⟩ := Nat.exists_eq_add_of_lt (List.length_pos_iff.mpr hne)
    refine ⟨zeros, ?_⟩
    rw [Nat.toDigits_zero, ← List.replicate_succ', List.eq_replicate_iff]
    exact ⟨by omega, hzero⟩

theorem exists_digitChar {c : Char} (h : c.isDigit) : ∃ d < 10, c = Nat.digitChar d := by
  obtain ⟨hlow, hhigh⟩ := PythonText.isDigit_iff.mp h
  refine ⟨c.toNat - 48, by omega, Char.toNat_inj.mp ?_⟩
  rw [Nat.toNat_digitChar_of_lt_ten (by omega)]
  omega

/-- One more digit. -/
theorem IsPadded.concat {n d : Nat} {digits : List Char} (h : IsPadded n digits) (hd : d < 10) :
    IsPadded (10 * n + d) (digits ++ [Nat.digitChar d]) := by
  obtain ⟨zeros, rfl⟩ := h
  rw [← Nat.toDigits_of_lt_base hd, List.append_assoc]
  rcases Nat.eq_zero_or_pos n with rfl | hn
  · refine ⟨zeros + 1, ?_⟩
    rw [Nat.toDigits_zero, List.replicate_succ', List.append_assoc, Nat.mul_zero, Nat.zero_add]
  · exact ⟨zeros, by rw [Nat.toDigits_append_toDigits (by decide) hn hd]⟩

theorem isPadded_iff {n : Nat} {digits : List Char} :
    IsPadded n digits ↔
      digits ≠ [] ∧ (∀ c ∈ digits, c.isDigit) ∧ Nat.ofDigitChars 10 digits 0 = n := by
  constructor
  · rintro ⟨zeros, rfl⟩
    refine ⟨by simp [Nat.toDigits_ne_nil], ?_, ?_⟩
    · intro c hc
      rcases List.mem_append.mp hc with hc | hc
      · rw [(List.mem_replicate.mp hc).2]
        rfl
      · exact Nat.isDigit_of_mem_toDigits (by decide) (by decide) hc
    · rw [Nat.ofDigitChars_append, Nat.ofDigitChars_replicate_zero, Nat.mul_zero,
        Nat.ofDigitChars_ten_toDigits]
  · rintro ⟨hne, hdigit, rfl⟩
    induction digits using List.reverseRecOn with
    | nil => exact absurd rfl hne
    | append_singleton digits c ih =>
      obtain ⟨d, hd, rfl⟩ := exists_digitChar (hdigit c (by simp))
      rw [Nat.ofDigitChars_append, Nat.ofDigitChars_cons_digitChar_of_lt_ten hd,
        Nat.ofDigitChars_nil]
      by_cases hnil : digits = []
      · subst hnil
        exact ⟨0, by simp [Nat.toDigits_of_lt_base hd]⟩
      · exact (ih hnil fun c hc => hdigit c (by simp [hc])).concat hd

/-! ## The patterns -/

theorem isPlain_of_isDigit {c : Char} (h : c.isDigit) : Regex.isPlain c := by
  obtain ⟨hlow, hhigh⟩ := PythonText.isDigit_iff.mp h
  simp [Regex.isPlain, hlow, hhigh]

theorem sameIgnoringCase_of_isDigit {c d : Char} (h : c.isDigit) :
    sameIgnoringCase c d ↔ d = c := by
  obtain ⟨-, hhigh⟩ := PythonText.isDigit_iff.mp h
  rw [sameIgnoringCase, caseVariants, if_neg (by omega)]
  simp

/-- The pieces of a word. -/
def wordPieces (word : String) : List (Regex Char) :=
  word.toList.map fun c => .one (sameIgnoringCase c)

/-- `(?:\D|$)` -/
def endPiece : Regex Char :=
  .alt (Regex.concat [.one fun c => !table.isDecimal c])
    (Regex.concat [.ahead fun t => t.isEmpty || t == ['\n']])

theorem mem_rests_wordPieces {word : String} {t rest : List Char} :
    rest ∈ (Regex.concat (wordPieces word)).rests t ↔
      Regex.dropWord sameIgnoringCase word.toList t = some rest :=
  Regex.mem_rests_word

theorem parse_specials :
    Regex.parse (classes table) "specials" = some (Regex.concat (wordPieces "specials")) := rfl

theorem parse_seasonZero : Regex.parse (classes table) "season\\s+0+(?:\\D|$)" =
    some (Regex.concat (wordPieces "season" ++
      [.one PythonText.isSpace, .many PythonText.isSpace] ++
        [.one (sameIgnoringCase '0'), .many (sameIgnoringCase '0')] ++ [endPiece table])) := by
  have htokens : Regex.tokens "season\\s+0+(?:\\D|$)".toList =
      some ("season".toList.map .letter ++ [.escape 's', .plus, .letter '0', .plus, .opening,
        .escape 'D', .bar, .dollar, .closing]) := rfl
  rw [Regex.parse, htokens]
  rfl

/-- The pieces before the number, in the order in which they stand on the stack. -/
def seasonFrame : Regex.Frame where
  pieces := .many (sameIgnoringCase '0') :: .many PythonText.isSpace :: .one PythonText.isSpace ::
    (wordPieces "season").reverse

theorem tokens_season (n : Nat) :
    Regex.tokens ("season\\s+0*" ++ toString n ++ "(?:\\D|$)").toList =
      some ("season".toList.map .letter ++ [.escape 's', .plus, .letter '0', .star] ++
        ((Nat.toDigits 10 n).map .letter ++ [.opening, .escape 'D', .bar, .dollar, .closing])) := by
  have hdigits : Regex.tokens (Nat.toDigits 10 n ++ "(?:\\D|$)".toList) =
      some ((Nat.toDigits 10 n).map .letter ++
        [.opening, .escape 'D', .bar, .dollar, .closing]) := by
    rw [Regex.tokens_plain_append fun c hc =>
      isPlain_of_isDigit (Nat.isDigit_of_mem_toDigits (by decide) (by decide) hc)]
    rfl
  have hstart : ∀ t, Regex.tokens ("season\\s+0*".toList ++ t) = (Regex.tokens t).map
      ("season".toList.map .letter ++ [.escape 's', .plus, .letter '0', .star] ++ ·) := by
    intro t
    change Regex.tokens ("season".toList ++ ('\\' :: 's' :: '+' :: '0' :: '*' :: t)) = _
    rw [Regex.tokens_plain_append (List.all_eq_true.mp (by decide))]
    cases htokens : Regex.tokens t <;> simp [Regex.tokens, htokens, Regex.isPlain]
  rw [String.toList_append, String.toList_append, Nat.toString_eq_repr, Nat.toList_repr,
    List.append_assoc, hstart, hdigits]
  rfl

theorem parse_season (n : Nat) :
    Regex.parse (classes table) ("season\\s+0*" ++ toString n ++ "(?:\\D|$)") =
      some (Regex.concat (wordPieces "season" ++
        [.one PythonText.isSpace, .many PythonText.isSpace] ++
        (.many (sameIgnoringCase '0') ::
          (Nat.toDigits 10 n).map fun c => .one (sameIgnoringCase c)) ++ [endPiece table])) := by
  have hfold : (("season".toList.map .letter ++ [.escape 's', .plus, .letter '0', .star] ++
      ((Nat.toDigits 10 n).map .letter ++ [.opening, .escape 'D', .bar, .dollar, .closing])) :
        List Regex.Token).foldlM (Regex.parseToken (classes table)) ({}, []) =
      some (Regex.Frame.push { seasonFrame with pieces := ((Nat.toDigits 10 n).map fun c =>
        .one (sameIgnoringCase c)).reverse ++ seasonFrame.pieces } (endPiece table), []) := by
    have hstart : ("season".toList.map .letter ++ [.escape 's', .plus, .letter '0', .star] :
        List Regex.Token).foldlM (Regex.parseToken (classes table)) ({}, []) =
          some (seasonFrame, []) := rfl
    rw [List.foldlM_append, hstart, Option.bind_eq_bind, Option.bind_some, Regex.foldlM_letters]
    rfl
  rw [Regex.parse, tokens_season, Option.bind_eq_bind, Option.bind_some, hfold]
  simp [Regex.Frame.push, Regex.Frame.regex, seasonFrame]

/-- A text that ends a number: it goes on with no decimal digit. -/
def EndsNumber (after : List Char) : Prop := after.head?.any table.isDecimal = false

theorem exists_mem_rests_endPiece {after : List Char} :
    (∃ rest, rest ∈ (Regex.concat [endPiece table]).rests after) ↔ EndsNumber table after := by
  rw [EndsNumber]
  cases after with
  | nil => simp [endPiece]
  | cons c after =>
    simp only [endPiece, Regex.concat_cons, Regex.concat_nil, Regex.mem_rests_seq,
      Regex.mem_rests_alt, Regex.mem_rests_one, Regex.mem_rests_ahead, Regex.mem_rests_empty]
    constructor
    · rintro ⟨rest, middle, ⟨middle', ⟨b, hb, hdecimal⟩, -⟩ | ⟨middle', ⟨rfl, h⟩, -⟩, -⟩
      · obtain ⟨rfl, rfl⟩ := List.cons.inj hb
        simpa using hdecimal
      · obtain ⟨rfl, rfl⟩ : c = '\n' ∧ after = [] := by simpa using h
        simpa using table.isDecimal_newline
    · intro h
      exact ⟨after, after, .inl ⟨after, ⟨c, rfl, by simpa using h⟩, rfl⟩, rfl⟩

/-- The pieces of the number in the pattern of a season. -/
def numberPieces (n : Nat) : List (Regex Char) :=
  if n = 0 then [.one (sameIgnoringCase '0'), .many (sameIgnoringCase '0')]
  else .many (sameIgnoringCase '0') ::
    (Nat.toDigits 10 n).map fun c => .one (sameIgnoringCase c)

theorem dropWord_digits {digits t rest : List Char} (h : ∀ c ∈ digits, c.isDigit) :
    Regex.dropWord sameIgnoringCase digits t = some rest ↔ t = digits ++ rest := by
  induction digits generalizing t with
  | nil => simp [Regex.dropWord]
  | cons c digits ih =>
    obtain ⟨hc, hdigits⟩ := List.forall_mem_cons.mp h
    cases t with
    | nil => simp [Regex.dropWord]
    | cons d t =>
      rw [Regex.dropWord]
      split
      case isTrue hsame =>
        obtain rfl := (sameIgnoringCase_of_isDigit hc).mp hsame
        simp [ih hdigits]
      case isFalse hsame =>
        simp only [reduceCtorEq, List.cons_append, List.cons.injEq, false_iff, not_and]
        rintro rfl
        exact absurd ((sameIgnoringCase_of_isDigit hc).mpr rfl) hsame

theorem mem_rests_numberPieces {n : Nat} {t rest : List Char} :
    rest ∈ (Regex.concat (numberPieces n)).rests t ↔ ∃ run, t = run ++ rest ∧ IsPadded n run := by
  have hzero : ∀ c : Char, sameIgnoringCase '0' c ↔ c = '0' :=
    fun c => sameIgnoringCase_of_isDigit rfl
  rw [numberPieces]
  split
  case isTrue hn =>
    subst hn
    simp only [Regex.concat_cons, Regex.concat_nil, Regex.mem_rests_seq, Regex.mem_rests_one,
      Regex.mem_rests_many, Regex.mem_rests_empty, hzero, isPadded_zero_iff]
    constructor
    · rintro ⟨middle, ⟨c, rfl, rfl⟩, middle', ⟨run, rfl, hrun⟩, rfl⟩
      exact ⟨'0' :: run, rfl, by simp, by simpa using hrun⟩
    · rintro ⟨run, rfl, hne, hrun⟩
      obtain ⟨c, run, rfl⟩ := List.exists_cons_of_ne_nil hne
      obtain ⟨hc, hrun⟩ := List.forall_mem_cons.mp hrun
      exact ⟨run ++ rest, ⟨c, rfl, hc⟩, rest, ⟨run, rfl, hrun⟩, rfl⟩
  case isFalse hn =>
    rw [Regex.concat_cons, Regex.mem_rests_seq]
    simp only [Regex.mem_rests_many, Regex.mem_rests_word, hzero, dropWord_digits
      fun c hc => Nat.isDigit_of_mem_toDigits (b := 10) (by decide) (by decide) hc]
    constructor
    · rintro ⟨middle, ⟨zeros, rfl, hzeros⟩, rfl⟩
      refine ⟨zeros ++ Nat.toDigits 10 n, by simp, zeros.length, ?_⟩
      rw [← List.eq_replicate_of_mem hzeros]
    · rintro ⟨run, rfl, zeros, rfl⟩
      exact ⟨Nat.toDigits 10 n ++ rest, ⟨List.replicate zeros '0', by simp, fun c hc =>
        (List.mem_replicate.mp hc).2⟩, rfl⟩

/-- The text begins with `season`, blanks and the number. -/
def TellsSeason (n : Nat) (t : List Char) : Prop :=
  ∃ blank blanks run after,
    Regex.dropWord sameIgnoringCase "season".toList t = some (blank :: blanks ++ (run ++ after)) ∧
      (∀ c ∈ blank :: blanks, PythonText.isSpace c) ∧ IsPadded n run ∧ EndsNumber table after

theorem exists_mem_rests_season {n : Nat} {t : List Char} :
    (∃ rest, rest ∈ (Regex.concat (wordPieces "season" ++
      [.one PythonText.isSpace, .many PythonText.isSpace] ++ numberPieces n ++
        [endPiece table])).rests t) ↔ TellsSeason table n t := by
  have hblanks : ∀ t rest, rest ∈ (Regex.concat [.one PythonText.isSpace,
      .many PythonText.isSpace]).rests t ↔ ∃ blank blanks, t = blank :: blanks ++ rest ∧
        ∀ c ∈ blank :: blanks, PythonText.isSpace c := by
    intro t rest
    simp only [Regex.concat_cons, Regex.concat_nil, Regex.mem_rests_seq, Regex.mem_rests_one,
      Regex.mem_rests_many, Regex.mem_rests_empty]
    constructor
    · rintro ⟨middle, ⟨blank, rfl, hblank⟩, middle', ⟨blanks, rfl, hblanks⟩, rfl⟩
      exact ⟨blank, blanks, rfl, List.forall_mem_cons.mpr ⟨hblank, hblanks⟩⟩
    · rintro ⟨blank, blanks, rfl, h⟩
      obtain ⟨hblank, hblanks⟩ := List.forall_mem_cons.mp h
      exact ⟨blanks ++ rest, ⟨blank, rfl, hblank⟩, rest, ⟨blanks, rfl, hblanks⟩, rfl⟩
  simp only [Regex.mem_rests_concat_append, mem_rests_wordPieces, hblanks,
    mem_rests_numberPieces]
  constructor
  · rintro ⟨rest, after, ⟨numbered, ⟨blanked, hword, blank, blanks, rfl, hspace⟩, run, rfl, hrun⟩,
      hrest⟩
    exact ⟨blank, blanks, run, after, hword, hspace, hrun,
      (exists_mem_rests_endPiece table).mp ⟨rest, hrest⟩⟩
  · rintro ⟨blank, blanks, run, after, hword, hspace, hrun, hends⟩
    obtain ⟨rest, hrest⟩ := (exists_mem_rests_endPiece table).mpr hends
    exact ⟨rest, after, ⟨run ++ after, ⟨_, hword, blank, blanks, rfl, hspace⟩, run, rfl, hrun⟩,
      hrest⟩

/-- The blanks and the digits of a text are its longest ones. -/
theorem numbered_spans {blanks run after : List Char} {n : Nat}
    (hspace : ∀ c ∈ blanks, PythonText.isSpace c) (hrun : IsPadded n run)
    (hends : EndsNumber table after) :
    (blanks ++ (run ++ after)).dropWhile PythonText.isSpace = run ++ after ∧
      (run ++ after).takeWhile Char.isDigit = run ∧
      (run ++ after).dropWhile Char.isDigit = after := by
  obtain ⟨hne, hdigit, -⟩ := isPadded_iff.mp hrun
  have hafter : after.takeWhile Char.isDigit = [] ∧ after.dropWhile Char.isDigit = after := by
    cases after with
    | nil => exact ⟨rfl, rfl⟩
    | cons c after =>
      have hc : ¬c.isDigit := fun hc => by
        simp [EndsNumber, table.isDecimal_of_isDigit c hc] at hends
      exact ⟨List.takeWhile_cons_of_neg hc, List.dropWhile_cons_of_neg hc⟩
  refine ⟨?_, ?_, ?_⟩
  · obtain ⟨c, run, rfl⟩ := List.exists_cons_of_ne_nil hne
    rw [List.dropWhile_append_of_pos hspace, List.cons_append,
      List.dropWhile_cons_of_neg (by simp [PythonText.isSpace_of_isDigit (hdigit c List.mem_cons_self)])]
  · rw [List.takeWhile_append_of_pos hdigit, hafter.1, List.append_nil]
  · rw [List.dropWhile_append_of_pos hdigit, hafter.2]

theorem seasonNumberAt_eq_some_iff {n : Nat} {t : List Char} :
    seasonNumberAt table t = some n ↔ TellsSeason table n t := by
  rw [seasonNumberAt, TellsSeason]
  cases hword : Regex.dropWord sameIgnoringCase "season".toList t with
  | none => simp
  | some rest =>
    simp only [Option.bind_eq_bind, Option.bind_some, Option.ite_none_right_eq_some,
      Option.some.injEq, Bool.and_eq_true, Bool.not_eq_true', List.isEmpty_eq_false_iff]
    constructor
    · rintro ⟨⟨⟨hblank, hne⟩, hends⟩, hvalue⟩
      obtain ⟨blank, rest, rfl⟩ : ∃ blank tail, rest = blank :: tail := by
        cases rest with
        | nil => cases hblank
        | cons blank tail => exact ⟨blank, tail, rfl⟩
      have hblank : PythonText.isSpace blank := by simpa using hblank
      rw [List.dropWhile_cons_of_pos hblank] at hne hends hvalue
      refine ⟨blank, rest.takeWhile PythonText.isSpace,
        (rest.dropWhile PythonText.isSpace).takeWhile Char.isDigit,
        (rest.dropWhile PythonText.isSpace).dropWhile Char.isDigit, ?_, ?_,
        isPadded_iff.mpr ⟨hne, fun c hc => ?_, hvalue⟩, hends⟩
      · rw [List.takeWhile_append_dropWhile, List.cons_append, List.takeWhile_append_dropWhile]
      · exact List.forall_mem_cons.mpr ⟨hblank, fun c hc => List.mem_takeWhile_imp hc⟩
      · exact List.mem_takeWhile_imp hc
    · rintro ⟨blank, blanks, run, after, rfl, hspace, hrun, hends⟩
      obtain ⟨hdrop, htake, hrest⟩ := numbered_spans table hspace hrun hends
      obtain ⟨hne, -, hvalue⟩ := isPadded_iff.mp hrun
      rw [hdrop, htake, hrest]
      have hblank := hspace blank List.mem_cons_self
      exact ⟨⟨⟨by simpa using hblank, hne⟩, hends⟩, hvalue⟩

/-- The patterns of a season, as `find_season_folder` builds them. -/
def seasonPatterns (n : Nat) : List String :=
  if n = 0 then ["season\\s+0+(?:\\D|$)", "specials"]
  else ["season\\s+0*" ++ toString n ++ "(?:\\D|$)"]

theorem mem_seasonNumbers_iff {n : Nat} {name : String} :
    n ∈ seasonNumbers table name ↔ (∃ tail, tail <:+ name.toList ∧ TellsSeason table n tail) ∨
      n = 0 ∧ ∃ tail, tail <:+ name.toList ∧
        ∃ rest, Regex.dropWord sameIgnoringCase "specials".toList tail = some rest := by
  rw [seasonNumbers, List.mem_append, List.mem_filterMap]
  refine or_congr ?_ ?_
  · simp only [List.mem_tails, seasonNumberAt_eq_some_iff]
  · have hany : (name.toList.tails.any fun t =>
        (Regex.dropWord sameIgnoringCase "specials".toList t).isSome) = true ↔
        ∃ tail, tail <:+ name.toList ∧
          ∃ rest, Regex.dropWord sameIgnoringCase "specials".toList tail = some rest := by
      simp [List.any_eq_true, Option.isSome_iff_exists]
    rw [← hany]
    split
    case isTrue h => simp only [List.mem_singleton, h, and_true]
    case isFalse h => exact iff_of_false List.not_mem_nil fun hn => h hn.2

theorem any_reSearch_iff {n : Nat} {name : String} :
    (seasonPatterns n).any (reSearch table · name) ↔ n ∈ seasonNumbers table name := by
  rw [mem_seasonNumbers_iff, seasonPatterns]
  split
  case isTrue hn =>
    subst hn
    have hseason := @exists_mem_rests_season table 0
    rw [numberPieces, if_pos rfl] at hseason
    simp only [List.any_cons, List.any_nil, Bool.or_false, Bool.or_eq_true, reSearch,
      parse_specials, parse_seasonZero, Option.any_some, Regex.search_iff, hseason,
      mem_rests_wordPieces, true_and]
  case isFalse hn =>
    have hseason := @exists_mem_rests_season table n
    rw [numberPieces, if_neg hn] at hseason
    simp only [List.any_cons, List.any_nil, Bool.or_false, reSearch, parse_season,
      Option.any_some, Regex.search_iff, hseason, hn, false_and, or_false]

/-! ## The folders of a series -/

/-- The directories in a folder, in the order in which they are listed. -/
def subdirectories (disk : DiskView) (path : LocalPath) : List String :=
  if disk.isDir path then
    (disk.iterdir path).filter fun name => disk.isDir (path.joinParts [name])
  else []

/-- The first directory that tells the season. -/
theorem findSeasonFolder_eq (disk : DiskView) (path : LocalPath) (n : Nat) :
    findSeasonFolder disk (reSearch table) path n =
      ((subdirectories disk path).find? fun name => (seasonNumbers table name).contains n).map
        fun name => path.joinParts [name] := by
  have hcontains : ∀ name, (seasonPatterns n).any (reSearch table · name) =
      (seasonNumbers table name).contains n := by
    intro name
    rw [Bool.eq_iff_iff, any_reSearch_iff, List.contains_iff_mem]
  simp only [seasonPatterns] at hcontains
  rw [findSeasonFolder, subdirectories]
  cases disk.isDir path with
  | false => rfl
  | true =>
    simp only [Bool.not_true, Bool.false_eq_true, if_false, if_true, hcontains]
    rw [← List.head?_filter, List.filter_filter]
    simp only [Bool.and_comm]

theorem mem_seasonNumbers_of_isExactName {n : Nat} {name : String} (h : IsExactName n name) :
    n ∈ seasonNumbers table name := by
  rw [mem_seasonNumbers_iff]
  rcases h with ⟨zeros, rfl⟩ | ⟨rfl, rfl⟩
  · refine .inl ⟨_, List.suffix_rfl, ' ', [], List.replicate zeros '0' ++ Nat.toDigits 10 n, [],
      ?_, by simp [PythonText.isSpace], ⟨zeros, rfl⟩, rfl⟩
    rw [String.toList_append, String.toList_append, String.toList_ofList, Nat.toString_eq_repr,
      Nat.toList_repr]
    simp [Regex.dropWord, sameIgnoringCase, caseVariants]
  · exact .inr ⟨rfl, _, List.suffix_rfl, [], rfl⟩

theorem joinParts_injective {path : LocalPath} {m n : Nat} {name name' : String}
    (hname : m ∈ seasonNumbers table name) (hname' : n ∈ seasonNumbers table name')
    (h : path.joinParts [name] = path.joinParts [name']) : name = name' := by
  have hpart : ∀ {k : Nat} {s : String}, k ∈ seasonNumbers table s →
      (path.joinParts [s]).parts = path.parts ++ [s] := by
    intro k s hs
    have hempty : s ≠ "" := by
      rintro rfl
      cases (hs : k ∈ ([] : List Nat))
    have hdot : s ≠ "." := by
      rintro rfl
      cases (hs : k ∈ ([] : List Nat))
    simp [LocalPath.joinParts, hempty, hdot]
  have hparts := congrArg LocalPath.parts h
  rw [hpart hname, hpart hname', List.append_cancel_left_eq] at hparts
  exact List.singleton_inj.mp hparts

end MediaMasterr.Filesystem
