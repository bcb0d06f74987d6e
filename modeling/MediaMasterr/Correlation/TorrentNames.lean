import MediaMasterr.Foundations.WordPatterns
import MediaMasterr.Foundations.PythonText

/-! # Torrent names

What the correlation reads in the name of a torrent: a season and an episode, a title and
a year. Beside the parsers stands what each of their patterns can match. -/

namespace MediaMasterr.Correlation

open MediaMasterr.Foundations


/-- `_CORRELATION_NOISE_TOKENS`. -/
def correlationNoiseTokens : List String :=
  ["1080p", "720p", "2160p", "x264", "x265", "h264", "h265", "hevc", "bluray", "brrip", "webrip",
    "webdl", "web", "proper", "repack", "remux", "hdr", "dv", "dts", "aac", "ac3", "yify"]

/-- What the interpreter's tables tell of letters: the decimal digits of all scripts with their
values, and the letters of the words of a pattern. -/
structure NameTables extends PythonText.CaseTables where
  isDecimal : Char → Bool
  digitValue : Char → Nat
  isWord : Char → Bool
  lower_ascii : ∀ s : String, (∀ c ∈ s.toList, c.toNat < 128) → lower s = PythonText.asciiLower s
  isDecimal_ascii : ∀ c : Char, c.toNat < 128 → isDecimal c = c.isDigit
  digitValue_ascii : ∀ c : Char, c.isDigit → digitValue c = c.toNat - 48
  isWord_ascii : ∀ c : Char, c.toNat < 128 → isWord c = (c.isAlphanum || c == '_')
  isWord_of_isDecimal : ∀ c, isDecimal c → isWord c
  isWord_of_isSpace : ∀ c, PythonText.isSpace c → isWord c = false

section Parsers

variable (tables : NameTables)

/-- `int` on decimal digits. -/
def NameTables.int (digits : List Char) : Nat :=
  digits.foldl (fun n c => 10 * n + tables.digitValue c) 0

/-- `\d` with its repetitions. -/
def digits (least : Nat) (most : Option Nat) : WordPattern Char := .rep tables.isDecimal least most

/-- `(19\d{2}|20\d{2})` -/
def yearBody : WordPattern Char :=
  .group (.alt (.seq (.literal ['1', '9']) (digits tables 2 (some 2)))
    (.seq (.literal ['2', '0']) (digits tables 2 (some 2))))

/-- A season and an episode with their letters. -/
def sxe (season episode : WordPattern Char) : WordPattern Char :=
  .seq (.literal ['s']) (.seq season (.seq (.literal ['e']) episode))

/-- `s(\d{1,2})e(\d{1,3})` -/
def sxeBody : WordPattern Char :=
  sxe (.group (digits tables 1 (some 2))) (.group (digits tables 1 (some 3)))

/-- A word, blanks and a number. -/
def numbered (word : String) (number : WordPattern Char) : WordPattern Char :=
  .seq (.literal word.toList) (.seq (.rep PythonText.isSpace 0 none) number)

/-- `s\d{1,2}e\d{1,2}` -/
def shortSxeBody : WordPattern Char := sxe (digits tables 1 (some 2)) (digits tables 1 (some 2))

/-- `(s\d{1,2}e\d{1,2}|season\s*\d+|episode\s*\d+)` -/
def markerBody : WordPattern Char :=
  .group (.alt (shortSxeBody tables) (.alt (numbered "season" (digits tables 1 none))
    (numbered "episode" (digits tables 1 none))))

/-- `\b…\b` -/
def yearPattern : WordPattern Char := .between (yearBody tables)

def sxePattern : WordPattern Char := .between (sxeBody tables)

/-- `\bseason\s*(\d{1,2})\b` -/
def seasonPattern : WordPattern Char :=
  .between (numbered "season" (.group (digits tables 1 (some 2))))

/-- `\bepisode\s*(\d{1,3})\b` -/
def episodePattern : WordPattern Char :=
  .between (numbered "episode" (.group (digits tables 1 (some 3))))

def markerPattern : WordPattern Char := .between (markerBody tables)

/-- The number in a group of what a search found. -/
def numberOf (found : Option (WordPattern.Found Char)) (group : Nat) : Option Nat :=
  (found.bind (·.groups[group]?)).map tables.int

/-- `_parse_torrent_episode_markers`. -/
def parseTorrentEpisodeMarkers (name : String) : Option Nat × Option Nat :=
  let lowered := (tables.lower name).toList
  match WordPattern.search tables.isWord (sxePattern tables) none lowered with
  | some sxe => (numberOf tables (some sxe) 0, numberOf tables (some sxe) 1)
  | none =>
    let seasonMatch := WordPattern.search tables.isWord (seasonPattern tables) none lowered
    let episodeMatch := WordPattern.search tables.isWord (episodePattern tables) none lowered
    (numberOf tables seasonMatch 0, numberOf tables episodeMatch 0)

/-- `[a-z0-9]` -/
def isTokenChar (c : Char) : Bool := ('a' ≤ c && c ≤ 'z') || ('0' ≤ c && c ≤ '9')

/-- A piece of a name that counts as a word of the title. -/
def keepsToken (token : String) : Bool :=
  token ≠ "" && token ∉ correlationNoiseTokens && !token.toList.all Char.isDigit

/-- The kept pieces between letters other than `[a-z0-9]`. -/
def titleTokens (base : List Char) : List String :=
  ((base.splitOnP (!isTokenChar ·)).map String.ofList).filter keepsToken

/-- `_parse_torrent_identity`. -/
def parseTorrentIdentity (name : String) : String × Option Nat :=
  let lowered := (tables.lower name).toList
  let year := numberOf tables (WordPattern.search tables.isWord (yearPattern tables) none lowered) 0
  let base := WordPattern.sub tables.isWord (yearPattern tables) [' '] 0 none lowered
  let base := WordPattern.sub tables.isWord (markerPattern tables) [' '] 0 none base
  (PythonText.strip (" ".intercalate ((titleTokens base).take 8)), year)

end Parsers
/-! ## Letters -/

section Letters

variable {tables : NameTables} {c : Char}

theorem isTokenChar_iff : isTokenChar c ↔
    97 ≤ c.toNat ∧ c.toNat ≤ 122 ∨ 48 ≤ c.toNat ∧ c.toNat ≤ 57 := by
  simp [isTokenChar, Char.le_def, UInt32.le_iff_toNat_le]

theorem isTokenChar_of_isDigit (h : c.isDigit) : isTokenChar c := by
  obtain ⟨hlow, hhigh⟩ := PythonText.isDigit_iff.mp h
  exact isTokenChar_iff.mpr (Or.inr ⟨hlow, hhigh⟩)

theorem toNat_lt_of_isTokenChar (h : isTokenChar c) : c.toNat < 128 := by
  have := isTokenChar_iff.mp h
  omega

theorem isAlphanum_iff : c.isAlphanum ↔ (65 ≤ c.toNat ∧ c.toNat ≤ 90 ∨
    97 ≤ c.toNat ∧ c.toNat ≤ 122) ∨ 48 ≤ c.toNat ∧ c.toNat ≤ 57 := by
  change ((decide (c.val ≥ 'A'.val ∧ c.val ≤ 'Z'.val) ||
    (decide (c.val ≥ 'a'.val) && decide (c.val ≤ 'z'.val))) ||
      (decide (c.val ≥ '0'.val) && decide (c.val ≤ '9'.val))) = true ↔ _
  simp only [Bool.or_eq_true, Bool.and_eq_true, decide_eq_true_eq, ge_iff_le,
    UInt32.le_iff_toNat_le]
  exact Iff.rfl

theorem isWord_of_isTokenChar (h : isTokenChar c) : tables.isWord c := by
  have halphanum : c.isAlphanum := by
    have hrange := isTokenChar_iff.mp h
    exact isAlphanum_iff.mpr (by omega)
  rw [tables.isWord_ascii c (toNat_lt_of_isTokenChar h), halphanum, Bool.true_or]

theorem toLower_of_isTokenChar (h : isTokenChar c) : c.toLower = c := by
  rw [← Char.toNat_inj, PythonText.toNat_toLower, if_neg]
  have := isTokenChar_iff.mp h
  omega

theorem isSpace_of_isTokenChar (h : isTokenChar c) : PythonText.isSpace c = false := by
  have hrange := isTokenChar_iff.mp h
  simp only [PythonText.isSpace]
  simp
  omega

theorem isDigit_of_isDecimal (h : isTokenChar c) (hdecimal : tables.isDecimal c) : c.isDigit := by
  rwa [← tables.isDecimal_ascii c (toNat_lt_of_isTokenChar h)]

theorem isDecimal_of_isDigit (h : c.isDigit) : tables.isDecimal c := by
  rwa [tables.isDecimal_ascii c (toNat_lt_of_isTokenChar (isTokenChar_of_isDigit h))]

theorem int_eq_ofDigitChars {digits : List Char} (h : ∀ c ∈ digits, c.isDigit) :
    tables.int digits = Nat.ofDigitChars 10 digits 0 := by
  rw [NameTables.int, Nat.ofDigitChars_eq_foldl]
  generalize 0 = n
  induction digits generalizing n with
  | nil => rfl
  | cons d digits ih =>
    obtain ⟨hd, hdigits⟩ := List.forall_mem_cons.mp h
    rw [List.foldl_cons, List.foldl_cons, tables.digitValue_ascii d hd]
    exact ih hdigits _

end Letters
/-! ## Matches of the patterns -/

section Patterns

open WordPattern

variable {tables : NameTables} {f : Found Char} {before : Option Char} {t : List Char}

theorem mem_run_digits {least : Nat} {most : Option Nat} :
    f ∈ run tables.isWord (digits tables least most) before t ↔ ∃ taken rest, t = taken ++ rest ∧
      (∀ c ∈ taken, tables.isDecimal c) ∧ least ≤ taken.length ∧
        (∀ m ∈ most, taken.length ≤ m) ∧ f = ⟨taken, [], rest⟩ := mem_run_rep

/-- A year is made of digits. -/
theorem isDecimal_of_mem_yearBody (h : f ∈ run tables.isWord (yearBody tables) before t) :
    ∀ c ∈ f.taken, tables.isDecimal c := by
  have hseq {first : List Char} (hfirst : ∀ c ∈ first, c.isDigit) {g : Found Char}
      (hg : g ∈ run tables.isWord (.seq (.literal first) (digits tables 2 (some 2))) before t) :
      ∀ c ∈ g.taken, tables.isDecimal c := by
    obtain ⟨_, hliteral, _, hdigits, rfl⟩ := mem_run_seq.mp hg
    obtain ⟨rest, -, rfl⟩ := mem_run_literal.mp hliteral
    obtain ⟨taken, _, -, hdecimal, -, -, rfl⟩ := mem_run_digits.mp hdigits
    intro c hc
    rcases List.mem_append.mp hc with hc | hc
    · exact isDecimal_of_isDigit (hfirst c hc)
    · exact hdecimal c hc
  obtain ⟨g, hg, rfl⟩ := mem_run_group.mp h
  exact (mem_run_alt.mp hg).elim (hseq (List.all_eq_true.mp rfl)) (hseq (List.all_eq_true.mp rfl))

/-- What a pattern reads is a number of at most so many digits, which a group may wrap. -/
def ReadsNumber (tables : NameTables) (number : WordPattern Char) (most : Nat)
    (wrap : List Char → List (List Char)) : Prop :=
  ∀ before t f, f ∈ run tables.isWord number before t ↔ ∃ taken rest, t = taken ++ rest ∧
    (∀ c ∈ taken, tables.isDecimal c) ∧ 1 ≤ taken.length ∧ taken.length ≤ most ∧
      f = ⟨taken, wrap taken, rest⟩

theorem readsNumber_digits (most : Nat) :
    ReadsNumber tables (digits tables 1 (some most)) most fun _ => [] := fun before t f => by
  rw [mem_run_digits]
  simp

theorem readsNumber_group (most : Nat) :
    ReadsNumber tables (.group (digits tables 1 (some most))) most fun taken => [taken] := by
  intro before t f
  rw [mem_run_group]
  constructor
  · rintro ⟨g, hg, rfl⟩
    obtain ⟨taken, rest, rfl, hdecimal, hleast, hmost, rfl⟩ := (readsNumber_digits most _ _ g).mp hg
    exact ⟨taken, rest, rfl, hdecimal, hleast, hmost, rfl⟩
  · rintro ⟨taken, rest, rfl, hdecimal, hleast, hmost, rfl⟩
    exact ⟨_, (readsNumber_digits most _ _ _).mpr ⟨taken, rest, rfl, hdecimal, hleast, hmost, rfl⟩,
      rfl⟩

/-- A match of a season and an episode is the two numbers behind their letters. -/
theorem mem_sxe {first second : WordPattern Char} {most most' : Nat}
    {wrap : List Char → List (List Char)} (hfirst : ReadsNumber tables first most wrap)
    (hsecond : ReadsNumber tables second most' wrap) :
    f ∈ run tables.isWord (sxe first second) before t ↔
      ∃ season episode rest, t = 's' :: (season ++ 'e' :: (episode ++ rest)) ∧
        (∀ c ∈ season ++ episode, tables.isDecimal c) ∧ 1 ≤ season.length ∧
          season.length ≤ most ∧ 1 ≤ episode.length ∧ episode.length ≤ most' ∧
            f = ⟨'s' :: (season ++ 'e' :: episode), wrap season ++ wrap episode, rest⟩ := by
  simp only [sxe, mem_run_seq, mem_run_literal, hfirst _ _ _, hsecond _ _ _]
  constructor
  · rintro ⟨_, ⟨_, rfl, rfl⟩, _, ⟨_, ⟨season, _, rfl, hseason, hleast, hmost, rfl⟩, _,
      ⟨_, ⟨_, rfl, rfl⟩, _, ⟨episode, rest, rfl, hepisode, hleast', hmost', rfl⟩, rfl⟩, rfl⟩, rfl⟩
    refine ⟨season, episode, rest, by simp, ?_, hleast, hmost, hleast', hmost', by simp⟩
    exact List.forall_mem_append.mpr ⟨hseason, hepisode⟩
  · rintro ⟨season, episode, rest, rfl, hdecimal, hleast, hmost, hleast', hmost', rfl⟩
    obtain ⟨hseason, hepisode⟩ := List.forall_mem_append.mp hdecimal
    exact ⟨_, ⟨_, rfl, rfl⟩, _, ⟨_, ⟨season, _, rfl, hseason, hleast, hmost, rfl⟩, _,
      ⟨_, ⟨_, rfl, rfl⟩, _, ⟨episode, rest, rfl, hepisode, hleast', hmost', rfl⟩, rfl⟩, rfl⟩,
      by simp⟩

theorem mem_sxeBody : f ∈ run tables.isWord (sxeBody tables) before t ↔
    ∃ season episode rest, t = 's' :: (season ++ 'e' :: (episode ++ rest)) ∧
      (∀ c ∈ season ++ episode, tables.isDecimal c) ∧ 1 ≤ season.length ∧ season.length ≤ 2 ∧
        1 ≤ episode.length ∧ episode.length ≤ 3 ∧
          f = ⟨'s' :: (season ++ 'e' :: episode), [season, episode], rest⟩ :=
  mem_sxe (readsNumber_group 2) (readsNumber_group 3)

theorem mem_shortSxeBody : f ∈ run tables.isWord (shortSxeBody tables) before t ↔
    ∃ season episode rest, t = 's' :: (season ++ 'e' :: (episode ++ rest)) ∧
      (∀ c ∈ season ++ episode, tables.isDecimal c) ∧ 1 ≤ season.length ∧ season.length ≤ 2 ∧
        1 ≤ episode.length ∧ episode.length ≤ 2 ∧
          f = ⟨'s' :: (season ++ 'e' :: episode), [], rest⟩ :=
  mem_sxe (readsNumber_digits 2) (readsNumber_digits 2)

/-- The matches are numbers. -/
def IsNumber (tables : NameTables) (number : WordPattern Char) : Prop :=
  ∀ before t, ∀ f ∈ run tables.isWord number before t,
    f.taken ≠ [] ∧ ∀ c ∈ f.taken, tables.isDecimal c

theorem isNumber_digits (most : Option Nat) : IsNumber tables (digits tables 1 most) := by
  intro before t f hf
  obtain ⟨taken, rest, -, hdecimal, hleast, -, rfl⟩ := mem_run_digits.mp hf
  exact ⟨List.length_pos_iff.mp hleast, hdecimal⟩

theorem isNumber_group {number : WordPattern Char} (h : IsNumber tables number) :
    IsNumber tables (.group number) := by
  intro before t f hf
  obtain ⟨g, hg, rfl⟩ := mem_run_group.mp hf
  exact h before t g hg

/-- A match of a numbered word is the word, blanks and digits. -/
theorem taken_of_mem_numbered {word : String} {number : WordPattern Char}
    (hnumber : IsNumber tables number) (h : f ∈ run tables.isWord (numbered word number) before t) :
    ∃ spaces digits, f.taken = word.toList ++ (spaces ++ digits) ∧
      (∀ c ∈ spaces, PythonText.isSpace c) ∧ digits ≠ [] ∧ ∀ c ∈ digits, tables.isDecimal c := by
  obtain ⟨_, hword, _, hrest, rfl⟩ := mem_run_seq.mp h
  obtain ⟨_, -, rfl⟩ := mem_run_literal.mp hword
  obtain ⟨_, hspaces, g, hg, rfl⟩ := mem_run_seq.mp hrest
  obtain ⟨spaces, _, -, hspace, -, -, rfl⟩ := mem_run_rep.mp hspaces
  obtain ⟨hne, hdecimal⟩ := hnumber _ _ g hg
  exact ⟨spaces, g.taken, rfl, hspace, hne, hdecimal⟩

theorem startsInWord_numbered {word : String} {number : WordPattern Char} {c : Char}
    {cs : List Char} (hword : word.toList = c :: cs) (hc : isTokenChar c) :
    StartsInWord tables.isWord (numbered word number) := by
  rw [numbered, hword]
  exact startsInWord_literal (isWord_of_isTokenChar hc)

theorem startsInWord_yearBody : StartsInWord tables.isWord (yearBody tables) :=
  ((startsInWord_literal (isWord_of_isTokenChar (by decide))).alt
    (startsInWord_literal (isWord_of_isTokenChar (by decide)))).group

theorem startsInWord_sxeBody : StartsInWord tables.isWord (sxeBody tables) :=
  startsInWord_literal (isWord_of_isTokenChar (by decide))

theorem startsInWord_shortSxeBody : StartsInWord tables.isWord (shortSxeBody tables) :=
  startsInWord_literal (isWord_of_isTokenChar (by decide))

/-- The letters of a marker are those of a word. -/
theorem isWord_marker {season episode : List Char}
    (hdecimal : ∀ c ∈ season ++ episode, tables.isDecimal c) :
    ∀ c ∈ 's' :: (season ++ 'e' :: episode), tables.isWord c := by
  obtain ⟨hseason, hepisode⟩ := List.forall_mem_append.mp hdecimal
  simp only [List.forall_mem_cons, List.forall_mem_append]
  exact ⟨isWord_of_isTokenChar (by decide), fun c hc => tables.isWord_of_isDecimal c (hseason c hc),
    isWord_of_isTokenChar (by decide), fun c hc => tables.isWord_of_isDecimal c (hepisode c hc)⟩

theorem isWord_of_mem_sxeBody (h : f ∈ run tables.isWord (sxeBody tables) before t) :
    ∀ c ∈ f.taken, tables.isWord c := by
  obtain ⟨season, episode, rest, -, hdecimal, -, -, -, -, rfl⟩ := mem_sxeBody.mp h
  exact isWord_marker hdecimal

/-- A short marker is one with at most two digits for the episode. -/
theorem exists_sxeBody_of_shortSxeBody
    (h : f ∈ run tables.isWord (shortSxeBody tables) before t) :
    ∃ g ∈ run tables.isWord (sxeBody tables) before t, g.taken = f.taken := by
  obtain ⟨season, episode, rest, ht, hdecimal, hleast, hmost, hleast', hmost', rfl⟩ :=
    mem_shortSxeBody.mp h
  exact ⟨_, mem_sxeBody.mpr ⟨season, episode, rest, ht, hdecimal, hleast, hmost, hleast',
    hmost'.trans (by decide), rfl⟩, rfl⟩

theorem startsInWord_markerBody : StartsInWord tables.isWord (markerBody tables) :=
  (startsInWord_shortSxeBody.alt
    ((startsInWord_numbered rfl (by decide)).alt (startsInWord_numbered rfl (by decide)))).group

end Patterns

/-! ## Tables for ASCII text -/

theorem not_isAlphanum_of_isSpace {c : Char} (h : PythonText.isSpace c) :
    (c.isAlphanum || c == '_') = false := by
  have hrange : c.toNat ≤ 32 ∨ 127 < c.toNat := by
    simp [PythonText.isSpace] at h
    omega
  have halphanum : ¬c.isAlphanum := fun halphanum => by
    have hletter := isAlphanum_iff.mp halphanum
    omega
  have hunderscore : c ≠ '_' := by
    rintro rfl
    revert hrange
    decide
  simp [halphanum, hunderscore]

/-- The tables of an interpreter that knows the letters of ASCII only. -/
def asciiNames : NameTables where
  lower := PythonText.asciiLower
  upper s := String.ofList (s.toList.map Char.toUpper)
  isDecimal := Char.isDigit
  digitValue c := c.toNat - 48
  isWord c := c.isAlphanum || c == '_'
  lower_ascii _ _ := rfl
  isDecimal_ascii _ _ := rfl
  digitValue_ascii _ _ := rfl
  isWord_ascii _ _ := rfl
  isWord_of_isDecimal c h := by simp [Char.isAlphanum, h]
  isWord_of_isSpace c h := not_isAlphanum_of_isSpace h

end MediaMasterr.Correlation
