import Mathlib.Algebra.Ring.Nat
import MediaMasterr.Correlation.TorrentNames
import MediaMasterr.Deletion.Services
import MediaMasterr.Filesystem.SeasonNames

/-! # Names of episodes

Names that are put together from the words of a title and a marker, and when both
parsers read back what they were made from. The marker is found wherever the separator
ends the words before it; the clean-up of the title knows the shorter markers only. -/

namespace MediaMasterr.Correlation

open MediaMasterr.Foundations MediaMasterr.Filesystem


/-- A text that is a marker: `s01e02`, `season1`, `episode2`. -/
def IsMarkerWord (text : List Char) : Prop :=
  (∃ season episode : List Char, text = 's' :: (season ++ 'e' :: episode) ∧
    (∀ c ∈ season ++ episode, c.isDigit) ∧ 1 ≤ season.length ∧ season.length ≤ 2 ∧
      1 ≤ episode.length ∧ episode.length ≤ 3) ∨
  ∃ number : List Char, number ≠ [] ∧ (∀ c ∈ number, c.isDigit) ∧
    (text = "season".toList ++ number ∨ text = "episode".toList ++ number)

/-- A word of a title in small letters and digits that is not digits only, as the years are, no
noise and no marker. -/
structure TitleWord where
  text : String
  letters : ∀ c ∈ text.toList, isTokenChar c
  not_digits : ∃ c ∈ text.toList, c.isDigit = false
  not_noise : text ∉ correlationNoiseTokens
  not_marker : ¬IsMarkerWord text.toList

/-- The marker of an episode, as `S01E02`. -/
def episodeMarker (season episode : Nat) : String :=
  "S" ++ Deletion.twoDigits season ++ "E" ++ Deletion.twoDigits episode

/-- The words of a title and the marker of an episode, joined by a separator. -/
def episodeName (words : List TitleWord) (season episode : Nat) (separator : Char) : String :=
  (String.singleton separator).intercalate
    (words.map TitleWord.text ++ [episodeMarker season episode])

def separators : List Char := [' ', '.', '-', '_']

/-- Both parsers read back what the name was made from. -/
def ParsesBack (tables : NameTables) (words : List TitleWord) (season episode : Nat)
    (separator : Char) : Prop :=
  let name := episodeName words season episode separator
  parseTorrentEpisodeMarkers tables name = (some season, some episode) ∧
    parseTorrentIdentity tables name = (" ".intercalate (words.map TitleWord.text), none)

theorem isPadded_twoDigits (n : Nat) : IsPadded n (Deletion.twoDigits n).toList := by
  unfold Deletion.twoDigits
  split_ifs
  · exact ⟨1, by simp [Nat.toList_repr]⟩
  · exact ⟨0, by simp [Nat.toList_repr]⟩

/-- Two digits as long as they are enough. -/
theorem length_twoDigits_le {n k : Nat} (hk : 2 ≤ k) :
    (Deletion.twoDigits n).toList.length ≤ k ↔ n < 10 ^ k := by
  have hdigits := Nat.length_toDigits_le_iff (b := 10) (n := n) (k := k) (by decide) (by omega)
  unfold Deletion.twoDigits
  split_ifs with h
  · have hone : (Nat.toDigits 10 n).length = 1 := by
      rw [Nat.toDigits_of_lt_base h]
      rfl
    have hpow : 10 ≤ 10 ^ k := Nat.le_self_pow (by omega) 10
    simp [Nat.toList_repr, hone]
    omega
  · simpa [Nat.toList_repr] using hdigits

section Names

open WordPattern

variable {tables : NameTables} {before : Option Char} {t : List Char}

/-! ## Parts of a name -/

/-- What stands between the separators of a name: small letters and digits, not digits only. -/
structure IsItem (item : List Char) : Prop where
  letters : ∀ c ∈ item, isTokenChar c
  not_digits : ∃ c ∈ item, c.isDigit = false

theorem TitleWord.isItem (w : TitleWord) : IsItem w.text.toList := ⟨w.letters, w.not_digits⟩

variable {item next tail : List Char} {separator : Char}

theorem IsItem.ne_nil (h : IsItem item) : item ≠ [] := by
  rintro rfl
  obtain ⟨c, hc, -⟩ := h.not_digits
  cases hc

theorem IsItem.isWord (h : IsItem item) : ∀ c ∈ item, tables.isWord c := fun c hc =>
  isWord_of_isTokenChar (h.letters c hc)

/-- Digits that start a part of a name and end at the end of a word are the whole part. -/
theorem IsItem.no_digits (h : IsItem item) {number rest : List Char}
    (heq : number ++ rest = item ++ tail) (hdecimal : ∀ c ∈ number, tables.isDecimal c)
    (hrest : rest.head?.any tables.isWord = false) (htail : tail.head?.any tables.isWord = false) :
    False := by
  obtain ⟨rfl, -⟩ := word_append_inj heq (fun c hc => tables.isWord_of_isDecimal c (hdecimal c hc))
    hrest h.isWord htail
  obtain ⟨c, hc, hdigit⟩ := h.not_digits
  exact Bool.false_ne_true
    (hdigit.symm.trans (isDigit_of_isDecimal (h.letters c hc) (hdecimal c hc)))

/-- No numbered word starts at a part of a name that is none. -/
theorem run_numbered_eq_nil {word : String} {number : WordPattern Char}
    (hnumber : IsNumber tables number) (hword : IsItem word.toList) (hitem : IsItem item)
    (hnot : ∀ digits, digits ≠ [] → (∀ c ∈ digits, c.isDigit) → item ≠ word.toList ++ digits)
    (hseparator : tables.isWord separator = false) (hnext : IsItem next)
    (htail : tail.head?.any tables.isWord = false) :
    run tables.isWord (.between (numbered word number)) before
      (item ++ separator :: (next ++ tail)) = [] := by
  refine List.eq_nil_iff_forall_not_mem.mpr fun f hf => ?_
  obtain ⟨hmem, -, hlast⟩ := mem_run_between.mp hf
  obtain ⟨spaces, digits, htaken, hspaces, hne, hdecimal⟩ := taken_of_mem_numbered hnumber hmem
  have hsplit := split_of_mem_run hmem
  have hdigits : ∀ c ∈ digits, tables.isWord c := fun c hc =>
    tables.isWord_of_isDecimal c (hdecimal c hc)
  have hrest : f.rest.head?.any tables.isWord = false := by
    have hlastWord : (f.last before).any tables.isWord = true := by
      rw [Found.last, htaken, List.getLast?_append, List.getLast?_append,
        List.getLast?_eq_some_getLast hne]
      exact hdigits _ (List.getLast_mem hne)
    rw [hlastWord] at hlast
    simpa using hlast
  rw [htaken] at hsplit
  cases spaces with
  | nil =>
    -- The word and its number are the part itself.
    obtain ⟨heq, -⟩ := word_append_inj (u := word.toList ++ digits) (v := f.rest) hsplit
      (List.forall_mem_append.mpr ⟨hword.isWord, hdigits⟩) hrest hitem.isWord
      (by simpa using hseparator)
    refine hnot digits hne (fun c hc => ?_) heq.symm
    exact isDigit_of_isDecimal (hitem.letters c (heq ▸ List.mem_append_right _ hc)) (hdecimal c hc)
  | cons space spaces =>
    -- The part is the word, and the next one would be the number.
    obtain ⟨hspace, hmore⟩ := List.forall_mem_cons.mp hspaces
    obtain ⟨-, heq⟩ := word_append_inj (u := word.toList)
      (v := space :: (spaces ++ (digits ++ f.rest))) (by simpa using hsplit) hword.isWord
      (by simpa using tables.isWord_of_isSpace space hspace) hitem.isWord
      (by simpa using hseparator)
    obtain ⟨-, heq⟩ := List.cons.inj heq
    cases spaces with
    | nil =>
      have hnumberNext : digits ++ f.rest = next ++ tail := heq
      exact hnext.no_digits hnumberNext hdecimal hrest htail
    | cons space spaces =>
      obtain ⟨c, next, rfl⟩ := List.exists_cons_of_ne_nil hnext.ne_nil
      obtain ⟨rfl, -⟩ := List.cons.inj heq
      have hc := isSpace_of_isTokenChar (hnext.letters space List.mem_cons_self)
      exact Bool.false_ne_true (hc.symm.trans (hmore space List.mem_cons_self))

/-- No year starts at a part of a name. -/
theorem run_yearPattern_eq_nil (hitem : IsItem item)
    (htail : tail.head?.any tables.isWord = false) :
    run tables.isWord (yearPattern tables) before (item ++ tail) = [] := by
  refine startsInWord_yearBody.run_word_eq_nil hitem.isWord htail fun f hf => ?_
  have hdecimal := isDecimal_of_mem_yearBody hf
  refine ⟨fun c hc => tables.isWord_of_isDecimal c (hdecimal c hc), ?_⟩
  rintro rfl
  obtain ⟨c, hc, hdigit⟩ := hitem.not_digits
  exact Bool.false_ne_true
    (hdigit.symm.trans (isDigit_of_isDecimal (hitem.letters c hc) (hdecimal c hc)))

/-- A word of a title is no marker. -/
theorem TitleWord.taken_ne {w : TitleWord} (h : f ∈ run tables.isWord (sxeBody tables) before t) :
    f.taken ≠ w.text.toList := by
  obtain ⟨season, episode, rest, -, hdecimal, hleast, hmost, hleast', hmost', rfl⟩ :=
    mem_sxeBody.mp h
  intro heq
  refine w.not_marker (Or.inl ⟨season, episode, heq.symm, fun c hc => ?_, hleast, hmost, hleast',
    hmost'⟩)
  refine isDigit_of_isDecimal (w.letters c (heq ▸ ?_)) (hdecimal c hc)
  rcases List.mem_append.mp hc with hc | hc <;> simp [hc]

theorem run_sxePattern_eq_nil (w : TitleWord) (htail : tail.head?.any tables.isWord = false) :
    run tables.isWord (sxePattern tables) before (w.text.toList ++ tail) = [] :=
  startsInWord_sxeBody.run_word_eq_nil w.isItem.isWord htail fun _ hf =>
    ⟨isWord_of_mem_sxeBody hf, w.taken_ne hf⟩

/-- No marker of the title's clean-up starts at a word of a title. -/
theorem run_markerPattern_eq_nil (w : TitleWord) (hseparator : tables.isWord separator = false)
    (hnext : IsItem next) (htail : tail.head?.any tables.isWord = false) :
    run tables.isWord (markerPattern tables) before
      (w.text.toList ++ separator :: (next ++ tail)) = [] := by
  refine List.eq_nil_iff_forall_not_mem.mpr fun f hf => ?_
  obtain ⟨hmem, hedges⟩ := mem_run_between.mp hf
  obtain ⟨g, hg, rfl⟩ := mem_run_group.mp hmem
  have hnumbered {word : String} (hword : IsItem word.toList)
      (hnot : ∀ digits, digits ≠ [] → (∀ c ∈ digits, c.isDigit) →
        w.text.toList ≠ word.toList ++ digits)
      (hg : g ∈ run tables.isWord (numbered word (digits tables 1 none)) before
        (w.text.toList ++ separator :: (next ++ tail))) : False := by
    have hbetween : g ∈ run tables.isWord (.between (numbered word (digits tables 1 none))) before
        (w.text.toList ++ separator :: (next ++ tail)) := mem_run_between.mpr ⟨hg, hedges⟩
    rw [run_numbered_eq_nil (isNumber_digits none) hword w.isItem hnot hseparator hnext htail]
      at hbetween
    cases hbetween
  rcases mem_run_alt.mp hg with hg | hg
  · have hbetween : g ∈ run tables.isWord (.between (shortSxeBody tables)) before
        (w.text.toList ++ separator :: (next ++ tail)) := mem_run_between.mpr ⟨hg, hedges⟩
    rw [startsInWord_shortSxeBody.run_word_eq_nil w.isItem.isWord (by simpa using hseparator)
      fun f hf => ?_] at hbetween
    · cases hbetween
    · obtain ⟨g, hg, htaken⟩ := exists_sxeBody_of_shortSxeBody hf
      exact htaken ▸ ⟨isWord_of_mem_sxeBody hg, w.taken_ne hg⟩
  · rcases mem_run_alt.mp hg with hg | hg
    · exact hnumbered ⟨List.all_eq_true.mp rfl, 's', by decide, rfl⟩ (fun digits hne hdigits heq =>
        w.not_marker (Or.inr ⟨digits, hne, hdigits, Or.inl heq⟩)) hg
    · exact hnumbered ⟨List.all_eq_true.mp rfl, 'e', by decide, rfl⟩ (fun digits hne hdigits heq =>
        w.not_marker (Or.inr ⟨digits, hne, hdigits, Or.inr heq⟩)) hg

/-! ## The marker of a name -/

/-- The marker in small letters. -/
def loweredMarker (season episode : Nat) : List Char :=
  's' :: ((Deletion.twoDigits season).toList ++ 'e' :: (Deletion.twoDigits episode).toList)

theorem isDigit_twoDigits {n : Nat} : ∀ c ∈ (Deletion.twoDigits n).toList, c.isDigit :=
  (isPadded_iff.mp (isPadded_twoDigits n)).2.1

theorem int_twoDigits (n : Nat) : tables.int (Deletion.twoDigits n).toList = n := by
  rw [int_eq_ofDigitChars isDigit_twoDigits]
  exact (isPadded_iff.mp (isPadded_twoDigits n)).2.2

theorem one_le_length_twoDigits (n : Nat) : 1 ≤ (Deletion.twoDigits n).toList.length :=
  List.length_pos_iff.mpr (isPadded_iff.mp (isPadded_twoDigits n)).1

theorem isDecimal_twoDigits {season episode : Nat} :
    ∀ c ∈ (Deletion.twoDigits season).toList ++ (Deletion.twoDigits episode).toList,
      tables.isDecimal c := by
  intro c hc
  rcases List.mem_append.mp hc with hc | hc <;> exact isDecimal_of_isDigit (isDigit_twoDigits c hc)

variable {season episode : Nat}

theorem isItem_loweredMarker : IsItem (loweredMarker season episode) where
  letters := by
    have hdigits {n : Nat} : ∀ c ∈ (Deletion.twoDigits n).toList, isTokenChar c := fun c hc =>
      isTokenChar_of_isDigit (isDigit_twoDigits c hc)
    simp only [loweredMarker, List.forall_mem_cons, List.forall_mem_append]
    exact ⟨by decide, hdigits, by decide, hdigits⟩
  not_digits := ⟨'s', List.mem_cons_self, rfl⟩

/-- The digits on the two sides of an `e` are determined. -/
theorem marker_inj {season episode season' episode' rest : List Char}
    (heq : 's' :: (season ++ 'e' :: (episode ++ rest)) = 's' :: (season' ++ 'e' :: episode'))
    (hseason : ∀ c ∈ season, tables.isDecimal c) (hseason' : ∀ c ∈ season', tables.isDecimal c) :
    season = season' ∧ episode ++ rest = episode' := by
  have hletter {cs : List Char} : ('e' :: cs).head?.any tables.isDecimal = false :=
    tables.isDecimal_ascii 'e' (by decide)
  obtain ⟨hs, he⟩ := word_append_inj (List.cons.inj heq).2 hseason hletter hseason' hletter
  exact ⟨hs, (List.cons.inj he).2⟩

/-- The search finds the numbers of the marker. -/
theorem search_loweredMarker (hseason : season ≤ 99) (hepisode : episode ≤ 999)
    (hbefore : before.any tables.isWord = false) :
    search tables.isWord (sxePattern tables) before (loweredMarker season episode) =
      some ⟨loweredMarker season episode,
        [(Deletion.twoDigits season).toList, (Deletion.twoDigits episode).toList], []⟩ := by
  have hdecimal : ∀ c ∈ (Deletion.twoDigits season).toList ++ (Deletion.twoDigits episode).toList,
      tables.isDecimal c := isDecimal_twoDigits
  refine search_eq_some ?_ fun g hg => ?_
  · refine startsInWord_sxeBody.mem_run_between (mem_sxeBody.mpr ⟨_, _, [], ?_, hdecimal,
      one_le_length_twoDigits _, (length_twoDigits_le le_rfl).mpr (by omega),
      one_le_length_twoDigits _, (length_twoDigits_le (by decide)).mpr (by omega), rfl⟩)
      (isWord_marker hdecimal) hbefore rfl
    simp [loweredMarker]
  · obtain ⟨hmem, -, -⟩ := mem_run_between.mp hg
    rw [← List.append_nil (loweredMarker season episode)] at hg
    obtain ⟨htaken, hrest⟩ := eq_word_of_mem_between hg (startsInWord_sxeBody.taken_ne_nil hmem)
      (isWord_of_mem_sxeBody hmem) isItem_loweredMarker.isWord rfl
    obtain ⟨season', episode', rest, ht, hdecimal', -, -, -, -, rfl⟩ := mem_sxeBody.mp hmem
    obtain ⟨hs, he⟩ := marker_inj ht.symm (List.forall_mem_append.mp hdecimal').1
      (List.forall_mem_append.mp hdecimal).1
    obtain rfl : rest = [] := hrest
    rw [List.append_nil] at he
    rw [hs, he]
    rfl

/-- At a marker the clean-up finds no other text. -/
theorem mem_markerBody {f : Found Char}
    (h : f ∈ run tables.isWord (markerBody tables) before (loweredMarker season episode)) :
    ∃ g ∈ run tables.isWord (shortSxeBody tables) before (loweredMarker season episode),
      f = ⟨g.taken, g.taken :: g.groups, g.rest⟩ := by
  obtain ⟨g, hg, rfl⟩ := mem_run_group.mp h
  have hnumbered {word : String} {cs : List Char} {c c' : Char}
      (hword : word.toList = c :: c' :: cs) (hc : c ≠ 's' ∨ c'.isDigit = false)
      (hg : g ∈ run tables.isWord (numbered word (digits tables 1 none)) before
        (loweredMarker season episode)) : False := by
    obtain ⟨spaces, digits, htaken, -, -, -⟩ := taken_of_mem_numbered (isNumber_digits none) hg
    have hsplit := split_of_mem_run hg
    rw [htaken, hword] at hsplit
    obtain ⟨rfl, hrest⟩ := List.cons.inj hsplit
    obtain ⟨d, ds, hds⟩ := List.exists_cons_of_ne_nil
      (isPadded_iff.mp (isPadded_twoDigits season)).1
    rw [hds] at hrest
    obtain ⟨rfl, -⟩ := List.cons.inj hrest
    have hdigit := isDigit_twoDigits c' (hds ▸ List.mem_cons_self)
    rcases hc with hc | hc
    · exact hc rfl
    · exact Bool.false_ne_true (hc.symm.trans hdigit)
  rcases mem_run_alt.mp hg with hg | hg
  · exact ⟨g, hg, rfl⟩
  · rcases mem_run_alt.mp hg with hg | hg
    · exact (hnumbered rfl (Or.inr rfl) hg).elim
    · exact (hnumbered rfl (Or.inl (by decide)) hg).elim

/-- The clean-up takes the marker when its episode has two digits, and leaves it otherwise. -/
theorem sub_loweredMarker (hseason : season ≤ 99) (hbefore : before.any tables.isWord = false) :
    sub tables.isWord (markerPattern tables) [' '] 0 before (loweredMarker season episode) =
      if episode ≤ 99 then [' '] else loweredMarker season episode := by
  have hend (before : Option Char) : run tables.isWord (markerPattern tables) before [] = [] :=
    startsInWord_markerBody.run_eq_nil rfl
  have hall : ∀ f ∈ run tables.isWord (markerPattern tables) before (loweredMarker season episode),
      f.taken = loweredMarker season episode ∧ episode ≤ 99 := by
    intro f hf
    obtain ⟨hmem, -, -⟩ := mem_run_between.mp hf
    obtain ⟨g, hg, rfl⟩ := mem_markerBody hmem
    rw [← List.append_nil (loweredMarker season episode)] at hf
    obtain ⟨g', hg', htaken'⟩ := exists_sxeBody_of_shortSxeBody hg
    obtain ⟨htaken, hrest⟩ := eq_word_of_mem_between hf (startsInWord_markerBody.taken_ne_nil hmem)
      (htaken' ▸ isWord_of_mem_sxeBody hg') isItem_loweredMarker.isWord rfl
    obtain ⟨season', episode', rest, ht, hdecimal, -, -, -, hmost, rfl⟩ := mem_shortSxeBody.mp hg
    obtain ⟨-, he⟩ := marker_inj ht.symm (List.forall_mem_append.mp hdecimal).1
      (fun c hc => isDecimal_of_isDigit (isDigit_twoDigits c hc))
    obtain rfl : rest = [] := hrest
    rw [List.append_nil] at he
    have hlt := (length_twoDigits_le le_rfl).mp (he ▸ hmost)
    exact ⟨htaken, by omega⟩
  split_ifs with hshort
  · have hdecimal : ∀ c ∈ (Deletion.twoDigits season).toList ++
        (Deletion.twoDigits episode).toList, tables.isDecimal c := isDecimal_twoDigits
    have hmem : _ ∈ run tables.isWord (shortSxeBody tables) before (loweredMarker season episode) :=
      mem_shortSxeBody.mpr ⟨_, _, [], by simp [loweredMarker], hdecimal,
        one_le_length_twoDigits _, (length_twoDigits_le le_rfl).mpr (by omega),
        one_le_length_twoDigits _, (length_twoDigits_le le_rfl).mpr (by omega), rfl⟩
    have hfound := startsInWord_markerBody.mem_run_between
      (mem_run_group.mpr ⟨_, mem_run_alt.mpr (Or.inl hmem), rfl⟩) (isWord_marker hdecimal) hbefore
      rfl
    exact sub_eq_fill (by simp [loweredMarker]) (List.ne_nil_of_mem hfound)
      (fun g hg => (hall g hg).1) hend
  · refine sub_eq_self (silent_word isItem_loweredMarker.isWord fun _ => ?_) (hend _)
    refine List.eq_nil_iff_forall_not_mem.mpr fun f hf => hshort ?_
    rw [List.append_nil] at hf
    exact (hall f hf).2

/-! ## Whole names -/

/-- The words of a name, each with the separator behind it. -/
def wordsText (words : List TitleWord) (separator : Char) : List Char :=
  words.flatMap fun w => w.text.toList ++ [separator]

variable {words : List TitleWord}

/-- Behind the separators a word starts. -/
theorem isWord_lastOf_wordsText (h : words ≠ [] → tables.isWord separator = false) :
    (lastOf none (wordsText words separator)).any tables.isWord = false := by
  rcases List.eq_nil_or_concat' words with rfl | ⟨init, w, rfl⟩
  · rfl
  · have hlast : lastOf none (wordsText (init ++ [w]) separator) = some separator := by
      simp [lastOf, wordsText]
    rw [hlast]
    simpa using h (by simp)

/-- Behind a word and its separator there is another part of the name. -/
theorem exists_next (words : List TitleWord) (season episode : Nat)
    (hseparator : tables.isWord separator = false) : ∃ next tail, IsItem next ∧
      tail.head?.any tables.isWord = false ∧
        wordsText words separator ++ loweredMarker season episode = next ++ tail := by
  cases words with
  | nil =>
    exact ⟨loweredMarker season episode, [], isItem_loweredMarker, rfl, by simp [wordsText]⟩
  | cons w words =>
    refine ⟨w.text.toList, separator :: (wordsText words separator ++ loweredMarker season episode),
      w.isItem, by simpa using hseparator, by simp [wordsText]⟩

/-- A pattern that matches no word of a title matches nothing before the marker. -/
theorem silent_wordsText {r : WordPattern Char} (hr : StartsInWord tables.isWord r)
    (before : Option Char) (season episode : Nat)
    (hseparator : words ≠ [] → tables.isWord separator = false)
    (hquiet : ∀ w ∈ words, ∀ before next tail, tables.isWord separator = false → IsItem next →
      tail.head?.any tables.isWord = false →
        run tables.isWord (.between r) before (w.text.toList ++ separator :: (next ++ tail)) = []) :
    Silent tables.isWord (.between r) before (wordsText words separator)
      (loweredMarker season episode) := by
  induction words generalizing before with
  | nil => trivial
  | cons w words ih =>
    have hword := hseparator (by simp)
    obtain ⟨next, tail, hnext, htail, heq⟩ := exists_next words season episode hword
    have hcons : wordsText (w :: words) separator =
        w.text.toList ++ ([separator] ++ wordsText words separator) := by
      simp [wordsText]
    rw [hcons]
    refine (silent_word w.isItem.isWord fun _ => ?_).append (Silent.append ⟨?_, trivial⟩ ?_)
    · rw [List.append_assoc, heq]
      exact hquiet w List.mem_cons_self before next tail hword hnext htail
    · exact hr.run_eq_nil (by simpa using hword)
    · exact ih _ (fun _ => hword) fun w' hw' => hquiet w' (List.mem_cons_of_mem _ hw')

theorem separators_spec : ∀ separator ∈ separators, separator.toNat < 128 ∧
    separator.toLower = separator ∧ isTokenChar separator = false := by
  simp only [separators, List.forall_mem_cons]
  exact ⟨by decide, by decide, by decide, by decide, List.forall_mem_nil _⟩

theorem isWord_separator (h : separator ∈ separators) :
    tables.isWord separator = (separator == '_') := by
  rw [tables.isWord_ascii separator (separators_spec separator h).1]
  simp only [separators, List.mem_cons, List.not_mem_nil, or_false] at h
  rcases h with rfl | rfl | rfl | rfl <;> rfl

/-- The name in small letters. -/
theorem lower_episodeName (h : separator ∈ separators) :
    (tables.lower (episodeName words season episode separator)).toList =
      wordsText words separator ++ loweredMarker season episode := by
  obtain ⟨hascii, hlower, -⟩ := separators_spec separator h
  have hname : (episodeName words season episode separator).toList =
      wordsText words separator ++ (episodeMarker season episode).toList := by
    rw [episodeName, String.toList_intercalate, List.map_append, List.map_singleton,
      String.toList_singleton, PythonText.intercalate_concat, List.map_map, List.flatMap_map]
    rfl
  have hmarker : (episodeMarker season episode).toList = 'S' ::
      ((Deletion.twoDigits season).toList ++ 'E' :: (Deletion.twoDigits episode).toList) := by
    simp [episodeMarker]
  have hdigits {n : Nat} : ∀ c ∈ (Deletion.twoDigits n).toList, isTokenChar c := fun c hc =>
    isTokenChar_of_isDigit (isDigit_twoDigits c hc)
  have hmap {cs : List Char} (hcs : ∀ c ∈ cs, isTokenChar c) : cs.map Char.toLower = cs :=
    (List.map_congr_left fun c hc => toLower_of_isTokenChar (hcs c hc)).trans (List.map_id' cs)
  rw [tables.lower_ascii, PythonText.asciiLower, String.toList_ofList, hname, hmarker]
  · have hwords : (wordsText words separator).map Char.toLower = wordsText words separator := by
      simp only [wordsText, List.map_flatMap, List.map_append, List.map_singleton, hlower]
      exact List.flatMap_congr fun w _ => by rw [hmap w.letters]
    rw [List.map_append, hwords, List.map_cons, List.map_append, List.map_cons, hmap hdigits,
      hmap hdigits]
    rfl
  · rw [hname, hmarker]
    have hword {cs : List Char} (hcs : ∀ c ∈ cs, isTokenChar c) : ∀ c ∈ cs, c.toNat < 128 :=
      fun c hc => toNat_lt_of_isTokenChar (hcs c hc)
    simp only [wordsText, List.forall_mem_append, List.forall_mem_cons, List.forall_mem_flatMap]
    exact ⟨fun w _ => ⟨hword w.letters, hascii, List.forall_mem_nil _⟩, by decide, hword hdigits,
      by decide, hword hdigits⟩

/-! ## The two parsers -/

/-- The words keep their place among the tokens. -/
theorem titleTokens_wordsText (h : separator ∈ separators) (t : List Char) :
    titleTokens (wordsText words separator ++ t) = words.map TitleWord.text ++ titleTokens t := by
  have hseparator := (separators_spec separator h).2.2
  induction words with
  | nil => rfl
  | cons w words ih =>
    have hcons : wordsText (w :: words) separator ++ t =
        w.text.toList ++ separator :: (wordsText words separator ++ t) := by
      simp [wordsText]
    have hkeeps : keepsToken (String.ofList w.text.toList) = true := by
      have hdigits : w.text.toList.all Char.isDigit = false := by
        obtain ⟨c, hc, hdigit⟩ := w.not_digits
        exact List.all_eq_false.mpr ⟨c, hc, by simp [hdigit]⟩
      have hne : w.text ≠ "" := fun heq => w.isItem.ne_nil (by rw [heq]; rfl)
      simp [keepsToken, hne, w.not_noise, hdigits]
    rw [hcons, titleTokens, List.splitOnP_append_cons_of_forall_mem
      (fun c hc => by simp [w.letters c hc]) separator (by simp [hseparator]), List.map_cons,
      List.filter_cons_of_pos hkeeps, String.ofList_toList, List.map_cons, List.cons_append]
    exact congrArg (w.text :: ·) ih

theorem titleTokens_loweredMarker : titleTokens (loweredMarker season episode) =
    [String.ofList (loweredMarker season episode)] := by
  have hitem : IsItem (loweredMarker season episode) := isItem_loweredMarker
  have hkeeps : keepsToken (String.ofList (loweredMarker season episode)) = true := by
    have hnoise : String.ofList (loweredMarker season episode) ∉ correlationNoiseTokens := by
      intro hmem
      have hhead : ∀ token ∈ correlationNoiseTokens, token.toList.head? ≠ some 's' := by decide
      exact hhead _ hmem (by rw [String.toList_ofList]; rfl)
    simp [keepsToken, hnoise, hitem.ne_nil]
    exact ⟨'s', List.mem_cons_self, rfl⟩
  rw [titleTokens, List.splitOnP_eq_singleton fun c hc => by simp [hitem.letters c hc],
    List.map_singleton, List.filter_cons_of_pos hkeeps, List.filter_nil]

/-- Words joined by blanks have no blanks around them. -/
theorem strip_intercalate {tokens : List String} (h : ∀ token ∈ tokens, IsItem token.toList) :
    PythonText.strip (" ".intercalate tokens) = " ".intercalate tokens := by
  have htext : (" ".intercalate tokens).toList = [' '].intercalate (tokens.map String.toList) :=
    String.toList_intercalate
  refine PythonText.strip_eq_self_of_ends (fun c hc => ?_) fun c hc => ?_
  · rw [htext] at hc
    cases tokens with
    | nil => cases hc
    | cons token tokens =>
      have hitem := h token List.mem_cons_self
      obtain ⟨d, ds, hds⟩ := List.exists_cons_of_ne_nil hitem.ne_nil
      have hhead : ([' '].intercalate ((token :: tokens).map String.toList)).head? = some d := by
        cases tokens with
        | nil => simp [hds]
        | cons token' tokens =>
          rw [List.map_cons, List.intercalate_cons_of_ne_nil (by simp), hds]
          rfl
      obtain rfl := Option.some.inj (hhead.symm.trans hc)
      exact isSpace_of_isTokenChar (hitem.letters d (hds ▸ List.mem_cons_self))
  · rw [htext] at hc
    rcases List.eq_nil_or_concat' tokens with rfl | ⟨init, token, rfl⟩
    · cases hc
    · have hitem := h token (by simp)
      rw [List.map_append, List.map_singleton, PythonText.intercalate_concat,
        List.getLast?_append_of_ne_nil _ hitem.ne_nil] at hc
      exact isSpace_of_isTokenChar (hitem.letters c (List.mem_of_getLast? hc))

/-- The separators are no letters of words, unless there is nothing to separate. -/
theorem parseTorrentEpisodeMarkers_episodeName (h : separator ∈ separators)
    (hseparator : words ≠ [] → tables.isWord separator = false) (hseason : season ≤ 99)
    (hepisode : episode ≤ 999) :
    parseTorrentEpisodeMarkers tables (episodeName words season episode separator) =
      (some season, some episode) := by
  have hsilent := silent_wordsText startsInWord_sxeBody none season episode hseparator
    fun w _ before next tail hword _ _ =>
      run_sxePattern_eq_nil w (by simpa using hword)
  have hfound := search_loweredMarker hseason hepisode (isWord_lastOf_wordsText hseparator)
  have hsearch : search tables.isWord (sxePattern tables) none
      (wordsText words separator ++ loweredMarker season episode) = _ :=
    (search_append hsilent).trans hfound
  rw [parseTorrentEpisodeMarkers, lower_episodeName h, hsearch]
  simp [numberOf, int_twoDigits]

theorem parseTorrentIdentity_episodeName (h : separator ∈ separators)
    (hseparator : words ≠ [] → tables.isWord separator = false) (hseason : season ≤ 99) :
    parseTorrentIdentity tables (episodeName words season episode separator) =
      (" ".intercalate ((words.map TitleWord.text ++
        if episode ≤ 99 then [] else [String.ofList (loweredMarker season episode)]).take 8),
        none) := by
  have hend (before : Option Char) : run tables.isWord (yearPattern tables) before [] = [] :=
    startsInWord_yearBody.run_eq_nil rfl
  have hmarker : Silent tables.isWord (yearPattern tables) (lastOf none (wordsText words separator))
      (loweredMarker season episode) [] :=
    silent_word isItem_loweredMarker.isWord fun _ => run_yearPattern_eq_nil isItem_loweredMarker rfl
  have hyear : Silent tables.isWord (yearPattern tables) none
      (wordsText words separator ++ loweredMarker season episode) [] := by
    refine Silent.append ?_ hmarker
    rw [List.append_nil]
    exact silent_wordsText startsInWord_yearBody none season episode hseparator
      fun w _ before next tail hword _ _ => run_yearPattern_eq_nil w.isItem (by simpa using hword)
  have hsilent := silent_wordsText startsInWord_markerBody none season episode hseparator
    fun w _ before next tail hword hnext htail => run_markerPattern_eq_nil w hword hnext htail
  have hsub : sub tables.isWord (markerPattern tables) [' '] 0 none
      (wordsText words separator ++ loweredMarker season episode) = _ :=
    (sub_append hsilent).trans (congrArg (wordsText words separator ++ ·)
      (sub_loweredMarker hseason (isWord_lastOf_wordsText hseparator)))
  have htokens : titleTokens (wordsText words separator ++
      if episode ≤ 99 then [' '] else loweredMarker season episode) = words.map TitleWord.text ++
        if episode ≤ 99 then [] else [String.ofList (loweredMarker season episode)] := by
    rw [titleTokens_wordsText h]
    split_ifs
    · rfl
    · rw [titleTokens_loweredMarker]
  have hitems : ∀ token ∈ words.map TitleWord.text ++
      (if episode ≤ 99 then [] else [String.ofList (loweredMarker season episode)]),
        IsItem token.toList := by
    intro token htoken
    rcases List.mem_append.mp htoken with htoken | htoken
    · obtain ⟨w, -, rfl⟩ := List.mem_map.mp htoken
      exact w.isItem
    · split_ifs at htoken
      · cases htoken
      · rw [List.mem_singleton.mp htoken, String.toList_ofList]
        exact isItem_loweredMarker
  rw [parseTorrentIdentity, lower_episodeName h, search_eq_none hyear (hend _),
    sub_eq_self hyear (hend _)]
  refine Prod.ext_iff.mpr ⟨?_, rfl⟩
  dsimp only
  rw [hsub, htokens]
  exact strip_intercalate fun token htoken => hitems token (List.mem_of_mem_take htoken)

/-- Nothing is read from a name that is a single word. -/
theorem search_eq_none_of_underscore {r : WordPattern Char} (hr : StartsInWord tables.isWord r)
    (hmatch : ∀ before t, ∀ f ∈ run tables.isWord r before t, '_' ∉ f.taken) {text : List Char}
    (htext : ∀ c ∈ text, tables.isWord c) (hmem : '_' ∈ text) :
    search tables.isWord (.between r) none text = none := by
  refine search_eq_none (silent_word htext fun _ => ?_) (hr.run_eq_nil rfl)
  refine List.eq_nil_iff_forall_not_mem.mpr fun f hf => ?_
  have hr' := (mem_run_between.mp hf).1
  have htaken : ∀ c ∈ f.taken, tables.isWord c := fun c hc => htext c (by
    rw [← List.append_nil text, ← split_of_mem_run hr']
    exact List.mem_append_left _ hc)
  obtain ⟨heq, -⟩ := eq_word_of_mem_between hf (hr.taken_ne_nil hr') htaken htext rfl
  exact hmatch _ _ f hr' (heq ▸ hmem)

theorem isDecimal_underscore : tables.isDecimal '_' = false :=
  tables.isDecimal_ascii '_' (by decide)

theorem parseTorrentEpisodeMarkers_underscore (tables : NameTables) (season episode : Nat)
    (hwords : words ≠ []) :
    (parseTorrentEpisodeMarkers tables (episodeName words season episode '_')).1 = none := by
  have hunderscore : tables.isWord '_' := tables.isWord_ascii '_' (by decide)
  have htext : ∀ c ∈ wordsText words '_' ++ loweredMarker season episode, tables.isWord c := by
    simp only [wordsText, List.forall_mem_append, List.forall_mem_flatMap, List.forall_mem_cons]
    exact ⟨fun w _ => ⟨w.isItem.isWord, hunderscore, List.forall_mem_nil _⟩,
      isItem_loweredMarker.isWord⟩
  have hmem : '_' ∈ wordsText words '_' ++ loweredMarker season episode := by
    obtain ⟨w, words, rfl⟩ := List.exists_cons_of_ne_nil hwords
    simp [wordsText]
  have hnumber {cs : List Char} (hcs : ∀ c ∈ cs, tables.isDecimal c) : '_' ∉ cs := fun hc =>
    Bool.false_ne_true (isDecimal_underscore.symm.trans (hcs _ hc))
  have hsxe : search tables.isWord (sxePattern tables) none
      (wordsText words '_' ++ loweredMarker season episode) = none := by
    refine search_eq_none_of_underscore startsInWord_sxeBody (fun before t f hf => ?_) htext hmem
    obtain ⟨season, episode, rest, -, hdecimal, -, -, -, -, rfl⟩ := mem_sxeBody.mp hf
    have hdigits := hnumber hdecimal
    rw [List.mem_append, not_or] at hdigits
    simpa using hdigits
  have hseason : search tables.isWord (seasonPattern tables) none
      (wordsText words '_' ++ loweredMarker season episode) = none := by
    refine search_eq_none_of_underscore (startsInWord_numbered rfl (by decide))
      (fun before t f hf => ?_) htext hmem
    obtain ⟨spaces, number, htaken, hspaces, -, hdecimal⟩ :=
      taken_of_mem_numbered (isNumber_group (isNumber_digits _)) hf
    rw [htaken, List.mem_append, List.mem_append, not_or, not_or]
    exact ⟨by decide, fun hc => absurd (hspaces _ hc) (by decide), hnumber hdecimal⟩
  rw [parseTorrentEpisodeMarkers, lower_episodeName (by decide), hsxe]
  dsimp only
  rw [hseason]
  rfl

end Names

/-! ## The round trip -/

/-- Another word makes a joined text longer. -/
theorem intercalate_ne {tokens : List String} {token : String} (h : token ≠ "") :
    " ".intercalate (tokens ++ [token]) ≠ " ".intercalate tokens := by
  intro heq
  have hlength := congrArg (List.length ∘ String.toList) heq
  have htoken : 0 < token.toList.length := List.length_pos_iff.mpr (by simpa using h)
  have hblank : (" " : String).toList = [' '] := rfl
  simp only [Function.comp_apply, String.toList_intercalate, List.map_append, List.map_singleton,
    hblank] at hlength
  rcases List.eq_nil_or_concat' (tokens.map String.toList) with hnil | ⟨init, last, hconcat⟩
  · rw [hnil] at hlength
    simp at hlength
    exact h hlength
  · rw [hconcat, PythonText.intercalate_append (by simp) (by simp)] at hlength
    simp at hlength

/-- A name is read back exactly when the separator is not the underscore, unless there is no word
of a title, and the episode has at most two digits, unless there are eight words. -/
theorem parsesBack_iff (tables : NameTables) {words : List TitleWord} {season episode : Nat}
    {separator : Char} (hwords : words.length ≤ 8) (hseason : season ≤ 99)
    (hepisode : episode ≤ 999) (hseparator : separator ∈ separators) :
    ParsesBack tables words season episode separator ↔
      (separator = '_' → words = []) ∧ (99 < episode → words.length = 8) := by
  have hedge (h : separator = '_' → words = []) :
      words ≠ [] → tables.isWord separator = false := fun hne => by
    rw [isWord_separator hseparator]
    exact beq_eq_false_iff_ne.mpr fun heq => hne (h heq)
  constructor
  · rintro ⟨hmarkers, hidentity⟩
    have hsingle : separator = '_' → words = [] := by
      rintro rfl
      by_contra hne
      have hnone := parseTorrentEpisodeMarkers_underscore tables season episode hne
      rw [hmarkers] at hnone
      cases hnone
    refine ⟨hsingle, fun hlong => ?_⟩
    by_contra hne
    rw [parseTorrentIdentity_episodeName hseparator (hedge hsingle) hseason,
      if_neg (by omega), List.take_of_length_le (by simp; omega)] at hidentity
    exact intercalate_ne (by simp [isItem_loweredMarker.ne_nil]) (Prod.ext_iff.mp hidentity).1
  · rintro ⟨hsingle, hlong⟩
    refine ⟨parseTorrentEpisodeMarkers_episodeName hseparator (hedge hsingle) hseason hepisode, ?_⟩
    rw [parseTorrentIdentity_episodeName hseparator (hedge hsingle) hseason]
    split_ifs with hshort
    · rw [List.append_nil, List.take_of_length_le (by simpa using hwords)]
    · rw [List.take_append_of_le_length (by simp [hlong (by omega)]),
        List.take_of_length_le (by simpa using hwords)]

def wordThe : TitleWord where
  text := "the"
  letters := List.all_eq_true.mp rfl
  not_digits := ⟨'t', by decide, rfl⟩
  not_noise := by decide
  not_marker := by
    rintro (⟨season, episode, h, -⟩ | ⟨number, -, -, h | h⟩) <;>
      exact absurd (List.cons.inj h).1 (by decide)

theorem parsesBack_theWord :
    ParsesBack asciiNames [wordThe] 1 2 ' ' ↔ (' ' = '_' → [wordThe] = []) ∧
      (99 < 2 → [wordThe].length = 8) :=
  parsesBack_iff asciiNames (by decide) (by decide) (by decide) (by decide)

/-- An underscore between the words hides the marker, and the clean-up leaves a long marker. -/
theorem not_parsesBack_underscore :
    ¬ParsesBack asciiNames [wordThe] 1 2 '_' ∧ ¬ParsesBack asciiNames [wordThe] 1 100 ' ' := by
  have hmarkers : (parseTorrentEpisodeMarkers asciiNames (episodeName [wordThe] 1 2 '_')).1 ≠
      some 1 := by decide +kernel
  have hidentity : (parseTorrentIdentity asciiNames (episodeName [wordThe] 1 100 ' ')).1 ≠
      " ".intercalate ["the"] := by decide +kernel
  exact ⟨fun h => hmarkers (congrArg Prod.fst h.1), fun h => hidentity (congrArg Prod.fst h.2)⟩

end MediaMasterr.Correlation
