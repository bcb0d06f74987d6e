import Mathlib.Algebra.Ring.Int.Defs
import MediaMasterr.Mie.DownloadsInUse

/-! # Owners of indexed files

Two services read from the loosely typed metadata of an indexed file which media it
belongs to. `FileCorrelationProvider` compares three fields with the id of its
subject; `_classify_entry` reads them as numbers, in an order and with the marked
type. -/

namespace MediaMasterr.Mie

open MediaMasterr.Foundations MediaMasterr.Database MediaMasterr.RuleEngine

/-! ## Numbers -/

/-- `x == n` for a float and an int, which compares the exact values. -/
def floatEqInt (x : Float) (n : Int) : Bool :=
  match x.toModel.unpack with
  | .finite sign mantissa exponent _ =>
    if 0 ≤ exponent then sign.apply (mantissa <<< exponent.toNat : Nat) = n
    else sign.apply mantissa = n * 2 ^ (-exponent).toNat
  | .zero _ => n = 0
  | _ => false

/-- `value == id`. -/
def equalsId (id : Nat) : PyValue → Bool
  | .int n => n.val = id
  | .bool b => b.toNat = id
  | .float x => floatEqInt x id
  | _ => false

def isInt : PyValue → Bool
  | .int _ => true
  | _ => false

/-- The functions of the interpreter with what the reading of numbers relies on: `int` reads the
text that `str` makes of an int, and does not read those that it makes of a bool or a float. -/
structure NumberCalls extends PythonCalls where
  reads_int : ∀ n, parseOptionalInt toPythonCalls (.int n) = some n.val
  reads_bool : ∀ b, parseOptionalInt toPythonCalls (.bool b) = none
  reads_float : ∀ x, parseOptionalInt toPythonCalls (.float x) = none

/-! ## The two readings -/

/-- A subject is in the tables. -/
def IsSubject (tables : Tables) : MediaType × Nat → Prop
  | (.movie, id) => ∃ movie ∈ tables.movies, movie.id = id
  | (.series, id) => ∃ series ∈ tables.series, series.id = id

/-- The tests of `FileCorrelationProvider.contribute` for one entry. -/
def countsEntry (subject : MediaType × Nat) (entry : FilesystemIndexEntry) : Bool :=
  equalsId subject.2 (metadataGet entry "media_id") ||
    (subject.1 = .movie && equalsId subject.2 (metadataGet entry "movie_id")) ||
    (subject.1 = .series && equalsId subject.2 (metadataGet entry "series_id"))

/-- `fs_rows` of `FileCorrelationProvider.contribute`. -/
def fsRows (subject : MediaType × Nat) (fsRowsAll : List FilesystemIndexEntry) :
    List FilesystemIndexEntry :=
  fsRowsAll.filter (countsEntry subject)

/-- The entry counts for no other subject than the one that the classification attributes it to,
and for no movie when it is marked as a series. -/
structure BelongsToOne (py : PythonCalls) (tables : Tables) (entry : FilesystemIndexEntry) :
    Prop where
  at_most_one : ∀ subject, IsSubject tables subject → countsEntry subject entry →
    ∀ other, IsSubject tables other → countsEntry other entry → subject = other
  attributed : ∀ subject, IsSubject tables subject → countsEntry subject entry →
    mediaOf py entry = .ok (some (subject.1, (subject.2 : Int)))
  series_marked : (metadataGet entry "media_type").isStr "series" →
    ∀ id, IsSubject tables (.movie, id) → countsEntry (.movie, id) entry = false

section Attribution

variable {py : NumberCalls} {tables : Tables} {entry : FilesystemIndexEntry} {id : Nat}

/-- The number that a field of the metadata reads as. -/
def readsAs (py : PythonCalls) (entry : FilesystemIndexEntry) (key : String) : Option Int :=
  parseOptionalInt py (metadataGet entry key)

theorem hashable_of_isStr {value : PyValue} {s : String} (h : value.isStr s = true) :
    value.hashable = true := by
  cases value <;> first | rfl | cases h

theorem eq_of_isStr {value : PyValue} {s s' : String} (h : value.isStr s = true)
    (h' : value.isStr s' = true) : s = s' := by
  cases value with
  | str text => exact (eq_of_beq h).symm.trans (eq_of_beq h')
  | _ => cases h

/-- Without readable ids of a type, an entry is attributed by its mark and its media id. -/
theorem mediaOf_of_unread {py : PythonCalls} (hmovie : readsAs py entry "movie_id" = none)
    (hseries : readsAs py entry "series_id" = none) {kind : MediaType} {n : Int} :
    mediaOf py entry = .ok (some (kind, n)) ↔
      (metadataGet entry "media_type").isStr (if kind = .movie then "movie" else "series") ∧
        readsAs py entry "media_id" = some n := by
  unfold readsAs at hmovie hseries ⊢
  unfold mediaOf
  rw [hmovie, hseries]
  dsimp only
  by_cases hhash : (metadataGet entry "media_type").hashable = true
  · rw [hhash, if_neg (by decide)]
    by_cases himovie : (metadataGet entry "media_type").isStr "movie" = true
    · have hnot : (metadataGet entry "media_type").isStr "series" = false :=
        Bool.eq_false_iff.mpr fun h => absurd (eq_of_isStr himovie h) (by decide)
      rw [if_pos (Or.inl himovie), himovie, if_pos rfl]
      cases kind <;> simp [himovie, hnot]
    · by_cases hiseries : (metadataGet entry "media_type").isStr "series" = true
      · rw [if_pos (Or.inr hiseries), if_neg himovie]
        cases kind <;> simp [himovie, hiseries]
      · rw [if_neg (not_or.mpr ⟨himovie, hiseries⟩)]
        cases kind <;> simp [himovie, hiseries]
  · have hnot (s : String) : (metadataGet entry "media_type").isStr s = false :=
      Bool.eq_false_iff.mpr fun h => hhash (hashable_of_isStr h)
    simp [hhash, hnot]

/-- An entry is attributed to a movie by its movie id, or else, without readable ids of a type, by
its mark and its media id. -/
theorem mediaOf_eq_movie_iff {py : PythonCalls} {n : Int} :
    mediaOf py entry = .ok (some (.movie, n)) ↔ readsAs py entry "movie_id" = some n ∨
      (readsAs py entry "movie_id" = none ∧ readsAs py entry "series_id" = none ∧
        (metadataGet entry "media_type").isStr "movie" ∧ readsAs py entry "media_id" = some n) := by
  cases hmovie : readsAs py entry "movie_id" with
  | some m =>
    unfold readsAs at hmovie
    simp [mediaOf, hmovie]
  | none =>
    cases hseries : readsAs py entry "series_id" with
    | some s =>
      unfold readsAs at hmovie hseries
      simp [mediaOf, hmovie, hseries]
    | none =>
      simp only [reduceCtorEq, true_and, false_or]
      exact mediaOf_of_unread hmovie hseries

theorem mediaOf_eq_series_iff {py : PythonCalls} {n : Int} :
    mediaOf py entry = .ok (some (.series, n)) ↔ readsAs py entry "movie_id" = none ∧
      (readsAs py entry "series_id" = some n ∨ (readsAs py entry "series_id" = none ∧
        (metadataGet entry "media_type").isStr "series" ∧
          readsAs py entry "media_id" = some n)) := by
  cases hmovie : readsAs py entry "movie_id" with
  | some m =>
    unfold readsAs at hmovie
    simp [mediaOf, hmovie]
  | none =>
    cases hseries : readsAs py entry "series_id" with
    | some s =>
      unfold readsAs at hmovie hseries
      simp [mediaOf, hmovie, hseries]
    | none =>
      simp only [reduceCtorEq, true_and, false_or]
      exact mediaOf_of_unread hmovie hseries

/-- A field that equals an id reads as that id when it is an int, and not at all otherwise. -/
theorem readsAs_of_equalsId {key : String} (h : equalsId id (metadataGet entry key) = true) :
    readsAs py.toPythonCalls entry key =
      if isInt (metadataGet entry key) then some (id : Int) else none := by
  unfold readsAs
  cases hvalue : metadataGet entry key with
  | int n =>
    rw [hvalue] at h
    rw [py.reads_int, of_decide_eq_true h]
    rfl
  | bool b => simp [py.reads_bool, isInt]
  | float x => simp [py.reads_float, isInt]
  | _ => simp [hvalue, equalsId] at h

/-! ## When an entry belongs to one item -/

/-- No row of the tables is hit by a field of the metadata that the attribution passes over. -/
structure NamesOneItem (py : PythonCalls) (tables : Tables) (entry : FilesystemIndexEntry) :
    Prop where
  /-- A movie id that is a movie's is an int, or the media id names the movie in its place. -/
  movie_id : ∀ id, IsSubject tables (.movie, id) → equalsId id (metadataGet entry "movie_id") →
    (metadataGet entry "media_type").isStr "series" = false ∧
      (isInt (metadataGet entry "movie_id") ∨ (readsAs py entry "series_id" = none ∧
        (metadataGet entry "media_type").isStr "movie" ∧ readsAs py entry "media_id" = some id))
  /-- A series id that is a series' stands without a movie id, and likewise. -/
  series_id : ∀ id, IsSubject tables (.series, id) →
    equalsId id (metadataGet entry "series_id") → readsAs py entry "movie_id" = none ∧
      (isInt (metadataGet entry "series_id") ∨
        ((metadataGet entry "media_type").isStr "series" ∧ readsAs py entry "media_id" = some id))
  /-- A media id that is a movie's repeats the movie id, or is an int marked as a movie's without
  other ids. -/
  media_id_movie : ∀ id, IsSubject tables (.movie, id) →
    equalsId id (metadataGet entry "media_id") →
      (metadataGet entry "media_type").isStr "series" = false ∧
        (readsAs py entry "movie_id" = some id ∨
          (readsAs py entry "movie_id" = none ∧ readsAs py entry "series_id" = none ∧
            (metadataGet entry "media_type").isStr "movie" ∧ isInt (metadataGet entry "media_id")))
  /-- A media id that is a series' repeats the series id, or is an int marked as a series' without
  one, and there is no movie id. -/
  media_id_series : ∀ id, IsSubject tables (.series, id) →
    equalsId id (metadataGet entry "media_id") → readsAs py entry "movie_id" = none ∧
      (readsAs py entry "series_id" = some id ∨
        (readsAs py entry "series_id" = none ∧
          (metadataGet entry "media_type").isStr "series" ∧ isInt (metadataGet entry "media_id")))

theorem countsEntry_movie : countsEntry (.movie, id) entry = true ↔
    equalsId id (metadataGet entry "media_id") ∨ equalsId id (metadataGet entry "movie_id") := by
  simp [countsEntry]

theorem countsEntry_series : countsEntry (.series, id) entry = true ↔
    equalsId id (metadataGet entry "media_id") ∨ equalsId id (metadataGet entry "series_id") := by
  simp [countsEntry]

theorem movie_attributed_iff (h : equalsId id (metadataGet entry "movie_id") = true) :
    mediaOf py.toPythonCalls entry = .ok (some (.movie, (id : Int))) ↔
      isInt (metadataGet entry "movie_id") ∨ (readsAs py.toPythonCalls entry "series_id" = none ∧
        (metadataGet entry "media_type").isStr "movie" ∧
          readsAs py.toPythonCalls entry "media_id" = some (id : Int)) := by
  rw [mediaOf_eq_movie_iff, readsAs_of_equalsId h]
  cases isInt (metadataGet entry "movie_id") <;> simp

theorem series_attributed_iff (h : equalsId id (metadataGet entry "series_id") = true) :
    mediaOf py.toPythonCalls entry = .ok (some (.series, (id : Int))) ↔
      readsAs py.toPythonCalls entry "movie_id" = none ∧
        (isInt (metadataGet entry "series_id") ∨ ((metadataGet entry "media_type").isStr "series" ∧
          readsAs py.toPythonCalls entry "media_id" = some (id : Int))) := by
  rw [mediaOf_eq_series_iff, readsAs_of_equalsId h]
  cases isInt (metadataGet entry "series_id") <;> simp

theorem readsAs_media_id (h : equalsId id (metadataGet entry "media_id") = true) :
    readsAs py.toPythonCalls entry "media_id" = some (id : Int) ↔
      isInt (metadataGet entry "media_id") := by
  rw [readsAs_of_equalsId h]
  cases isInt (metadataGet entry "media_id") <;> simp

/-- An entry belongs to one item exactly when its metadata names one item. -/
theorem belongsToOne_iff (py : NumberCalls) (tables : Tables) (entry : FilesystemIndexEntry) :
    BelongsToOne py.toPythonCalls tables entry ↔ NamesOneItem py.toPythonCalls tables entry := by
  constructor
  · intro h
    have hmovie {id : Nat} (hid : IsSubject tables (.movie, id))
        (hcounts : countsEntry (.movie, id) entry = true) :
        (metadataGet entry "media_type").isStr "series" = false := by
      by_contra hseries
      have hnot := h.series_marked (by simpa using hseries) id hid
      rw [hcounts] at hnot
      cases hnot
    refine ⟨fun id hid hequals => ?_, fun id hid hequals => ?_, fun id hid hequals => ?_,
      fun id hid hequals => ?_⟩
    · have hcounts := countsEntry_movie.mpr (Or.inr hequals)
      exact ⟨hmovie hid hcounts, (movie_attributed_iff hequals).mp (h.attributed _ hid hcounts)⟩
    · have hcounts := countsEntry_series.mpr (Or.inr hequals)
      exact (series_attributed_iff hequals).mp (h.attributed _ hid hcounts)
    · have hcounts := countsEntry_movie.mpr (Or.inl hequals)
      have hattributed := mediaOf_eq_movie_iff.mp (h.attributed _ hid hcounts)
      rw [readsAs_media_id hequals] at hattributed
      exact ⟨hmovie hid hcounts, hattributed⟩
    · have hcounts := countsEntry_series.mpr (Or.inl hequals)
      have hattributed := mediaOf_eq_series_iff.mp (h.attributed _ hid hcounts)
      rw [readsAs_media_id hequals] at hattributed
      exact hattributed
  · intro h
    have hattributed : ∀ subject, IsSubject tables subject → countsEntry subject entry →
        mediaOf py.toPythonCalls entry = .ok (some (subject.1, (subject.2 : Int))) := by
      rintro ⟨kind, id⟩ hid hcounts
      cases kind with
      | movie =>
        rcases countsEntry_movie.mp hcounts with hequals | hequals
        · rw [mediaOf_eq_movie_iff, readsAs_media_id hequals]
          exact (h.media_id_movie id hid hequals).2
        · exact (movie_attributed_iff hequals).mpr (h.movie_id id hid hequals).2
      | series =>
        rcases countsEntry_series.mp hcounts with hequals | hequals
        · rw [mediaOf_eq_series_iff, readsAs_media_id hequals]
          exact h.media_id_series id hid hequals
        · exact (series_attributed_iff hequals).mpr (h.series_id id hid hequals)
    refine ⟨fun subject hid hcounts other hother hcounts' => ?_, hattributed,
      fun hseries id hid => ?_⟩
    · have hsame := (hattributed subject hid hcounts).symm.trans (hattributed other hother hcounts')
      simp only [Except.ok.injEq, Option.some.injEq, Prod.mk.injEq, Int.natCast_inj] at hsame
      exact Prod.ext hsame.1 hsame.2
    · by_contra hcounts
      have hmarked : (metadataGet entry "media_type").isStr "series" = false := by
        rcases countsEntry_movie.mp (by simpa using hcounts) with hequals | hequals
        · exact (h.media_id_movie id hid hequals).1
        · exact (h.movie_id id hid hequals).1
      rw [hseries] at hmarked
      cases hmarked

end Attribution

/-! ## Ids that coincide -/

/-- `int` on a decimal text. -/
def intOfDecimal (text : String) : Option Int :=
  match text.toList with
  | '-' :: digits =>
    if digits ≠ [] ∧ digits.all Char.isDigit then some (-(Nat.ofDigitChars 10 digits 0 : Int))
    else none
  | digits =>
    if digits ≠ [] ∧ digits.all Char.isDigit then some (Nat.ofDigitChars 10 digits 0) else none

theorem intOfDecimal_repr (n : Nat) : intOfDecimal n.repr = some (n : Int) := by
  have hdigits : n.repr.toList.all Char.isDigit = true :=
    List.all_eq_true.mpr PythonText.isDigit_of_mem_repr
  have hne : n.repr.toList ≠ [] := by
    rw [Nat.toList_repr]
    exact Nat.toDigits_ne_nil
  unfold intOfDecimal
  split
  · next digits heq =>
    rw [heq] at hdigits
    simp at hdigits
  · next digits _ =>
    rw [if_pos ⟨hne, hdigits⟩, PythonText.ofDigitChars_repr]

theorem intOfDecimal_neg_repr (n : Nat) : intOfDecimal ("-" ++ n.repr) = some (-(n : Int)) := by
  have hdigits : n.repr.toList.all Char.isDigit = true :=
    List.all_eq_true.mpr PythonText.isDigit_of_mem_repr
  have hne : n.repr.toList ≠ [] := by
    rw [Nat.toList_repr]
    exact Nat.toDigits_ne_nil
  have hlist : ("-" ++ n.repr).toList = '-' :: n.repr.toList := by simp
  unfold intOfDecimal
  rw [hlist]
  refine (if_pos ⟨hne, hdigits⟩).trans ?_
  rw [PythonText.ofDigitChars_repr]

/-- The calls on ASCII texts and decimal numbers; no float is read. -/
def decimalTexts : PythonCalls where
  toCaseTables := asciiCalls.toCaseTables
  str := fun value => match value with
    | .str s => s
    | .int n => if 0 ≤ n.val then n.val.toNat.repr else "-" ++ (-n.val).toNat.repr
    | .bool b => if b then "True" else "False"
    | .float _ => "nan"
    | _ => ""
  int := intOfDecimal

theorem parseOptionalInt_int (n : PyInt) :
    parseOptionalInt decimalTexts (.int n) = some n.val := by
  have hdigit (m : Nat) : ∀ c ∈ m.repr.toList, PythonText.isSpace c = false := fun c hc =>
    PythonText.isSpace_of_isDigit (PythonText.isDigit_of_mem_repr c hc)
  have hread {text : String} (hspace : ∀ c ∈ text.toList, PythonText.isSpace c = false)
      (htext : decimalTexts.str (.int n) = text) (hint : intOfDecimal text = some n.val) :
      parseOptionalInt decimalTexts (.int n) = some n.val := by
    have hne : text ≠ "" := by
      rintro rfl
      cases hint
    have hsome : ¬(PyValue.int n).isNone = true := Bool.false_ne_true
    rw [parseOptionalInt, if_neg hsome]
    dsimp only
    rw [htext, PythonText.strip_eq_self hspace, if_neg hne]
    exact hint
  rcases le_or_gt 0 n.val with hpos | hneg
  · refine hread (hdigit n.val.toNat) (if_pos hpos) ?_
    rw [intOfDecimal_repr, Int.toNat_of_nonneg hpos]
  · have hspace : ∀ c ∈ ("-" ++ (-n.val).toNat.repr).toList, PythonText.isSpace c = false := by
      simp only [String.toList_append]
      intro c hc
      rcases List.mem_append.mp hc with hminus | hrepr
      · rw [List.mem_singleton.mp hminus]
        decide
      · exact hdigit _ c hrepr
    refine hread hspace (if_neg (not_le.mpr hneg)) ?_
    rw [intOfDecimal_neg_repr, Int.toNat_of_nonneg (by omega), Int.neg_neg]

def decimalNumbers : NumberCalls where
  toPythonCalls := decimalTexts
  reads_int := parseOptionalInt_int
  reads_bool := by decide +kernel
  reads_float := fun x => by
    have htext : decimalTexts.str (.float x) = "nan" := rfl
    have hsome : ¬(PyValue.float x).isNone = true := Bool.false_ne_true
    rw [parseOptionalInt, if_neg hsome, htext]
    decide +kernel

/-- Tables in which a movie and a series have the same id. -/
def coincidingTables : Tables where
  movies := [{ id := 7, tmdbId := 949, title := "Heat" }]
  series := [{ id := 7, tmdbId := 1396, title := "Breaking Bad" }]

/-- A file that is marked as one of the series. -/
def markedEntry : FilesystemIndexEntry where
  rootId := 1
  path := "/media/series/Breaking Bad/Breaking.Bad.S01E01.mkv"
  entryType := "file"
  metadataJson := [("media_type", .str "series"), ("media_id", .int ⟨7, by decide +kernel⟩)]
  indexedAt := 0

/-- The file counts for the movie and for the series. -/
theorem not_belongsToOne_markedEntry : countsEntry (.movie, 7) markedEntry = true ∧
    countsEntry (.series, 7) markedEntry = true ∧
      ¬BelongsToOne decimalTexts coincidingTables markedEntry := by
  have hmovie : countsEntry (.movie, 7) markedEntry = true := by decide
  refine ⟨hmovie, by decide, fun h => ?_⟩
  have hnot := h.series_marked (by decide) 7 ⟨_, List.mem_singleton_self _, rfl⟩
  rw [hmovie] at hnot
  cases hnot

end MediaMasterr.Mie
