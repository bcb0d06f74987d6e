import Mathlib.Data.List.Lex
import Mathlib.Data.List.SplitBy
import Mathlib.Data.Prod.Lex
import Mathlib.Data.String.Basic
import Mathlib.Data.Sum.Order
import MediaMasterr.Database.Tables
import MediaMasterr.Foundations.FallibleSort
import MediaMasterr.Foundations.Loops
import MediaMasterr.Foundations.PythonText

/-! # The order of rule previews

`build_rule_preview_items` sorts its items by natural keys of their titles: a title is
cut into numbers and other texts. Not every piece that counts as digits can be
converted, and the key of an empty title cannot be compared with other ones. -/

namespace MediaMasterr.Media

open MediaMasterr.Database MediaMasterr.Foundations FallibleSort PythonText

/-- The items of a preview, with the fields that they are sorted by. -/
structure RulePreviewEntry where
  mediaType : MediaType
  mediaId : Int
  mediaTitle : String
  mediaYear : Option Int := none
  seasonNumber : Option Int := none
  episodeNumber : Option Int := none
  movieVersionId : Option Int := none
  deriving DecidableEq, Repr

inductive PreviewError where
  | valueError
  | typeError
  deriving DecidableEq, Repr

/-- What the interpreter's tables tell of the characters of a title. A decimal digit has no case and
separates what is lowered around it. -/
structure TitleTables where
  /-- `\d` matches it, and `int` reads it. -/
  isDecimal : Char → Bool
  /-- `str.isdigit` holds for it. -/
  isDigit : Char → Bool
  digitValue : Char → Nat
  /-- `str.lower`. -/
  lower : List Char → List Char
  isDigit_of_isDecimal : ∀ c, isDecimal c → isDigit c
  lower_eq_nil : ∀ text, lower text = [] ↔ text = []
  lower_decimal : ∀ before digit behind, isDecimal digit →
    lower (before ++ digit :: behind) = lower before ++ digit :: lower behind
  notDecimal_lower : ∀ text, (∀ c ∈ text, isDecimal c = false) → ∀ c ∈ lower text, isDecimal c = false

/-- `(0, number)` and `(1, text)`. -/
abbrev KeyPart := Nat ⊕ₗ String

/-- The key of an empty title is `("",)`. -/
inductive NaturalKey where
  | blank
  | parts (parts : List KeyPart)
  deriving DecidableEq

/-- The default of `sys.get_int_max_str_digits`. -/
def intMaxStrDigits : Nat := 4300

section

variable (t : TitleTables)

/-- The pieces of `_NATURAL_SORT_TOKEN_RE.split` that are not empty: runs of decimal digits, and what
stands between them. -/
def pieces (text : List Char) : List (List Char) := text.splitBy fun c d => t.isDecimal c == t.isDecimal d

/-- `int` of decimal digits. -/
def intOf (digits : List Char) : Nat := digits.foldl (fun n c => 10 * n + t.digitValue c) 0

/-- One round of the loop of `_natural_sort_key`. -/
def keyPart (piece : List Char) : Except PreviewError KeyPart :=
  if piece.all t.isDigit then
    if piece.all t.isDecimal ∧ piece.length ≤ intMaxStrDigits then .ok (Sum.inlₗ (intOf t piece))
    else .error .valueError
  else .ok (Sum.inrₗ (String.ofList piece))

/-- `_natural_sort_key`. -/
def naturalSortKey (value : Option String) : Except PreviewError NaturalKey :=
  match value.filter (· ≠ "") with
  | none => .ok .blank
  | some value => do return .parts (← (pieces t (t.lower value.toList)).mapM (keyPart t))

/-- An optional number, as whether it is missing and its value. -/
def optionalKey (value : Option Int) : List Int := [if value.isNone then 1 else 0, value.getD 0]

/-- The elements of the sort key behind that of the title. -/
def RulePreviewEntry.rest (item : RulePreviewEntry) : List Int :=
  optionalKey item.mediaYear ++ optionalKey item.seasonNumber ++ optionalKey item.episodeNumber ++
    optionalKey item.movieVersionId ++ [item.mediaId]

structure SortKey where
  title : NaturalKey
  rest : List Int

/-- `<` of the key tuples: a text and a pair cannot be compared. -/
def SortKey.lt (a b : SortKey) : Except PreviewError Bool :=
  match a.title, b.title with
  | .blank, .blank => .ok (smaller a.rest b.rest)
  | .parts as, .parts bs => .ok (smaller (toLex (as, a.rest)) (toLex (bs, b.rest)))
  | _, _ => .error .typeError

def sortKey (item : RulePreviewEntry) : Except PreviewError SortKey := do
  return ⟨← naturalSortKey t (some item.mediaTitle), item.rest⟩

/-- `items.sort(key=…)` at the end of `build_rule_preview_items`. -/
def sortPreviewItems (items : List RulePreviewEntry) : Except PreviewError (List RulePreviewEntry) := do
  let keyed ← items.mapM fun item => do return (← sortKey t item, item)
  return (← sortM (fun a b => a.1.lt b.1) keyed).map Prod.snd

/-! ## What the keys say -/

/-- The pieces of a title in lower case that count as digits can be converted. -/
def Converts (title : String) : Prop := ∀ piece ∈ pieces t (t.lower title.toList),
  piece.all t.isDigit → piece.all t.isDecimal ∧ piece.length ≤ intMaxStrDigits

/-- A piece as a number or a text. -/
def readPiece (piece : List Char) : KeyPart :=
  if piece.all t.isDecimal then Sum.inlₗ (intOf t piece) else Sum.inrₗ (String.ofList piece)

/-- A title as its numbers and the texts between them, in lower case. -/
def reading (title : String) : List KeyPart := (pieces t (t.lower title.toList)).map (readPiece t)

/-- What an item is sorted by. -/
def orderOf (item : RulePreviewEntry) : List KeyPart ×ₗ List Int :=
  toLex (reading t item.mediaTitle, item.rest)

/-- A decimal number. -/
def IsNumber (digits : List Char) : Prop := digits ≠ [] ∧ ∀ c ∈ digits, t.isDecimal c

/-- The titles differ only in one decimal number, which is smaller in the first one. -/
def NumberLess (title title' : String) : Prop :=
  ∃ before number number' behind : List Char,
    title.toList = before ++ number ++ behind ∧ title'.toList = before ++ number' ++ behind ∧
    IsNumber t number ∧ IsNumber t number' ∧
    (∀ c ∈ before.getLast?, t.isDecimal c = false) ∧ (∀ c ∈ behind.head?, t.isDecimal c = false) ∧
    intOf t number < intOf t number'

/-- The sort completes, records that differ in title may come in any order among each other, and
numbers in titles are ordered by their values. -/
structure SortsNaturally (items : List RulePreviewEntry) : Prop where
  completes : ∃ sorted, sortPreviewItems t items = .ok sorted
  anyOrder : ∀ items', SameGroups (·.mediaTitle) items' items →
    sortPreviewItems t items' = sortPreviewItems t items
  numbers : ∀ sorted, sortPreviewItems t items = .ok sorted →
    sorted.Pairwise fun a b => ¬NumberLess t b.mediaTitle a.mediaTitle

end

section Keys

variable {t : TitleTables} {title title' : String} {item : RulePreviewEntry}

theorem keyPart_eq_ok_iff {piece : List Char} : (∃ part, keyPart t piece = .ok part) ↔
    (piece.all t.isDigit → piece.all t.isDecimal ∧ piece.length ≤ intMaxStrDigits) := by
  rw [keyPart]
  split_ifs with hdigit hdecimal <;> simp_all

theorem keyPart_eq_readPiece {piece : List Char}
    (h : piece.all t.isDigit → piece.all t.isDecimal ∧ piece.length ≤ intMaxStrDigits) :
    keyPart t piece = .ok (readPiece t piece) := by
  rw [keyPart, readPiece]
  by_cases hdigit : piece.all t.isDigit
  · rw [if_pos hdigit, if_pos (h hdigit), if_pos (h hdigit).1]
  · have hdecimal : ¬piece.all t.isDecimal = true := fun hdecimal => hdigit
      (List.all_eq_true.mpr fun c hc => t.isDigit_of_isDecimal c (List.all_eq_true.mp hdecimal c hc))
    rw [if_neg hdigit, if_neg hdecimal]

theorem naturalSortKey_of_ne (h : title ≠ "") : naturalSortKey t (some title) =
    (pieces t (t.lower title.toList)).mapM (keyPart t) >>= fun parts => .ok (.parts parts) := by
  rw [naturalSortKey, Option.filter_some, if_pos (decide_eq_true h)]
  rfl

theorem converts_empty : Converts t "" := by
  have hlower : t.lower "".toList = [] := (t.lower_eq_nil _).mpr rfl
  rw [Converts, hlower, pieces, List.splitBy_nil]
  exact fun piece hpiece => absurd hpiece List.not_mem_nil

theorem naturalSortKey_eq_ok_iff :
    (∃ key, naturalSortKey t (some title) = .ok key) ↔ Converts t title := by
  by_cases hempty : title = ""
  · rw [hempty]
    exact iff_of_true ⟨.blank, rfl⟩ converts_empty
  · have hparts : (∃ parts, (pieces t (t.lower title.toList)).mapM (keyPart t) = .ok parts) ↔
        Converts t title :=
      Loops.mapM_eq_ok_iff.trans (forall₂_congr fun piece _ => keyPart_eq_ok_iff)
    rw [← hparts, naturalSortKey_of_ne hempty]
    cases (pieces t (t.lower title.toList)).mapM (keyPart t) <;> simp [bind, Except.bind]

/-- The key of a title that can be converted. -/
def keyOf (t : TitleTables) (item : RulePreviewEntry) : SortKey :=
  ⟨if item.mediaTitle = "" then .blank else .parts (reading t item.mediaTitle), item.rest⟩

theorem sortKey_eq_ok (h : Converts t item.mediaTitle) : sortKey t item = .ok (keyOf t item) := by
  rw [sortKey, keyOf]
  split_ifs with hempty
  · rw [hempty]
    rfl
  · rw [naturalSortKey_of_ne hempty, Loops.mapM_eq_ok fun piece hpiece => keyPart_eq_readPiece (h piece hpiece)]
    rfl

theorem sortKey_eq_ok_iff : (∃ key, sortKey t item = .ok key) ↔ Converts t item.mediaTitle := by
  rw [← naturalSortKey_eq_ok_iff, sortKey]
  cases naturalSortKey t (some item.mediaTitle) <;> simp [bind, Except.bind, pure, Except.pure]

/-- Keys compare when both titles are empty or neither is, and then as what is sorted by. -/
theorem lt_keyOf {a b : RulePreviewEntry} : (keyOf t a).lt (keyOf t b) =
    if a.mediaTitle = "" ↔ b.mediaTitle = "" then .ok (smaller (orderOf t a) (orderOf t b))
    else .error .typeError := by
  rw [keyOf, keyOf]
  by_cases ha : a.mediaTitle = "" <;> by_cases hb : b.mediaTitle = ""
  · have horder : smaller (orderOf t a) (orderOf t b) = smaller a.rest b.rest := by
      rw [orderOf, orderOf, ha, hb, smaller, smaller, decide_eq_decide, Prod.Lex.toLex_lt_toLex]
      simp
    simp [ha, hb, SortKey.lt, horder]
  · simp [ha, hb, SortKey.lt]
  · simp [ha, hb, SortKey.lt]
  · simp [ha, hb, SortKey.lt, orderOf]

theorem SortKey.blank_iff_of_lt {a b : SortKey} {isSmaller : Bool} (h : a.lt b = .ok isSmaller) :
    a.title = .blank ↔ b.title = .blank := by
  rw [SortKey.lt] at h
  split at h <;> simp_all

end Keys

/-! ## The sort -/

section Sorting

variable {t : TitleTables} {items : List RulePreviewEntry}

theorem mapM_sortKey (hconverts : ∀ item ∈ items, Converts t item.mediaTitle) :
    (items.mapM fun item => do return (← sortKey t item, item)) =
      .ok (items.map fun item => (keyOf t item, item)) :=
  Loops.mapM_eq_ok fun item hitem => by rw [sortKey_eq_ok (hconverts item hitem)]; rfl

/-- Titles that can be converted, of which all or none are empty, are sorted by what their keys
say. -/
theorem sortPreviewItems_eq_ok (hconverts : ∀ item ∈ items, Converts t item.mediaTitle)
    (hkind : ∀ a ∈ items, ∀ b ∈ items, a.mediaTitle = "" → b.mediaTitle = "") :
    sortPreviewItems t items = .ok (sortBy (orderOf t) items) := by
  have hsorted : sortM (fun a b => a.1.lt b.1) (items.map fun item => (keyOf t item, item)) =
      .ok (sortBy (fun keyed => orderOf t keyed.2) (items.map fun item => (keyOf t item, item))) := by
    refine sortM_eq_ok fun a ha b hb => ?_
    obtain ⟨item, hitem, rfl⟩ := List.mem_map.mp ha
    obtain ⟨item', hitem', rfl⟩ := List.mem_map.mp hb
    rw [lt_keyOf, if_pos ⟨hkind item hitem item' hitem', hkind item' hitem' item hitem⟩]
  have hitems : (sortBy (fun keyed : SortKey × RulePreviewEntry => orderOf t keyed.2)
      (items.map fun item => (keyOf t item, item))).map Prod.snd = sortBy (orderOf t) items := by
    rw [sortBy, map_sortBy, List.map_map]
    simp [Function.comp_def]
  rw [sortPreviewItems, mapM_sortKey hconverts]
  simp only [bind, Except.bind, pure, Except.pure, hsorted, hitems]

/-- A sort that completes has converted every title, and has compared empty titles with empty ones
only. -/
theorem of_sortPreviewItems {sorted : List RulePreviewEntry} (h : sortPreviewItems t items = .ok sorted) :
    (∀ item ∈ items, Converts t item.mediaTitle) ∧
      ∀ a ∈ items, ∀ b ∈ items, a.mediaTitle = "" → b.mediaTitle = "" := by
  obtain ⟨keyed, hkeyed, h⟩ := bind_eq_ok.mp h
  have hconverts : ∀ item ∈ items, Converts t item.mediaTitle := by
    intro item hitem
    obtain ⟨_, hitem⟩ := Loops.mapM_eq_ok_iff.mp ⟨keyed, hkeyed⟩ item hitem
    obtain ⟨key, hkey, -⟩ := bind_eq_ok.mp hitem
    exact sortKey_eq_ok_iff.mp ⟨key, hkey⟩
  refine ⟨hconverts, fun a ha b hb hempty => ?_⟩
  obtain rfl := Except.ok.inj ((mapM_sortKey hconverts).symm.trans hkeyed)
  obtain ⟨_, hsorted, -⟩ := bind_eq_ok.mp h
  have hkind := kind_eq_of_sortM (fun keyed : SortKey × RulePreviewEntry => keyed.1.title = .blank)
    (fun _ _ _ hlt => propext (SortKey.blank_iff_of_lt hlt)) hsorted _ (List.mem_map_of_mem ha) _
    (List.mem_map_of_mem hb)
  have hblank : (keyOf t b).title = .blank := hkind.mp (if_pos hempty)
  by_contra hne
  rw [keyOf, if_neg hne] at hblank
  cases hblank

/-- Another order of the records, in which those of a title keep theirs, gives the same exactly when
records with one key share their title. -/
theorem sortPreviewItems_anyOrder_iff (hconverts : ∀ item ∈ items, Converts t item.mediaTitle)
    (hkind : ∀ a ∈ items, ∀ b ∈ items, a.mediaTitle = "" → b.mediaTitle = "") :
    (∀ items', SameGroups (·.mediaTitle) items' items →
      sortPreviewItems t items' = sortPreviewItems t items) ↔
    ∀ a ∈ items, ∀ b ∈ items, orderOf t a = orderOf t b → a.mediaTitle = b.mediaTitle := by
  rw [← sortBy_anyOrder_iff]
  refine forall₂_congr fun items' hsame => ?_
  have hsorted : sortPreviewItems t items' = .ok (sortBy (orderOf t) items') :=
    sortPreviewItems_eq_ok (fun item hitem => hconverts item ((hsame.mem_iff item).mp hitem))
      fun a ha b hb => hkind a ((hsame.mem_iff a).mp ha) b ((hsame.mem_iff b).mp hb)
  rw [hsorted, sortPreviewItems_eq_ok hconverts hkind, Except.ok.injEq]

end Sorting

/-! ## Numbers in titles -/

section Numbers

variable {t : TitleTables} {before behind digits digits' text : List Char}

theorem lower_nil : t.lower [] = [] := (t.lower_eq_nil []).mpr rfl

theorem lower_append_digits (hdigits : ∀ c ∈ digits, t.isDecimal c) :
    t.lower (digits ++ behind) = digits ++ t.lower behind := by
  induction digits with
  | nil => rfl
  | cons c cs ih =>
    have hfirst := t.lower_decimal [] c (cs ++ behind) (hdigits c List.mem_cons_self)
    rw [List.nil_append, lower_nil, List.nil_append] at hfirst
    rw [List.cons_append, hfirst, ih fun d hd => hdigits d (List.mem_cons_of_mem _ hd), List.cons_append]

/-- A number separates what is lowered around it. -/
theorem lower_append_number (hnumber : IsNumber t digits) :
    t.lower (before ++ digits ++ behind) = t.lower before ++ digits ++ t.lower behind := by
  obtain ⟨hne, hdigits⟩ := hnumber
  obtain ⟨c, cs, rfl⟩ := List.exists_cons_of_ne_nil hne
  rw [List.append_assoc, List.cons_append, t.lower_decimal before c (cs ++ behind) (hdigits c List.mem_cons_self),
    lower_append_digits fun d hd => hdigits d (List.mem_cons_of_mem _ hd)]
  simp

theorem notDecimal_of_find? (h : text.find? t.isDecimal = none) :
    ∀ c ∈ t.lower text, t.isDecimal c = false :=
  t.notDecimal_lower text fun c hc => eq_false_of_ne_true (List.find?_eq_none.mp h c hc)

/-- What does not start with a decimal digit does not in lower case. -/
theorem head?_lower (h : ∀ c ∈ text.head?, t.isDecimal c = false) :
    ∀ c ∈ (t.lower text).head?, t.isDecimal c = false := by
  intro c hc
  cases hfind : text.find? t.isDecimal with
  | none => exact notDecimal_of_find? hfind c (List.mem_of_mem_head? hc)
  | some digit =>
    obtain ⟨hdigit, first, rest, rfl, hfirst⟩ := List.find?_eq_some_iff_append.mp hfind
    have hne : first ≠ [] := by
      rintro rfl
      rw [h digit rfl] at hdigit
      cases hdigit
    have hlower : t.lower first ≠ [] := fun hnil => hne ((t.lower_eq_nil first).mp hnil)
    rw [t.lower_decimal first digit rest hdigit, List.head?_append_of_ne_nil _ hlower] at hc
    exact t.notDecimal_lower first (fun d hd => by simpa using hfirst d hd) c (List.mem_of_mem_head? hc)

/-- What does not end with a decimal digit does not in lower case. -/
theorem getLast?_lower (h : ∀ c ∈ text.getLast?, t.isDecimal c = false) :
    ∀ c ∈ (t.lower text).getLast?, t.isDecimal c = false := by
  intro c hc
  cases hfind : text.reverse.find? t.isDecimal with
  | none =>
    refine t.notDecimal_lower text (fun d hd => ?_) c (List.mem_of_mem_getLast? hc)
    exact eq_false_of_ne_true (List.find?_eq_none.mp hfind d (List.mem_reverse.mpr hd))
  | some digit =>
    obtain ⟨hdigit, last, rest, hreverse, hlast⟩ := List.find?_eq_some_iff_append.mp hfind
    have htext : text = rest.reverse ++ digit :: last.reverse := by
      rw [← List.reverse_reverse text, hreverse]
      simp
    subst htext
    have hne : last ≠ [] := by
      rintro rfl
      rw [h digit (by simp)] at hdigit
      cases hdigit
    have hlower : t.lower last.reverse ≠ [] := fun hnil =>
      hne (List.reverse_eq_nil_iff.mp ((t.lower_eq_nil last.reverse).mp hnil))
    rw [t.lower_decimal _ digit _ hdigit, List.getLast?_append_cons,
      List.getLast?_cons_of_ne_nil hlower] at hc
    refine t.notDecimal_lower last.reverse (fun d hd => ?_) c (List.mem_of_mem_getLast? hc)
    simpa using hlast d (List.mem_reverse.mp hd)

/-- A number is a piece of its own. -/
theorem pieces_append_number (hnumber : IsNumber t digits)
    (hbefore : ∀ c ∈ before.getLast?, t.isDecimal c = false)
    (hbehind : ∀ c ∈ behind.head?, t.isDecimal c = false) :
    pieces t (before ++ digits ++ behind) = pieces t before ++ [digits] ++ pieces t behind := by
  obtain ⟨hne, hdigits⟩ := hnumber
  have hchain : digits.IsChain fun c d => (t.isDecimal c == t.isDecimal d) = true := by
    refine (List.pairwise_of_forall_mem_list fun c hc d hd => ?_).isChain
    rw [hdigits c hc, hdigits d hd]
    rfl
  have hleft : ∀ c ∈ before.getLast?, ∀ d ∈ digits.head?, (t.isDecimal c == t.isDecimal d) = false := by
    intro c hc d hd
    rw [hbefore c hc, hdigits d (List.mem_of_mem_head? hd)]
    rfl
  have hright : ∀ c ∈ (before ++ digits).getLast?, ∀ d ∈ behind.head?,
      (t.isDecimal c == t.isDecimal d) = false := by
    intro c hc d hd
    rw [List.getLast?_append_of_ne_nil _ hne] at hc
    rw [hdigits c (List.mem_of_mem_getLast? hc), hbehind d hd]
    rfl
  rw [pieces, List.splitBy_append hright, List.splitBy_append hleft, List.splitBy_of_isChain hne hchain]
  rfl

/-- A title around a number is read as what is before, the number, and what is behind. -/
theorem reading_number {title : String} (htitle : title.toList = before ++ digits ++ behind)
    (hnumber : IsNumber t digits) (hbefore : ∀ c ∈ before.getLast?, t.isDecimal c = false)
    (hbehind : ∀ c ∈ behind.head?, t.isDecimal c = false) :
    reading t title = (pieces t (t.lower before)).map (readPiece t) ++
      Sum.inlₗ (intOf t digits) :: (pieces t (t.lower behind)).map (readPiece t) := by
  have hread : readPiece t digits = Sum.inlₗ (intOf t digits) :=
    if_pos (List.all_eq_true.mpr hnumber.2)
  rw [reading, htitle, lower_append_number hnumber,
    pieces_append_number hnumber (getLast?_lower hbefore) (head?_lower hbehind)]
  simp [hread]

/-- Titles that differ only in one number are read in the order of its values. -/
theorem reading_lt_of_numberLess {title title' : String} (h : NumberLess t title title') :
    reading t title < reading t title' := by
  obtain ⟨before, number, number', behind, htitle, htitle', hnumber, hnumber', hbefore, hbehind, hless⟩ := h
  rw [reading_number htitle hnumber hbefore hbehind, reading_number htitle' hnumber' hbefore hbehind]
  exact List.Lex.append_left (· < ·) (List.Lex.rel (Sum.Lex.inl_lt_inl_iff.mpr hless)) _

/-- Items come out with numbers in the order of their values. -/
theorem sortBy_numbers (items : List RulePreviewEntry) :
    (sortBy (orderOf t) items).Pairwise fun a b => ¬NumberLess t b.mediaTitle a.mediaTitle := by
  refine pairwise_sortBy.imp fun {a b} hle hless => ?_
  have hlt : orderOf t b < orderOf t a :=
    Prod.Lex.toLex_lt_toLex.mpr (.inl (reading_lt_of_numberLess hless))
  exact absurd hle (not_le.mpr hlt)

end Numbers

/-! ## When the sort is natural -/

section

variable (t : TitleTables) (items : List RulePreviewEntry)

/-- Rule previews are sorted naturally exactly when what counts as digits in their titles can be
converted, all or none of the titles are empty, and records with one key share their title. -/
theorem sortsNaturally_iff : SortsNaturally t items ↔
    (∀ item ∈ items, Converts t item.mediaTitle) ∧
      (∀ a ∈ items, ∀ b ∈ items, a.mediaTitle = "" → b.mediaTitle = "") ∧
      ∀ a ∈ items, ∀ b ∈ items, orderOf t a = orderOf t b → a.mediaTitle = b.mediaTitle := by
  constructor
  · rintro ⟨⟨sorted, hsorted⟩, hanyOrder, -⟩
    obtain ⟨hconverts, hkind⟩ := of_sortPreviewItems hsorted
    exact ⟨hconverts, hkind, (sortPreviewItems_anyOrder_iff hconverts hkind).mp hanyOrder⟩
  · rintro ⟨hconverts, hkind, htitles⟩
    have hsorted := sortPreviewItems_eq_ok hconverts hkind
    refine ⟨⟨_, hsorted⟩, (sortPreviewItems_anyOrder_iff hconverts hkind).mpr htitles, ?_⟩
    intro sorted h
    obtain rfl := Except.ok.inj (hsorted.symm.trans h)
    exact sortBy_numbers items

end

/-! ## Titles that break it -/

section Latin

/-- ASCII letters, and the digits of Latin-1. -/
def latinTables : TitleTables where
  isDecimal := Char.isDigit
  isDigit c := c.isDigit || c ∈ ['¹', '²', '³']
  digitValue c := c.toNat - '0'.toNat
  lower := List.map Char.toLower
  isDigit_of_isDecimal c hc := by rw [hc, Bool.true_or]
  lower_eq_nil _ := List.map_eq_nil_iff
  lower_decimal before digit behind hdigit := by
    rw [List.map_append, List.map_cons, toLower_of_isDigit hdigit]
  notDecimal_lower text htext c hc := by
    obtain ⟨d, hd, rfl⟩ := List.mem_map.mp hc
    rw [isDigit_toLower, htext d hd]

example : sortPreviewItems latinTables [⟨.movie, 1, "Apollo 13", none, none, none, none⟩,
    ⟨.movie, 2, "apollo 9", none, none, none, none⟩] =
    .ok [⟨.movie, 2, "apollo 9", none, none, none, none⟩,
      ⟨.movie, 1, "Apollo 13", none, none, none, none⟩] := by rfl

theorem not_sortsNaturally_of_error {items : List RulePreviewEntry} {e : PreviewError}
    (h : sortPreviewItems latinTables items = .error e) : ¬SortsNaturally latinTables items := by
  intro hnatural
  obtain ⟨sorted, hsorted⟩ := hnatural.completes
  rw [h] at hsorted
  cases hsorted

/-- A superscript counts as digits and cannot be converted, an empty title cannot be compared with
another one, and titles that differ in their case only come out as they went in. -/
theorem not_sortsNaturally :
    ¬SortsNaturally latinTables [⟨.movie, 1, "7³", none, none, none, none⟩] ∧
    ¬SortsNaturally latinTables [⟨.movie, 1, "Alien", none, none, none, none⟩,
      ⟨.movie, 2, "", none, none, none, none⟩] ∧
    ¬SortsNaturally latinTables [⟨.movie, 1, "Alien", none, none, none, none⟩,
      ⟨.series, 1, "ALIEN", none, none, none, none⟩] := by
  refine ⟨not_sortsNaturally_of_error (e := .valueError) rfl,
    not_sortsNaturally_of_error (e := .typeError) rfl, fun h => ?_⟩
  have hsame : SameGroups (·.mediaTitle) [⟨.series, 1, "ALIEN", none, none, none, none⟩,
      ⟨.movie, 1, "Alien", none, none, none, none⟩] [⟨.movie, 1, "Alien", none, none, none, none⟩,
      (⟨.series, 1, "ALIEN", none, none, none, none⟩ : RulePreviewEntry)] := by
    intro title
    by_cases htitle : title = "Alien"
    · rw [htitle]
      rfl
    · simp [List.filter_cons, Ne.symm htitle]
  have hsorted := h.anyOrder _ hsame
  have hswapped : sortPreviewItems latinTables [⟨.series, 1, "ALIEN", none, none, none, none⟩,
        ⟨.movie, 1, "Alien", none, none, none, none⟩] =
      .ok [⟨.series, 1, "ALIEN", none, none, none, none⟩, ⟨.movie, 1, "Alien", none, none, none, none⟩] := rfl
  have hgiven : sortPreviewItems latinTables [⟨.movie, 1, "Alien", none, none, none, none⟩,
        ⟨.series, 1, "ALIEN", none, none, none, none⟩] =
      .ok [⟨.movie, 1, "Alien", none, none, none, none⟩, ⟨.series, 1, "ALIEN", none, none, none, none⟩] := rfl
  rw [hswapped, hgiven] at hsorted
  cases hsorted

end Latin

end MediaMasterr.Media
