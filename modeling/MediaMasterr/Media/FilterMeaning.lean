import MediaMasterr.Foundations.LikePatterns
import MediaMasterr.Media.DecisionFilter

/-! # What a decision filter says

The definitions of decision filters as trees, the formula that a tree stands for, and
when the expression that is built for it is true of the same rows. The code turns some
clauses around, leaves some out, and gives up on days that a date cannot go back. -/

namespace MediaMasterr.Media

open MediaMasterr.Foundations MediaMasterr.Database MediaMasterr.RuleEngine

/-! ## Definitions -/

inductive Comparison where
  | greaterThan
  | lessThan
  | equals
  | notEquals
  deriving DecidableEq, Repr

inductive TextComparison where
  | equals
  | notEquals
  | contains
  | doesNotContain
  | startsWith
  | endsWith
  deriving DecidableEq, Repr

inductive Combinator where
  | and
  | or
  deriving DecidableEq, Repr

namespace Comparison

def text : Comparison → String
  | .greaterThan => "greater_than"
  | .lessThan => "less_than"
  | .equals => "equals"
  | .notEquals => "not_equals"

def holds (a b : Int) : Comparison → Bool
  | .greaterThan => b < a
  | .lessThan => a < b
  | .equals => a = b
  | .notEquals => a ≠ b

end Comparison

namespace TextComparison

def text : TextComparison → String
  | .equals => "equals"
  | .notEquals => "not_equals"
  | .contains => "contains"
  | .doesNotContain => "does_not_contain"
  | .startsWith => "starts_with"
  | .endsWith => "ends_with"

/-- Parts are looked for without regard to case. -/
def holds (title token : String) : TextComparison → Bool
  | .equals => title = token
  | .notEquals => title ≠ token
  | .contains => (PythonText.asciiLower token).toList <:+: (PythonText.asciiLower title).toList
  | .doesNotContain =>
    ¬(PythonText.asciiLower token).toList <:+: (PythonText.asciiLower title).toList
  | .startsWith => (PythonText.asciiLower token).toList <+: (PythonText.asciiLower title).toList
  | .endsWith => (PythonText.asciiLower token).toList <:+ (PythonText.asciiLower title).toList

end TextComparison

namespace Combinator

def text : Combinator → String
  | .and => "and"
  | .or => "or"

/-- A group in which nothing is said says nothing. -/
def combine : Combinator → List Bool → Option Bool
  | _, [] => none
  | .and, answers => some (answers.all id)
  | .or, answers => some (answers.any id)

end Combinator

/-- The clauses on the three fields. -/
inductive FilterClause where
  | size (op : Comparison) (value : PyValue)
  | lastWatchedDays (op : Comparison) (value : PyValue)
  | title (op : TextComparison) (value : PyValue)

namespace FilterClause

def field : FilterClause → String
  | .size .. => "media.size"
  | .lastWatchedDays .. => "media.last_watched_days"
  | .title .. => "media.title"

def operator : FilterClause → String
  | .size op _ => op.text
  | .lastWatchedDays op _ => op.text
  | .title op _ => op.text

def value : FilterClause → PyValue
  | .size _ value => value
  | .lastWatchedDays _ value => value
  | .title _ value => value

end FilterClause

inductive FilterTree where
  | condition (clause : FilterClause)
  | group (combinator : Combinator) (nodes : List FilterTree)

namespace FilterTree

mutual

/-- `model_dump()`. -/
def dump : FilterTree → List (String × PyValue)
  | condition clause =>
    [("type", .str "condition"), ("field", .str clause.field),
      ("operator", .str clause.operator), ("value", clause.value)]
  | group combinator nodes =>
    [("type", .str "group"), ("combinator", .str combinator.text), ("clauses", .list (dumps nodes))]

def dumps : List FilterTree → List PyValue
  | [] => []
  | tree :: trees => .dict tree.dump :: dumps trees

end

mutual

/-- The tree itself and the trees in it. -/
def subtrees : FilterTree → List FilterTree
  | condition clause => [condition clause]
  | group combinator nodes => group combinator nodes :: subtreesOf nodes

def subtreesOf : List FilterTree → List FilterTree
  | [] => []
  | tree :: trees => tree.subtrees ++ subtreesOf trees

end

mutual

def clauses : FilterTree → List FilterClause
  | condition clause => [clause]
  | group _ nodes => clausesOf nodes

def clausesOf : List FilterTree → List FilterClause
  | [] => []
  | tree :: trees => tree.clauses ++ clausesOf trees

end

section Value

variable (reading : FilterClause → Option Bool)

mutual

/-- The formula under a reading of its clauses; a clause that says nothing is left out. -/
def eval : FilterTree → Option Bool
  | condition clause => reading clause
  | group combinator nodes => combinator.combine (evals nodes)

def evals : List FilterTree → List Bool
  | [] => []
  | tree :: trees => tree.eval.toList ++ evals trees

end

end Value

end FilterTree

/-! ## Meanings -/

section Meaning

variable (rt : QueryRuntime) (now : Nat) (row : MediaRow)

def titleToken (value : PyValue) : String := PythonText.strip (rt.strOr value "")

/-- What a clause says of a row: nothing without a number to compare with or a text to look for,
and no comparison is true of `NULL`. -/
def FilterClause.meaning : FilterClause → Option Bool
  | .size op value => (rt.int value).map fun n => row.size.any fun (size : Nat) => op.holds size n
  | .lastWatchedDays op value => (rt.int value).map fun days =>
    row.lastViewedAt.any fun (lastViewedAt : Nat) => op.holds (now - lastViewedAt) (days * 86400)
  | .title op value =>
    if titleToken rt value = "" then none else some (op.holds row.title (titleToken rt value))

/-- The text that the code looks for, as a pattern. -/
def TextComparison.likePattern (token : String) : TextComparison → String
  | .startsWith => token ++ "%"
  | .endsWith => "%" ++ token
  | _ => "%" ++ token ++ "%"

/-- The text is not there, but its percent signs or underscores make it match. -/
def TextComparison.matchesOnly (title token : String) (op : TextComparison) : Bool :=
  likeText title (op.likePattern token) && !op.holds title token

/-- The code gives the opposite answer: on equality it takes both strict comparisons for true, it
takes wildcards for what they match, and `does_not_contain` for `contains`. -/
def FilterClause.turned : FilterClause → Bool
  | .size op value =>
    (op = .greaterThan || op = .lessThan) &&
      (rt.int value).any fun n => row.size.any fun (size : Nat) => (size : Int) = n
  | .lastWatchedDays op value =>
    (op = .greaterThan || op = .lessThan) && (rt.int value).any fun days =>
      row.lastViewedAt.any fun (lastViewedAt : Nat) => (now : Int) - lastViewedAt = days * 86400
  | .title .equals _ => false
  | .title .notEquals _ => false
  | .title .doesNotContain value =>
    !TextComparison.matchesOnly row.title (titleToken rt value) .contains
  | .title op value => op.matchesOnly row.title (titleToken rt value)

/-- The code has no expression for the operator. -/
def FilterClause.isDropped : FilterClause → Bool
  | .lastWatchedDays op _ => op = .equals || op = .notEquals
  | _ => false

/-- The days go back further than dates do. -/
def FilterClause.Overflows : FilterClause → Prop
  | .lastWatchedDays _ value => ∃ days, rt.int value = some days ∧ rt.daysBefore now days = none
  | _ => False

/-- The code's answer, from what the clause says. -/
def FilterClause.misreading (clause : FilterClause) : Option Bool :=
  if clause.isDropped then none
  else (clause.meaning rt now row).map fun answer => answer ^^ clause.turned rt now row

/-- The clause says something else than the code makes of it. -/
def FilterClause.Misread (clause : FilterClause) : Prop :=
  clause.Overflows rt now ∨ (clause.meaning rt now row ≠ none ∧
    (clause.isDropped = true ∨ clause.turned rt now row = true))

end Meaning

/-! ## Reading -/

/-- The database's text operations, `str` and `lower`, and `timedelta`. -/
structure QueryRuntime.Documented (rt : QueryRuntime) : Prop extends rt.Lawful where
  ilike_eq : rt.ilike = likeText
  daysBefore_eq : ∀ now days cutoff, rt.daysBefore now days = some cutoff →
    cutoff = now - days * 86400

/-- The answer that an expression gives for a row. -/
def answerOf (expression : Option MediaClause) (row : MediaRow) : Option Bool :=
  expression.map fun clause => clause row = some true

theorem decide_le_eq_xor (a b : Int) : decide (a ≤ b) = (decide (a < b) ^^ decide (a = b)) := by
  rcases lt_trichotomy a b with h | h | h
  · simp [h, h.le, h.ne]
  · simp [h]
  · simp [h.not_ge, h.not_gt, h.ne']

theorem decide_ge_eq_xor (a b : Int) : decide (b ≤ a) = (decide (b < a) ^^ decide (a = b)) := by
  rw [decide_le_eq_xor]
  simp only [@eq_comm _ b]

/-- The names of operators are in small ASCII letters, without blanks around them. -/
structure IsName (s : String) : Prop where
  ascii : s.toList.all (·.toNat < 128) = true
  strip_lower : PythonText.strip (PythonText.asciiLower s) = s

theorem Comparison.isName_text (op : Comparison) : IsName op.text := by
  cases op <;> exact ⟨by decide +kernel, by decide +kernel⟩

theorem TextComparison.isName_text (op : TextComparison) : IsName op.text := by
  cases op <;> exact ⟨by decide +kernel, by decide +kernel⟩

section Clauses

variable {rt : QueryRuntime} {db : Tables} {now : Nat} {mediaType : MediaType} {row : MediaRow}

theorem strip_lower_operator (hrt : rt.Lawful) (clause : FilterClause) :
    PythonText.strip (rt.lower clause.operator) = clause.operator := by
  have hname : IsName clause.operator := by
    cases clause with
    | size op _ => exact op.isName_text
    | lastWatchedDays op _ => exact op.isName_text
    | title op _ => exact op.isName_text
  rw [hrt.lower_ascii _ hname.ascii, hname.strip_lower]

theorem answerOf_sizeExpression (op : Comparison) (n : Int) (row : MediaRow) :
    answerOf (sizeExpression op.text n) row =
      some ((row.size.any fun (size : Nat) => op.holds size n) ^^
        ((op = .greaterThan || op = .lessThan) &&
          row.size.any fun (size : Nat) => (size : Int) = n)) := by
  cases hsize : row.size with
  | none => cases op <;> simp [sizeExpression, Comparison.text, answerOf, hsize, ThreeValued.conj]
  | some size =>
    cases op with
    | greaterThan =>
      simpa [sizeExpression, Comparison.text, Comparison.holds, answerOf, hsize,
        ThreeValued.conj_eq_true_iff] using decide_ge_eq_xor size n
    | lessThan =>
      simpa [sizeExpression, Comparison.text, Comparison.holds, answerOf, hsize,
        ThreeValued.conj_eq_true_iff] using decide_le_eq_xor size n
    | equals => simp [sizeExpression, Comparison.text, Comparison.holds, answerOf, hsize]
    | notEquals => simp [sizeExpression, Comparison.text, Comparison.holds, answerOf, hsize]

/-- The cutoff lies the days before now. -/
theorem answerOf_lastWatchedExpression (op : Comparison) (days : Int) (row : MediaRow)
    (hop : ¬(op = .equals ∨ op = .notEquals)) :
    answerOf (lastWatchedExpression op.text (now - days * 86400)) row =
      some ((row.lastViewedAt.any fun (lastViewedAt : Nat) =>
          op.holds (now - lastViewedAt) (days * 86400)) ^^
        row.lastViewedAt.any fun (lastViewedAt : Nat) =>
          (now : Int) - lastViewedAt = days * 86400) := by
  cases hviewed : row.lastViewedAt with
  | none =>
    cases op <;>
      simp [lastWatchedExpression, Comparison.text, answerOf, hviewed, ThreeValued.conj] at hop ⊢
  | some lastViewedAt =>
    cases op with
    | greaterThan =>
      have h := decide_ge_eq_xor (now - lastViewedAt) (days * 86400)
      have hle : days * 86400 ≤ (now : Int) - lastViewedAt ↔
        (lastViewedAt : Int) ≤ now - days * 86400 := by omega
      simp only [hle] at h
      simpa [lastWatchedExpression, Comparison.text, Comparison.holds, answerOf, hviewed,
        ThreeValued.conj_eq_true_iff] using h
    | lessThan =>
      have h := decide_le_eq_xor (now - lastViewedAt) (days * 86400)
      have hle : (now : Int) - lastViewedAt ≤ days * 86400 ↔
        (now : Int) - days * 86400 ≤ lastViewedAt := by omega
      simp only [hle] at h
      simpa [lastWatchedExpression, Comparison.text, Comparison.holds, answerOf, hviewed,
        ThreeValued.conj_eq_true_iff] using h
    | equals => exact absurd (Or.inl rfl) hop
    | notEquals => exact absurd (Or.inr rfl) hop

/-! ### Texts -/

def symbolOf : Char → LikePatterns.Symbol Char
  | '%' => .many
  | '_' => .one
  | c => .letter c

theorem symbolOf_covers (c : Char) : (symbolOf c).Covers c := by
  unfold symbolOf
  split
  · exact .many _
  · exact .one _
  · exact .letter _

theorem likeChars_iff (pattern text : List Char) :
    likeChars pattern text = true ↔ LikePatterns.Matches (pattern.map symbolOf) text := by
  induction pattern generalizing text with
  | nil => cases text <;> simp [likeChars]
  | cons c pattern ih =>
    by_cases hmany : c = '%'
    · subst hmany
      simp only [likeChars, List.any_eq_true, List.mem_tails, ih]
      exact LikePatterns.matches_endsWith_iff.symm
    · by_cases hone : c = '_'
      · subst hone
        cases text with
        | nil => simp [likeChars, symbolOf]
        | cons d text => simp [likeChars, symbolOf, ih]
      · have hletter : symbolOf c = .letter c := by
          unfold symbolOf
          split <;> simp_all
        cases text with
        | nil => simp [likeChars, hletter]
        | cons d text => simp [likeChars, hletter, hone, ih, @eq_comm _ d c]

def TextComparison.Finds (text title : List Char) : TextComparison → Prop
  | .startsWith => text <+: title
  | .endsWith => text <:+ title
  | _ => text <:+: title

theorem TextComparison.holds_iff {op : TextComparison}
    (hop : op = .contains ∨ op = .startsWith ∨ op = .endsWith) (title token : String) :
    op.holds title token = true ↔
      op.Finds (PythonText.asciiLower token).toList (PythonText.asciiLower title).toList := by
  rcases hop with rfl | rfl | rfl <;>
    simp only [TextComparison.holds, TextComparison.Finds, decide_eq_true_eq]

/-- A pattern matches when its symbols match a part of the title. -/
theorem likeText_iff (op : TextComparison) (title token : String) :
    likeText title (op.likePattern token) = true ↔
      ∃ text, op.Finds text (PythonText.asciiLower title).toList ∧
        LikePatterns.Matches ((PythonText.asciiLower token).toList.map symbolOf) text := by
  have hcontains : (PythonText.asciiLower ("%" ++ token ++ "%")).toList.map symbolOf =
      .many :: ((PythonText.asciiLower token).toList.map symbolOf ++ [.many]) := by
    simp [PythonText.asciiLower, symbolOf]
  have hstarts : (PythonText.asciiLower (token ++ "%")).toList.map symbolOf =
      (PythonText.asciiLower token).toList.map symbolOf ++ [.many] := by
    simp [PythonText.asciiLower, symbolOf]
  have hends : (PythonText.asciiLower ("%" ++ token)).toList.map symbolOf =
      .many :: (PythonText.asciiLower token).toList.map symbolOf := by
    simp [PythonText.asciiLower, symbolOf]
  rw [likeText, likeChars_iff]
  cases op with
  | startsWith =>
    rw [TextComparison.likePattern, hstarts]
    exact LikePatterns.matches_startsWith_iff
  | endsWith =>
    rw [TextComparison.likePattern, hends]
    exact LikePatterns.matches_endsWith_iff
  | equals | notEquals | contains | doesNotContain =>
    rw [TextComparison.likePattern, hcontains]
    · exact LikePatterns.matches_contains_iff
    all_goals simp

/-- The pattern of a text that is there matches. -/
theorem likeText_of_holds {op : TextComparison} {title token : String}
    (hop : op = .contains ∨ op = .startsWith ∨ op = .endsWith) (h : op.holds title token = true) :
    likeText title (op.likePattern token) = true := by
  have hcovers : List.Forall₂ LikePatterns.Symbol.Covers
      ((PythonText.asciiLower token).toList.map symbolOf) (PythonText.asciiLower token).toList :=
    List.forall₂_map_left_iff.mpr (List.forall₂_same.mpr fun c _ => symbolOf_covers c)
  exact (likeText_iff op title token).mpr ⟨_, (TextComparison.holds_iff hop title token).mp h,
    LikePatterns.matches_of_covers hcovers⟩

/-- A pattern matches where the text is, and where only its wildcards match. -/
theorem likeText_eq_xor {op : TextComparison}
    (hop : op = .contains ∨ op = .startsWith ∨ op = .endsWith) (title token : String) :
    likeText title (op.likePattern token) =
      (op.holds title token ^^ op.matchesOnly title token) := by
  have h := @likeText_of_holds op title token hop
  rw [TextComparison.matchesOnly]
  cases hholds : op.holds title token with
  | false => simp
  | true => simp [h hholds]

theorem answerOf_titleExpression (hrt : rt.Documented) (op : TextComparison) (value : PyValue)
    (row : MediaRow) :
    answerOf (titleExpression rt op.text value) row =
      (FilterClause.title op value).misreading rt now row := by
  have hlike {op : TextComparison} (hop : op = .contains ∨ op = .startsWith ∨ op = .endsWith) :
      answerOf (some (titleClause rt (op.likePattern (titleToken rt value)))) row =
        some (op.holds row.title (titleToken rt value) ^^
          op.matchesOnly row.title (titleToken rt value)) := by
    simp [← likeText_eq_xor hop, answerOf, titleClause, hrt.ilike_eq]
  rw [FilterClause.misreading, FilterClause.meaning, titleExpression, ← titleToken]
  by_cases htoken : titleToken rt value = ""
  · simp [htoken, answerOf]
  · simp only [htoken, if_false, FilterClause.isDropped]
    cases op with
    | equals => simp [TextComparison.text, TextComparison.holds, answerOf, FilterClause.turned]
    | notEquals => simp [TextComparison.text, TextComparison.holds, answerOf, FilterClause.turned]
    | contains =>
      simp [TextComparison.text, FilterClause.turned,
        ← hlike (Or.inl rfl : TextComparison.contains = .contains ∨ _), TextComparison.likePattern]
    | startsWith =>
      simp [TextComparison.text, FilterClause.turned, TextComparison.likePattern,
        ← hlike (Or.inr (Or.inl rfl) : TextComparison.startsWith = .contains ∨ _)]
    | endsWith =>
      simp [TextComparison.text, FilterClause.turned, TextComparison.likePattern,
        ← hlike (Or.inr (Or.inr rfl) : TextComparison.endsWith = .contains ∨ _)]
    | doesNotContain =>
      -- the code looks for the text, and says so when it is there
      have hfound := hlike (Or.inl rfl : TextComparison.contains = .contains ∨ _)
      simp only [TextComparison.likePattern, TextComparison.holds] at hfound
      simp [TextComparison.text, hfound, TextComparison.holds, FilterClause.turned]

theorem strip_field (clause : FilterClause) : PythonText.strip clause.field = clause.field := by
  cases clause with
  | size => exact (by decide : PythonText.strip "media.size" = "media.size")
  | lastWatchedDays =>
    exact (by decide : PythonText.strip "media.last_watched_days" = "media.last_watched_days")
  | title => exact (by decide : PythonText.strip "media.title" = "media.title")

/-- Without days that overflow, an expression is built, and read as the code does. -/
theorem decisionClauseExpression_reads (hrt : rt.Documented) {clause : FilterClause}
    (hdays : ¬clause.Overflows rt now) :
    ∃ expression, decisionClauseExpression rt db now mediaType clause.field clause.operator
        clause.value = .ok expression ∧
      ∀ row, answerOf expression row = clause.misreading rt now row := by
  rw [decisionClauseExpression, strip_lower_operator hrt.toLawful, strip_field]
  cases clause with
  | size op value =>
    refine ⟨(rt.int value).bind (sizeExpression op.text), ?_, fun row => ?_⟩
    · simp only [FilterClause.field, FilterClause.operator, FilterClause.value]
    cases hint : rt.int value with
    | none =>
      simp [answerOf, hint, FilterClause.misreading, FilterClause.meaning, FilterClause.isDropped]
    | some n =>
      refine (answerOf_sizeExpression op n row).trans ?_
      simp [hint, FilterClause.misreading, FilterClause.meaning, FilterClause.isDropped,
        FilterClause.turned]
  | lastWatchedDays op value =>
    cases hint : rt.int value with
    | none =>
      refine ⟨none, by simp [FilterClause.field, FilterClause.value, hint], fun row => ?_⟩
      simp [answerOf, hint, FilterClause.misreading, FilterClause.meaning]
    | some days =>
      obtain ⟨cutoff, hcutoff⟩ := Option.ne_none_iff_exists'.mp fun h => hdays ⟨days, hint, h⟩
      obtain rfl := hrt.daysBefore_eq _ _ _ hcutoff
      refine ⟨lastWatchedExpression op.text (now - days * 86400), ?_, fun row => ?_⟩
      · simp [FilterClause.field, FilterClause.operator, FilterClause.value, hint, hcutoff]
      · by_cases hop : op = .equals ∨ op = .notEquals
        · rcases hop with rfl | rfl <;>
            simp [lastWatchedExpression, Comparison.text, answerOf, FilterClause.misreading,
              FilterClause.isDropped]
        · have hstrict : (op = .greaterThan || op = .lessThan) = true := by
            cases op <;> simp at hop ⊢
          rw [answerOf_lastWatchedExpression op days row hop]
          simp_all [FilterClause.misreading, FilterClause.isDropped, FilterClause.meaning,
            FilterClause.turned]
  | title op value =>
    refine ⟨titleExpression rt op.text value, ?_, answerOf_titleExpression hrt op value⟩
    simp only [FilterClause.field, FilterClause.operator, FilterClause.value]

theorem decisionClauseExpression_overflows (hrt : rt.Lawful) {clause : FilterClause}
    (hdays : clause.Overflows rt now) :
    decisionClauseExpression rt db now mediaType clause.field clause.operator clause.value =
      .error .overflowError := by
  rw [decisionClauseExpression, strip_lower_operator hrt, strip_field]
  cases clause with
  | lastWatchedDays op value =>
    obtain ⟨days, hint, hover⟩ := hdays
    simp [FilterClause.field, FilterClause.value, hint, hover]
  | size | title => exact hdays.elim

end Clauses

/-! ## Trees -/

section Trees

variable (rt : QueryRuntime) (db : Tables) (now : Nat) (mediaType : MediaType)

namespace FilterTree

/-- The expression that is built for a node. -/
def expression : FilterTree → Except QueryError (Option MediaClause)
  | condition clause =>
    decisionClauseExpression rt db now mediaType clause.field clause.operator clause.value
  | group combinator nodes =>
    definitionExpression rt db now mediaType (group combinator nodes).dump

mutual

/-- The node that the code makes of a tree. -/
def node : FilterTree → FilterNode
  | condition clause =>
    .condition (.str clause.field) (.str clause.operator) clause.value
  | group combinator nodes => .group combinator.text (nodesOf nodes)

def nodesOf : List FilterTree → List FilterNode
  | [] => []
  | tree :: trees => tree.node :: nodesOf trees

end

variable {rt db now mediaType} {row : MediaRow}

theorem strOr_str (hrt : rt.Lawful) {s : String} (hs : s ≠ "") (default : String) :
    rt.strOr (.str s) default = s := by
  rw [QueryRuntime.strOr, if_pos (by simpa [PyValue.truthy] using hs), hrt.str_str]

theorem combinatorOf_dump (hrt : rt.Lawful) (combinator : Combinator) (nodes : List FilterTree) :
    combinatorOf rt (group combinator nodes).dump = combinator.text := by
  have hentry : entryOf (group combinator nodes).dump "combinator" = .str combinator.text := by
    simp [dump, entryOf]
  rw [combinatorOf, hentry]
  cases combinator with
  | and =>
    rw [Combinator.text, strOr_str hrt (by decide), hrt.lower_ascii _ (by decide)]
    decide
  | or =>
    rw [Combinator.text, strOr_str hrt (by decide), hrt.lower_ascii _ (by decide)]
    decide

mutual

/-- A dumped tree is normalised to its node. -/
theorem normalizeNode_dump (hrt : rt.Lawful) :
    ∀ tree : FilterTree, normalizeNode rt (.dict tree.dump) = some tree.node
  | condition clause => by
    have hlower : rt.lower (rt.strOr (.str "condition") "condition") ≠ "group" := by
      rw [strOr_str hrt (by decide), hrt.lower_ascii _ (by decide)]
      decide
    have htype : entryOf (condition clause).dump "type" = .str "condition" := by
      simp [dump, entryOf]
    rw [normalizeNode, htype, if_neg hlower]
    simp [dump, entryOf, node]
  | group combinator nodes => by
    have hlower : rt.lower (rt.strOr (.str "group") "condition") = "group" := by
      rw [strOr_str hrt (by decide), hrt.lower_ascii _ (by decide)]
      decide
    have htype : entryOf (group combinator nodes).dump "type" = .str "group" := by
      simp [dump, entryOf]
    rw [normalizeNode, htype, if_pos hlower, combinatorOf_dump hrt]
    simp [dump, nodeLists, chosenNodes, normalizeNodes_dumps hrt nodes, node]

theorem normalizeNodes_dumps (hrt : rt.Lawful) :
    ∀ trees : List FilterTree, normalizeNodes rt (dumps trees) = nodesOf trees
  | [] => rfl
  | tree :: trees => by
    rw [dumps, normalizeNodes, normalizeNode_dump hrt tree, normalizeNodes_dumps hrt trees, nodesOf]
    rfl

end

theorem expression_eq (hrt : rt.Lawful) (tree : FilterTree) :
    tree.expression rt db now mediaType = nodeExpression rt db now mediaType tree.node := by
  cases tree with
  | condition clause =>
    have hfield : clause.field ≠ "" := by cases clause <;> simp [FilterClause.field]
    have hoperator : clause.operator ≠ "" := by
      rcases clause with ⟨op, _⟩ | ⟨op, _⟩ | ⟨op, _⟩ <;>
        cases op <;> simp [FilterClause.operator, Comparison.text, TextComparison.text]
    rw [expression, node, nodeExpression, strOr_str hrt hfield, strOr_str hrt hoperator]
  | group combinator nodes =>
    rw [expression, definitionExpression, combinatorOf_dump hrt, node, nodeExpression]
    congr 1
    simp [normalizeDefinitionNodes, dump, nodeLists, chosenNodes, normalizeNodes_dumps hrt nodes]

theorem answerOf_combine (combinator : Combinator) (expressions : List MediaClause) :
    answerOf (combine combinator.text expressions) row =
      combinator.combine (expressions.map fun clause => decide (clause row = some true)) := by
  cases expressions with
  | nil => cases combinator <;> rfl
  | cons clause clauses =>
    cases combinator with
    | and =>
      refine congrArg some (Bool.eq_iff_iff.mpr ?_)
      simp [ThreeValued.conj_eq_true_iff]
    | or =>
      refine congrArg some (Bool.eq_iff_iff.mpr ?_)
      simp [ThreeValued.disj_eq_true_iff, @eq_comm _ (some true)]

mutual

/-- Without days that overflow, the expression of a node is read as the code reads its clauses. -/
theorem nodeExpression_reads (hrt : rt.Documented) : ∀ tree : FilterTree,
    (∀ clause ∈ tree.clauses, ¬clause.Overflows rt now) →
      ∃ expression, nodeExpression rt db now mediaType tree.node = .ok expression ∧
        ∀ row, answerOf expression row = tree.eval (·.misreading rt now row)
  | condition clause => fun hdays => by
    rw [← expression_eq hrt.toLawful]
    exact decisionClauseExpression_reads hrt (hdays clause List.mem_cons_self)
  | group combinator nodes => fun hdays => by
    obtain ⟨expressions, hbuilt, hreads⟩ := nodeExpressions_reads hrt nodes hdays
    refine ⟨combine combinator.text expressions, by rw [node, nodeExpression, hbuilt]; rfl,
      fun row => ?_⟩
    rw [answerOf_combine, hreads, eval]

theorem nodeExpressions_reads (hrt : rt.Documented) : ∀ trees : List FilterTree,
    (∀ clause ∈ clausesOf trees, ¬clause.Overflows rt now) →
      ∃ expressions, nodeExpressions rt db now mediaType (nodesOf trees) = .ok expressions ∧
        ∀ row, expressions.map (fun clause => decide (clause row = some true)) =
          evals (·.misreading rt now row) trees
  | [] => fun _ => ⟨[], rfl, fun _ => rfl⟩
  | tree :: trees => fun hdays => by
    obtain ⟨hfirst, hrest⟩ := List.forall_mem_append.mp hdays
    obtain ⟨expression, hexpression, hreads⟩ := nodeExpression_reads hrt tree hfirst
    obtain ⟨expressions, hexpressions, hreadAll⟩ := nodeExpressions_reads hrt trees hrest
    refine ⟨expression.toList ++ expressions, ?_, fun row => ?_⟩
    · rw [nodesOf, nodeExpressions, hexpression, hexpressions]
      rfl
    · rw [List.map_append, hreadAll, evals, ← hreads]
      cases expression <;> rfl

end

mutual

/-- Days that overflow stop the whole definition. -/
theorem nodeExpression_overflows (hrt : rt.Documented) : ∀ tree : FilterTree,
    (∃ clause ∈ tree.clauses, clause.Overflows rt now) →
      nodeExpression rt db now mediaType tree.node = .error .overflowError
  | condition clause => fun hdays => by
    obtain ⟨_, hmem, hdays⟩ := hdays
    obtain rfl := List.mem_singleton.mp hmem
    rw [← expression_eq hrt.toLawful]
    exact decisionClauseExpression_overflows hrt.toLawful hdays
  | group combinator nodes => fun hdays => by
    rw [node, nodeExpression, nodeExpressions_overflows hrt nodes hdays]
    rfl

theorem nodeExpressions_overflows (hrt : rt.Documented) : ∀ trees : List FilterTree,
    (∃ clause ∈ clausesOf trees, clause.Overflows rt now) →
      nodeExpressions rt db now mediaType (nodesOf trees) = .error .overflowError
  | [] => fun hdays => by
    obtain ⟨_, hmem, -⟩ := hdays
    exact absurd hmem List.not_mem_nil
  | tree :: trees => fun hdays => by
    rw [nodesOf, nodeExpressions]
    by_cases hfirst : ∃ clause ∈ tree.clauses, clause.Overflows rt now
    · rw [nodeExpression_overflows hrt tree hfirst]
      rfl
    · have hrest : ∃ clause ∈ clausesOf trees, clause.Overflows rt now := by
        obtain ⟨clause, hmem, hover⟩ := hdays
        refine ⟨clause, (List.mem_append.mp hmem).resolve_left fun h => ?_, hover⟩
        exact hfirst ⟨clause, h, hover⟩
      have hbuilt : ∃ expression, nodeExpression rt db now mediaType tree.node = .ok expression ∧
          ∀ row, answerOf expression row = tree.eval (·.misreading rt now row) :=
        nodeExpression_reads hrt tree fun clause h hover => hfirst ⟨clause, h, hover⟩
      obtain ⟨expression, hexpression, -⟩ := hbuilt
      rw [hexpression, nodeExpressions_overflows hrt trees hrest]
      rfl

end

end FilterTree

end Trees

/-! ## Agreement -/

namespace FilterTree

mutual

/-- Induction over the groups of a tree. -/
theorem nested_induction {P : FilterTree → Prop} (condition : ∀ clause, P (.condition clause))
    (group : ∀ combinator nodes, (∀ tree ∈ nodes, P tree) → P (.group combinator nodes)) :
    ∀ tree, P tree
  | .condition clause => condition clause
  | .group combinator nodes =>
    group combinator nodes (nested_induction_nodes condition group nodes)

theorem nested_induction_nodes {P : FilterTree → Prop}
    (condition : ∀ clause, P (.condition clause))
    (group : ∀ combinator nodes, (∀ tree ∈ nodes, P tree) → P (.group combinator nodes)) :
    ∀ nodes : List FilterTree, ∀ tree ∈ nodes, P tree
  | [] => fun _ h => absurd h List.not_mem_nil
  | tree :: trees => List.forall_mem_cons.mpr
    ⟨nested_induction condition group tree, nested_induction_nodes condition group trees⟩

end

theorem clausesOf_eq (trees : List FilterTree) : clausesOf trees = trees.flatMap clauses := by
  induction trees with
  | nil => rfl
  | cons tree trees ih => rw [clausesOf, ih, List.flatMap_cons]

theorem subtreesOf_eq (trees : List FilterTree) : subtreesOf trees = trees.flatMap subtrees := by
  induction trees with
  | nil => rfl
  | cons tree trees ih => rw [subtreesOf, ih, List.flatMap_cons]

theorem evals_eq (reading : FilterClause → Option Bool) (trees : List FilterTree) :
    evals reading trees = trees.flatMap fun tree => (tree.eval reading).toList := by
  induction trees with
  | nil => rfl
  | cons tree trees ih => rw [evals, ih, List.flatMap_cons]

/-- Trees whose clauses are read alike have the same formula. -/
theorem eval_congr {reading reading' : FilterClause → Option Bool} {tree : FilterTree}
    (h : ∀ clause ∈ tree.clauses, reading clause = reading' clause) :
    tree.eval reading = tree.eval reading' := by
  induction tree using nested_induction with
  | condition clause => exact h clause List.mem_cons_self
  | group combinator nodes ih =>
    rw [clauses, clausesOf_eq] at h
    rw [eval, eval, evals_eq, evals_eq]
    refine congrArg combinator.combine (List.flatMap_congr fun tree htree => ?_)
    rw [ih tree htree fun clause hclause => h clause (List.mem_flatMap.mpr ⟨tree, htree, hclause⟩)]

theorem condition_mem_subtrees {clause : FilterClause} {tree : FilterTree}
    (h : clause ∈ tree.clauses) : condition clause ∈ tree.subtrees := by
  induction tree using nested_induction with
  | condition clause' =>
    obtain rfl := List.mem_singleton.mp h
    exact List.mem_singleton_self _
  | group combinator nodes ih =>
    rw [clauses, clausesOf_eq] at h
    obtain ⟨tree, htree, hclause⟩ := List.mem_flatMap.mp h
    rw [subtrees, subtreesOf_eq]
    exact List.mem_cons_of_mem _ (List.mem_flatMap.mpr ⟨tree, htree, ih tree htree hclause⟩)

theorem clauses_subset {subtree tree : FilterTree} (h : subtree ∈ tree.subtrees) :
    subtree.clauses ⊆ tree.clauses := by
  induction tree using nested_induction with
  | condition clause =>
    obtain rfl := List.mem_singleton.mp h
    exact List.Subset.refl _
  | group combinator nodes ih =>
    rw [subtrees, subtreesOf_eq] at h
    rcases List.mem_cons.mp h with rfl | h
    · exact List.Subset.refl _
    · obtain ⟨tree, htree, hsubtree⟩ := List.mem_flatMap.mp h
      rw [clauses, clausesOf_eq]
      intro clause hclause
      exact List.mem_flatMap.mpr ⟨tree, htree, ih tree htree hsubtree hclause⟩

section Agreement

variable (rt : QueryRuntime) (db : Tables) (now : Nat) (mediaType : MediaType) (row : MediaRow)

/-- The expression built for a node selects the row exactly when the formula is true of it; what
says nothing selects every row. -/
def SelectsAsDefined (tree : FilterTree) : Prop :=
  ∃ expression, tree.expression rt db now mediaType = .ok expression ∧
    ((answerOf expression row).getD true = true ↔
      (tree.eval (·.meaning rt now row)).getD true = true)

/-- The expression built for a node says of the row what the node says. -/
def ReadsAsDefined (tree : FilterTree) : Prop :=
  ∃ expression, tree.expression rt db now mediaType = .ok expression ∧
    answerOf expression row = tree.eval (·.meaning rt now row)

variable {rt now row}

theorem misreading_eq_meaning_iff {clause : FilterClause} (hdays : ¬clause.Overflows rt now) :
    clause.misreading rt now row = clause.meaning rt now row ↔ ¬clause.Misread rt now row := by
  rw [FilterClause.misreading, FilterClause.Misread]
  cases hmeaning : clause.meaning rt now row with
  | none => simp [hdays]
  | some answer =>
    cases clause.isDropped <;> cases clause.turned rt now row <;> simp [hdays]

variable {db mediaType}

/-- An expression is built unless days overflow, and it is read as the code reads the clauses. -/
theorem expression_eq_ok_iff (hrt : rt.Documented) (tree : FilterTree) :
    (∃ expression, tree.expression rt db now mediaType = .ok expression) ↔
      ∀ clause ∈ tree.clauses, ¬clause.Overflows rt now := by
  rw [expression_eq hrt.toLawful]
  constructor
  · rintro ⟨expression, hbuilt⟩ clause hclause hdays
    rw [nodeExpression_overflows hrt tree ⟨clause, hclause, hdays⟩] at hbuilt
    cases hbuilt
  · intro hdays
    obtain ⟨expression, hbuilt, -⟩ := nodeExpression_reads hrt tree hdays
    exact ⟨expression, hbuilt⟩

theorem answerOf_expression (hrt : rt.Documented) {tree : FilterTree}
    {expression : Option MediaClause}
    (h : tree.expression rt db now mediaType = .ok expression) :
    answerOf expression row = tree.eval (·.misreading rt now row) := by
  have hdays := (expression_eq_ok_iff hrt tree).mp ⟨expression, h⟩
  rw [expression_eq hrt.toLawful] at h
  obtain ⟨expression', hbuilt, hreads⟩ := nodeExpression_reads hrt tree hdays
  obtain rfl := Except.ok.inj (h.symm.trans hbuilt)
  exact hreads row

/-- A filter selects a row as its definition says exactly when no days overflow and the formula
keeps its value on the row although the code turns clauses around and drops some. The expression of
every node says what the node says exactly when no clause says something else than the code makes
of it. -/
theorem selectsAsDefined_iff (hrt : rt.Documented) (tree : FilterTree) :
    (SelectsAsDefined rt db now mediaType row tree ↔
      (∀ clause ∈ tree.clauses, ¬clause.Overflows rt now) ∧
        ((tree.eval (·.misreading rt now row)).getD true = true ↔
          (tree.eval (·.meaning rt now row)).getD true = true)) ∧
    ((∀ subtree ∈ tree.subtrees, ReadsAsDefined rt db now mediaType row subtree) ↔
      ∀ clause ∈ tree.clauses, ¬clause.Misread rt now row) := by
  constructor
  · have hbuilds : (∃ expression, tree.expression rt db now mediaType = .ok expression) ↔ _ :=
      expression_eq_ok_iff hrt tree
    rw [← hbuilds]
    constructor
    · rintro ⟨expression, hbuilt, hselects⟩
      rw [answerOf_expression hrt hbuilt] at hselects
      exact ⟨⟨expression, hbuilt⟩, hselects⟩
    · rintro ⟨⟨expression, hbuilt⟩, hsame⟩
      refine ⟨expression, hbuilt, ?_⟩
      rw [answerOf_expression hrt hbuilt]
      exact hsame
  · constructor
    · intro h clause hclause
      obtain ⟨expression, hbuilt, hreads⟩ := h _ (condition_mem_subtrees hclause)
      have hdays := (expression_eq_ok_iff hrt _).mp ⟨expression, hbuilt⟩ clause
        List.mem_cons_self
      rw [answerOf_expression hrt hbuilt] at hreads
      exact (misreading_eq_meaning_iff hdays).mp hreads
    · intro h subtree hsubtree
      have hread (clause : FilterClause) (hclause : clause ∈ subtree.clauses) :
          ¬clause.Misread rt now row := h clause (clauses_subset hsubtree hclause)
      have hdays (clause : FilterClause) (hclause : clause ∈ subtree.clauses) :
          ¬clause.Overflows rt now := fun hover => hread clause hclause (.inl hover)
      obtain ⟨expression, hbuilt⟩ := (expression_eq_ok_iff hrt subtree).mpr hdays
      refine ⟨expression, hbuilt, (answerOf_expression hrt hbuilt).trans (eval_congr ?_)⟩
      intro clause hclause
      exact (misreading_eq_meaning_iff (hdays clause hclause)).mpr (hread clause hclause)

end Agreement

end FilterTree

/-! ## A title that is not to contain a text -/

theorem asciiQueryRuntime_documented : asciiQueryRuntime.Documented where
  toLawful := asciiQueryRuntime_lawful
  ilike_eq := rfl
  daysBefore_eq _ _ _ h := (Option.some.inj h).symm

theorem selectsAsDefined_startsWith :
    FilterTree.SelectsAsDefined asciiQueryRuntime {} 0 .movie { id := 1, title := "Alien" }
      (.group .or [.condition (.title .startsWith (.str "ali"))]) :=
  (FilterTree.selectsAsDefined_iff asciiQueryRuntime_documented _).1.mpr
    ⟨fun _ hclause => by obtain rfl := List.mem_singleton.mp hclause; exact id, by decide⟩

/-- The filter selects a movie that contains the text. -/
theorem not_selectsAsDefined_doesNotContain :
    ¬FilterTree.SelectsAsDefined asciiQueryRuntime {} 0 .movie { id := 1, title := "Alien" }
      (.group .and [.condition (.title .doesNotContain (.str "alien"))]) := by
  rintro ⟨expression, hbuilt, hselects⟩
  rw [FilterTree.answerOf_expression asciiQueryRuntime_documented hbuilt] at hselects
  revert hselects
  decide

end MediaMasterr.Media
