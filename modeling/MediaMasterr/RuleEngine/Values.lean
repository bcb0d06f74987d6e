import Mathlib.Algebra.Ring.Nat
import MediaMasterr.Foundations.PythonText

/-! # Values seen by the rule engine

The Python values that rule definitions and evaluation contexts carry, the
interpreter and package functions the engine calls on them, and the engine's
own coercions (`_exists`, `_as_list`, `_number`, `_date_value`, …). A coercion
that can raise returns in `Except PyError`. -/

namespace MediaMasterr.RuleEngine

open MediaMasterr.Foundations

inductive PyError where
  | typeError
  | overflowError
  | attributeError
  | reError
  | runtimeError
  deriving DecidableEq, Repr

/-- An `int` whose decimal text the interpreter prints and `json.loads` reads
(both stop at 4300 digits). -/
abbrev PyInt := {n : Int // n.natAbs < 10 ^ 4300}

/-- A `datetime`: wall-clock microseconds since year 1, and the offset from UTC
in microseconds when it is aware. -/
structure PyDateTime where
  micros : Nat
  utcOffset : Option Int
  deriving DecidableEq

inductive PyValue where
  | none
  | bool (b : Bool)
  | int (n : PyInt)
  | float (x : Float)
  | str (s : String)
  | list (items : List PyValue)
  | dict (entries : List (String × PyValue))
  | datetime (t : PyDateTime)
  | date (ordinal : Nat)
  | unavailable

/-- The interpreter and package functions that the engine calls: `str`, `float`,
`isoformat` and its inverses, `re.compile(_, re.IGNORECASE).search` and
`Language.match(_, strict_case=False).part3`. A `none` is the documented failure
of the function (`OverflowError`, `ValueError` or `LanguageNotFoundError`). -/
structure PythonRuntime extends PythonText.CaseTables where
  str : PyValue → String
  isoformat : PyDateTime → String
  floatOfInt : PyInt → Option Float
  floatOfStr : String → Option Float
  dateFromIsoformat : String → Option Nat
  datetimeFromIsoformat : String → Option PyDateTime
  reCompile : String → Except PyError (String → Bool)
  languageMatch : String → Option String

namespace PyValue

/-- `value == s` for a `str` constant. -/
def isStr (value : PyValue) (s : String) : Bool :=
  match value with
  | .str t => t == s
  | _ => false

def isUnavailable : PyValue → Bool
  | .unavailable => true
  | _ => false

/-- `bool(value)`. -/
def truthy : PyValue → Bool
  | .none => false
  | .bool b => b
  | .int n => n.val != 0
  | .float x => !(x == 0.0)
  | .str s => s != ""
  | .list items => !items.isEmpty
  | .dict entries => !entries.isEmpty
  | .datetime _ | .date _ | .unavailable => true

/-- Whether `hash(value)` returns. -/
def hashable : PyValue → Bool
  | .list _ | .dict _ => false
  | _ => true

mutual

/-- `_exists`. -/
def «exists» : PyValue → Bool
  | .none => false
  | .str s => PythonText.strip s != ""
  | .list items => anyExists items
  | _ => true

def anyExists : List PyValue → Bool
  | [] => false
  | item :: items => item.exists || anyExists items

end

/-- `_as_list`. -/
def asList : PyValue → List PyValue
  | .none => []
  | .list items => items
  | value => [value]

/-- `_first_scalar`. -/
def firstScalar : PyValue → PyValue
  | .list [] => .none
  | .list (item :: _) => item
  | value => value

/-- `value is None`. -/
def isNone : PyValue → Bool
  | .none => true
  | _ => false

end PyValue

namespace PyDateTime

def microsPerDay : Nat := 86400 * 10 ^ 6

/-- The first microsecond after `datetime.max`. -/
def endOfTime : Nat := 3652059 * microsPerDay

/-- `t.date()`, as a proleptic Gregorian ordinal. -/
def date (t : PyDateTime) : Nat := t.micros / microsPerDay + 1

/-- The wall clock in UTC: a naive value is taken as UTC, `astimezone` raises outside
the supported years. -/
def toUtc (t : PyDateTime) : Except PyError PyDateTime :=
  match t.utcOffset with
  | none => .ok { t with utcOffset := some 0 }
  | some offset =>
    let utc := (t.micros : Int) - offset
    if 0 ≤ utc ∧ utc < endOfTime then .ok ⟨utc.toNat, some 0⟩ else .error .overflowError

end PyDateTime

namespace PythonRuntime

variable (py : PythonRuntime)

/-- `normalize_fpath`, on anything `str` accepts. -/
def normalizeFpath (path : PyValue) (stripEndingSlash lower : Bool) : String :=
  if !path.truthy then ""
  else
    let normalized := PythonText.strip (py.str path)
    if normalized = "" then ""
    else
      let slashed := PythonText.replaceChar '\\' '/' normalized
      let stripped := if stripEndingSlash then PythonText.rstrip '/' slashed else slashed
      if lower then py.lower stripped else stripped

/-- `_normalize`. -/
def normalize (value : PyValue) : String := py.lower (PythonText.strip (py.str value))

/-- `_number`: `float(value)`, where only `TypeError` and `ValueError` are caught. -/
def number : PyValue → Except PyError (Option Float)
  | .bool b => .ok (some (if b then 1.0 else 0.0))
  | .int n =>
    match py.floatOfInt n with
    | some x => .ok (some x)
    | none => .error .overflowError
  | .float x => .ok (some x)
  | .str s => .ok (py.floatOfStr s)
  | _ => .ok none

/-- `_date_value`. -/
def dateValue : PyValue → Except PyError (Option Nat)
  | .datetime t => t.toUtc.map fun utc => some utc.date
  | .date ordinal => .ok (some ordinal)
  | .str s =>
    let cleaned := PythonText.strip s
    if cleaned = "" then .ok none
    else
      match py.dateFromIsoformat cleaned with
      | some ordinal => .ok (some ordinal)
      | none =>
        .ok ((py.datetimeFromIsoformat (isoWithOffset cleaned)).map PyDateTime.date)
  | _ => .ok none
where
  /-- `cleaned.replace("Z", "+00:00")`. -/
  isoWithOffset (cleaned : String) : String :=
    String.ofList (cleaned.toList.flatMap fun c => if c = 'Z' then "+00:00".toList else [c])

def unknownLanguageValues : List String :=
  ["", "mis", "mul", "und", "undefined", "undetermined", "unknown"]

/-- `normalize_language`. The `lru_cache` around it hashes the argument first. -/
def normalizeLanguage (value : PyValue) : Except PyError (Option String) :=
  if !value.hashable then .error .typeError
  else
    let raw := PythonText.strip (if value.truthy then py.str value else "")
    let normalized := py.lower raw
    if normalized ∈ unknownLanguageValues then .ok none
    else
      let tagBase := PythonText.beforeFirst '-' (PythonText.replaceChar '_' '-' normalized)
      let candidates := if tagBase ≠ "" ∧ tagBase ≠ normalized then [raw, tagBase] else [raw]
      match candidates.findSome? py.languageMatch with
      | some part3 => .ok (some part3)
      | none => .ok (if normalized = "" then none else some normalized)

/-- `_normalized_language_values`. -/
def normalizedLanguageValues (value : PyValue) : Except PyError (List String) := do
  let codes ← value.asList.mapM py.normalizeLanguage
  return codes.reduceOption

/-- `_normalized_country_values`. -/
def normalizedCountryValues (value : PyValue) : List String :=
  (value.asList.map fun item =>
    py.upper (PythonText.strip (if item.truthy then py.str item else ""))).filter (· ≠ "")

end PythonRuntime

end MediaMasterr.RuleEngine
