import Mathlib.Order.Compare

/-! # The order of floating-point numbers

Two numbers that are both not NaN are comparable, and then exactly one of `x < y`
and `y ≤ x` holds; with a NaN neither does. -/

namespace MediaMasterr.Foundations.FloatOrder

open Float.Model

theorem compare_then_swap (e e' : Int) (m m' : Nat) :
    (compare e' e).then (compare m' m) = ((compare e e').then (compare m m')).swap := by
  rw [Ordering.swap_then, Int.compare_swap, Nat.compare_swap]

theorem unpacked_compare_swap (a b : UnpackedFloat) :
    b.compare a = (a.compare b).map Ordering.swap := by
  cases a with
  | notANumber => cases b <;> rfl
  | infinity s =>
    cases b with
    | infinity t => cases s <;> cases t <;> rfl
    | _ => cases s <;> rfl
  | zero s =>
    cases b with
    | infinity t => cases t <;> rfl
    | finite t => cases t <;> rfl
    | _ => rfl
  | finite s m e =>
    cases b with
    | infinity t => cases s <;> cases t <;> rfl
    | finite t m' e' =>
      cases s <;> cases t
      · exact congrArg some (congrArg Ordering.swap (compare_then_swap e e' m m'))
      · rfl
      · rfl
      · exact congrArg some (compare_then_swap e e' m m')
    | _ => cases s <;> rfl

theorem unpacked_compare_isNone (a b : UnpackedFloat) :
    (a.compare b).isNone = (a.isNaN || b.isNaN) := by
  cases a with
  | notANumber => cases b <;> rfl
  | infinity s =>
    cases b with
    | infinity t => rfl
    | _ => cases s <;> rfl
  | zero s =>
    cases b with
    | infinity t => cases t <;> rfl
    | finite t => cases t <;> rfl
    | _ => rfl
  | finite s m e =>
    cases b with
    | infinity t => cases s <;> cases t <;> rfl
    | finite t => cases s <;> cases t <;> rfl
    | _ => cases s <;> rfl

theorem unpacked_compare_eq_none_iff (a b : UnpackedFloat) :
    a.compare b = none ↔ a.isNaN = true ∨ b.isNaN = true := by
  rw [← Option.isNone_iff_eq_none, unpacked_compare_isNone, Bool.or_eq_true]

variable {x y : Float}

theorem lt_iff : x < y ↔ x.toModel.unpack.compare y.toModel.unpack = some .lt := by
  have h : x < y ↔ (x.toModel.unpack.compare y.toModel.unpack == some .lt) = true := by
    change decide (x.toModel < y.toModel) = true ↔ _
    rw [decide_eq_true_iff]
    exact Iff.rfl
  rw [h, beq_iff_eq]

theorem le_iff : x ≤ y ↔ (x.toModel.unpack.compare y.toModel.unpack).any (·.isLE) = true := by
  change decide (x.toModel ≤ y.toModel) = true ↔ _
  rw [decide_eq_true_iff]
  exact Iff.rfl

theorem not_le_of_lt (h : x < y) : ¬y ≤ x := by
  rw [le_iff, unpacked_compare_swap, lt_iff.mp h]
  decide

theorem lt_or_le (hx : x.isNaN = false) (hy : y.isNaN = false) : x < y ∨ y ≤ x := by
  rw [lt_iff, le_iff, unpacked_compare_swap x.toModel.unpack y.toModel.unpack]
  cases hcompare : x.toModel.unpack.compare y.toModel.unpack with
  | none =>
    obtain h | h := (unpacked_compare_eq_none_iff _ _).mp hcompare
    · exact absurd (h.symm.trans hx) Bool.noConfusion
    · exact absurd (h.symm.trans hy) Bool.noConfusion
  | some order => cases order <;> simp [Ordering.isLE]

theorem not_lt_of_isNaN (h : x.isNaN = true ∨ y.isNaN = true) : ¬x < y := by
  rw [lt_iff, (unpacked_compare_eq_none_iff _ _).mpr h]
  simp

theorem not_le_of_isNaN (h : x.isNaN = true ∨ y.isNaN = true) : ¬x ≤ y := by
  rw [le_iff, (unpacked_compare_eq_none_iff _ _).mpr h]
  simp

/-- Of two numbers that are not NaN, one is below the other one or not below it. -/
theorem lt_iff_not_le (hx : x.isNaN = false) (hy : y.isNaN = false) : x < y ↔ ¬y ≤ x := by
  constructor
  · exact not_le_of_lt
  · intro h
    exact (lt_or_le hx hy).resolve_right h

end MediaMasterr.Foundations.FloatOrder
