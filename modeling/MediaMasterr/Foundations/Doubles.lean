import Mathlib.Algebra.Order.Field.Rat
import Mathlib.Data.Int.Log
import Mathlib.Data.Rat.Floor
import Mathlib.Tactic.Linarith
import Mathlib.Tactic.Positivity

/-! # Floating-point numbers

The rounding of positive rationals to numbers with 53 significant bits, to the
nearest one and at ties to the even one, without limits on the exponent. What is
used of it: no such number is nearer, so that rounding is monotone. -/

namespace MediaMasterr.Foundations.Doubles

/-- The nearest integer, the even one at ties. -/
def roundHalfEven (x : ℚ) : ℤ :=
  if x - ⌊x⌋ < 1 / 2 ∨ x - ⌊x⌋ = 1 / 2 ∧ ⌊x⌋ % 2 = 0 then ⌊x⌋ else ⌊x⌋ + 1

/-- The distance between the numbers around a positive rational. -/
def ulp (x : ℚ) : ℚ := 2 ^ (Int.log 2 x - 52)

/-- The result of an exact operation, as floating-point arithmetic gives it. -/
def round (x : ℚ) : ℚ := roundHalfEven (x / ulp x) * ulp x

/-- The numbers with 53 significant bits. -/
def IsDouble (x : ℚ) : Prop := ∃ m e : ℤ, |m| < 2 ^ 53 ∧ x = m * 2 ^ e

/-! ## The nearest integer -/

theorem abs_sub_roundHalfEven_le (x : ℚ) (z : ℤ) : |x - roundHalfEven x| ≤ |x - z| := by
  have hle : (⌊x⌋ : ℚ) ≤ x := Int.floor_le x
  have hlt : x < ⌊x⌋ + 1 := Int.lt_floor_add_one x
  -- an integer is not strictly between the floor and its successor
  have hz : (z : ℚ) ≤ ⌊x⌋ ∨ (⌊x⌋ : ℚ) + 1 ≤ z := by
    obtain h | h := le_or_gt z ⌊x⌋
    · exact .inl (Int.cast_le.mpr h)
    · exact .inr (by exact_mod_cast h)
  rw [roundHalfEven]
  split_ifs with hround
  · have hhalf : x - ⌊x⌋ ≤ 1 / 2 := by
      obtain h | ⟨h, -⟩ := hround
      · exact h.le
      · exact h.le
    rw [abs_of_nonneg (by linarith)]
    obtain h | h := hz
    · rw [abs_of_nonneg (by linarith)]
      linarith
    · rw [abs_of_nonpos (by linarith)]
      linarith
  · have hhalf : 1 / 2 ≤ x - ⌊x⌋ := not_lt.mp fun h => hround (.inl h)
    rw [Int.cast_add, Int.cast_one, abs_of_nonpos (by linarith)]
    obtain h | h := hz
    · rw [abs_of_nonneg (by linarith)]
      linarith
    · rw [abs_of_nonpos (by linarith)]
      linarith

/-! ## The nearest number -/

theorem ulp_pos (x : ℚ) : 0 < ulp x := zpow_pos two_pos _

section

variable {x y f : ℚ}

/-- The significand of a positive rational has 53 bits before the point. -/
theorem significand_bounds (hx : 0 < x) : (2 : ℚ) ^ 52 ≤ x / ulp x ∧ x / ulp x < 2 ^ 53 := by
  have hscale : ∀ n : ℕ, (2 : ℚ) ^ n * ulp x = 2 ^ (Int.log 2 x + (n - 52)) := fun n => by
    rw [ulp, ← zpow_natCast, ← zpow_add₀ two_ne_zero]
    congr 1
    ring
  rw [le_div_iff₀ (ulp_pos x), div_lt_iff₀ (ulp_pos x), hscale, hscale]
  constructor
  · have h := Int.zpow_log_le_self (b := 2) one_lt_two hx
    simpa using h
  · have h := Int.lt_zpow_succ_log_self (b := 2) one_lt_two x
    norm_num at h ⊢
    exact h

/-- No number with 53 significant bits is nearer than the rounded one. -/
theorem abs_sub_round_le (hx : 0 < x) (hf : IsDouble f) : |x - round x| ≤ |x - f| := by
  have hulp := ulp_pos x
  obtain ⟨hlow, -⟩ := significand_bounds hx
  have hscale : ∀ y : ℚ, |x - y * ulp x| = |x / ulp x - y| * ulp x := fun y => by
    rw [← abs_of_pos hulp, ← abs_mul, abs_of_pos hulp, sub_mul, div_mul_cancel₀ _ hulp.ne']
  have hnear : |x / ulp x - roundHalfEven (x / ulp x)| ≤ |x / ulp x - f / ulp x| := by
    obtain ⟨m, e, hm, rfl⟩ := hf
    obtain he | he := le_or_gt (Int.log 2 x - 52) e
    · -- the number is a multiple of the unit
      obtain ⟨n, hn⟩ := Int.eq_ofNat_of_zero_le (sub_nonneg.mpr he)
      have hmultiple : (m : ℚ) * 2 ^ e / ulp x = ((m * 2 ^ n : ℤ) : ℚ) := by
        rw [ulp, mul_div_assoc, ← zpow_sub₀ two_ne_zero, hn]
        push_cast
        rw [zpow_natCast]
      rw [hmultiple]
      exact abs_sub_roundHalfEven_le _ _
    · -- it lies below the power of two at or below `x`, which is a multiple
      have hsmall : (m : ℚ) * 2 ^ e / ulp x ≤ 2 ^ 52 := by
        have hm' : (m : ℚ) ≤ 2 ^ 53 := by
          have h := (le_abs_self m).trans hm.le
          exact_mod_cast h
        have he' : (2 : ℚ) ^ e / ulp x ≤ 2 ^ (-1 : ℤ) := by
          rw [ulp, ← zpow_sub₀ two_ne_zero]
          exact zpow_le_zpow_right₀ one_le_two (by omega)
        have hpos : 0 ≤ (2 : ℚ) ^ e / ulp x := div_nonneg (zpow_nonneg two_pos.le _) hulp.le
        rw [mul_div_assoc]
        calc (m : ℚ) * (2 ^ e / ulp x) ≤ 2 ^ 53 * (2 ^ e / ulp x) :=
          mul_le_mul_of_nonneg_right hm' hpos
          _ ≤ 2 ^ 53 * 2 ^ (-1 : ℤ) := mul_le_mul_of_nonneg_left he' (by positivity)
          _ = 2 ^ 52 := by norm_num
      have hpower := abs_sub_roundHalfEven_le (x / ulp x) (2 ^ 52)
      push_cast at hpower
      refine hpower.trans ?_
      rw [abs_of_nonneg (by linarith), abs_of_nonneg (by linarith)]
      linarith
  calc |x - round x| = |x / ulp x - roundHalfEven (x / ulp x)| * ulp x := hscale _
    _ ≤ |x / ulp x - f / ulp x| * ulp x := mul_le_mul_of_nonneg_right hnear hulp.le
    _ = |x - f| := by rw [← hscale, div_mul_cancel₀ f hulp.ne']

theorem round_of_isDouble (hx : 0 < x) (h : IsDouble x) : round x = x := by
  have hzero := abs_sub_round_le hx h
  rw [sub_self, abs_zero] at hzero
  linarith [abs_nonpos_iff.mp hzero]

theorem isDouble_natCast {n : ℕ} (h : n < 2 ^ 53) : IsDouble n :=
  ⟨n, 0, by rw [Nat.abs_cast]; exact_mod_cast h, by simp⟩

/-- The rounded number has 53 significant bits. -/
theorem isDouble_round (hx : 0 < x) : IsDouble (round x) := by
  obtain ⟨hlow, hhigh⟩ := significand_bounds hx
  set m := roundHalfEven (x / ulp x) with hm
  have hfloor : 2 ^ 52 ≤ ⌊x / ulp x⌋ ∧ ⌊x / ulp x⌋ < 2 ^ 53 := by
    refine ⟨Int.le_floor.mpr (by exact_mod_cast hlow), Int.floor_lt.mpr (by exact_mod_cast hhigh)⟩
  have hbounds : 0 ≤ m ∧ m ≤ 2 ^ 53 := by
    rw [hm, roundHalfEven]
    split_ifs <;> omega
  obtain hlt | heq := hbounds.2.lt_or_eq
  · exact ⟨m, Int.log 2 x - 52, by rwa [abs_of_nonneg hbounds.1], rfl⟩
  · refine ⟨1, 53 + (Int.log 2 x - 52), by norm_num, ?_⟩
    rw [round, ← hm, heq, ulp, zpow_add₀ two_ne_zero]
    push_cast
    norm_num

theorem round_pos (hx : 0 < x) : 0 < round x := by
  have hpower : IsDouble (2 ^ Int.log 2 x) := ⟨1, Int.log 2 x, by norm_num, by simp⟩
  have hnear := abs_sub_round_le hx hpower
  have hle := Int.zpow_log_le_self (b := 2) one_lt_two hx
  have hpos : (0 : ℚ) < 2 ^ Int.log 2 x := zpow_pos two_pos _
  push_cast at hle
  rw [abs_of_nonneg (sub_nonneg.mpr hle)] at hnear
  linarith [le_abs_self (x - round x)]

theorem round_mono (hx : 0 < x) (h : x ≤ y) : round x ≤ round y := by
  by_contra hlt
  have hx' := abs_sub_round_le hx (isDouble_round (hx.trans_le h))
  have hy' := abs_sub_round_le (hx.trans_le h) (isDouble_round hx)
  obtain rfl | hne := h.eq_or_lt
  · exact hlt le_rfl
  · -- both lie on the wrong side of the middle of the rounded numbers
    have hgap := mul_pos (sub_pos.mpr (not_le.mp hlt)) (sub_pos.mpr hne)
    linarith [sq_le_sq.mpr hx', sq_le_sq.mpr hy']

end

end MediaMasterr.Foundations.Doubles
