import Mathlib
import Keypad.Binary64.Arithmetic

/-!
How far a binary value is from the rational number that it stands for. Below 2^30 neighbouring
values are at most 2^-23 apart, so a rounding there costs at most 2^-24; a sum or difference adds
one rounding to the errors of its operands.
-/

namespace Keypad.Binary64

def sign (negative : Bool) : ℚ := if negative then -1 else 1

theorem abs_sign_mul (negative : Bool) (number : ℚ) : |sign negative * number| = |number| := by
  cases negative with
  | true => rw [sign, if_pos rfl, neg_one_mul, abs_neg]
  | false => rw [sign, if_neg Bool.false_ne_true, one_mul]

theorem signed_eq_sign_mul (negative : Bool) (units : Nat) :
    (signed negative units : ℚ) = sign negative * units := by
  cases negative with
  | true => simp [signed, sign]
  | false => simp [signed, sign]

def rational? : Binary64 → Option ℚ
  | .finite negative units _ => some (signed negative units / unitsPerOne)
  | _ => none

theorem finite_of_rational {value : Binary64} {exact : ℚ} (found : value.rational? = some exact) :
    ∃ negative units representable, value = .finite negative units representable ∧
      exact = signed negative units / unitsPerOne := by
  cases value with
  | nan => contradiction
  | infinity negative => contradiction
  | finite negative units representable =>
      exact ⟨negative, units, representable, rfl, (Option.some.inj found).symm⟩

/-- The value is finite and no further than the error from the exact number. -/
def Near (value : Binary64) (exact error : ℚ) : Prop :=
  ∃ number, value.rational? = some number ∧ |number - exact| ≤ error

/-- The most that one rounding costs below 2^30. -/
def roundingError : ℚ := 1 / 2 ^ 24

/-- Neighbours below 2^30 are at most 2 to this power apart, in units. -/
def gapExponent : Nat := 1051

def gap : Nat := 2 ^ gapExponent

theorem gap_positive : 0 < gap := Nat.two_pow_pos gapExponent

theorem units_per_one_eq_gaps : unitsPerOne = gap * 2 ^ (23 : Nat) := by
  have exponents : unitExponent = gapExponent + 23 := rfl
  rw [unitsPerOne, gap, exponents, Nat.pow_add]

theorem spacing_le_gap (units : Nat) (small : units < 2 ^ (30 : Nat) * unitsPerOne) :
    spacing units ≤ gap := by
  apply Nat.pow_le_pow_right (by decide)
  by_cases zero : units = 0
  · subst zero
    exact Nat.zero_le _
  · rw [unitsPerOne, ← Nat.pow_add] at small
    have high := (Nat.log2_lt zero).mpr small
    simp only [unitExponent, gapExponent] at high ⊢
    omega

theorem gaps_lt_unit_limit : 2 ^ (31 : Nat) * unitsPerOne < unitLimit := by
  rw [unitsPerOne, unitLimit, ← Nat.pow_add]
  apply Nat.pow_lt_pow_right (by decide)
  simp only [unitExponent, limitExponent]
  omega

theorem quotient_error {units numerator denominator gap : ℚ} (positive : 0 < denominator)
    (gapPositive : 0 < gap)
    (upper : 2 * (units * denominator) ≤ 2 * numerator + denominator * gap)
    (lower : 2 * numerator ≤ 2 * (units * denominator) + denominator * gap) :
    |units / (gap * 2 ^ 23) - numerator / (denominator * (gap * 2 ^ 23))| ≤ roundingError := by
  have missed : |units * denominator - numerator| ≤ denominator * gap / 2 := by
    rw [abs_le]
    constructor <;> linarith
  have difference : units / (gap * 2 ^ 23) - numerator / (denominator * (gap * 2 ^ 23)) =
      (units * denominator - numerator) / (denominator * gap * 2 ^ 23) := by
    field_simp
  have scale : 0 < denominator * gap * 2 ^ 23 := by positivity
  rw [difference, abs_div, abs_of_pos scale, div_le_iff₀ scale, roundingError]
  linarith

variable (numerator denominator : Nat) (positive : 0 < denominator)

section Rounding

variable (small : numerator < denominator * (2 ^ (30 : Nat) * unitsPerOne))

include positive small

theorem round_units_within_gap :
    2 * (roundUnits numerator denominator * denominator) ≤ 2 * numerator + denominator * gap ∧
      2 * numerator ≤ 2 * (roundUnits numerator denominator * denominator) + denominator * gap := by
  have near := round_units_near numerator denominator positive
  have below : numerator / denominator < 2 ^ (30 : Nat) * unitsPerOne :=
    Nat.div_lt_of_lt_mul small
  have tight := Nat.mul_le_mul_left denominator (spacing_le_gap _ below)
  omega

theorem round_units_lt_limit : roundUnits numerator denominator < unitLimit := by
  obtain ⟨upper, -⟩ := round_units_within_gap numerator denominator positive small
  have gaps : gap ≤ unitsPerOne := by
    rw [units_per_one_eq_gaps]
    exact Nat.le_mul_of_pos_right gap (by decide)
  have scaled := Nat.mul_le_mul_left denominator gaps
  apply Nat.lt_trans _ gaps_lt_unit_limit
  apply Nat.lt_of_mul_lt_mul_right (a := denominator)
  have regrouped : 2 ^ (31 : Nat) * unitsPerOne * denominator =
      2 * (denominator * (2 ^ (30 : Nat) * unitsPerOne)) := by ring
  have more : denominator * unitsPerOne ≤ denominator * (2 ^ (30 : Nat) * unitsPerOne) :=
    Nat.mul_le_mul_left _ (Nat.le_mul_of_pos_left _ (by decide))
  omega

theorem near_of_quotient (negative : Bool) :
    Near (ofQuotient negative numerator denominator positive)
      (sign negative * (numerator / (denominator * unitsPerOne))) roundingError := by
  have bounded := round_units_lt_limit numerator denominator positive small
  have within := round_units_within_gap numerator denominator positive small
  rw [ofQuotient, dif_pos bounded]
  refine ⟨_, rfl, ?_⟩
  generalize roundUnits numerator denominator = units at within
  have units_per_one : (unitsPerOne : ℚ) = gap * 2 ^ 23 := by
    rw [units_per_one_eq_gaps]
    push_cast
    rfl
  have upper : 2 * ((units : ℚ) * denominator) ≤ 2 * numerator + denominator * gap := by
    exact_mod_cast within.1
  have lower : 2 * (numerator : ℚ) ≤ 2 * (units * denominator) + denominator * gap := by
    exact_mod_cast within.2
  have error := quotient_error (by exact_mod_cast positive) (by exact_mod_cast gap_positive)
    upper lower
  rw [signed_eq_sign_mul, units_per_one, mul_div_assoc, ← mul_sub, abs_sign_mul]
  exact error

end Rounding

/-! Sums and differences. -/

theorem near_neg {value : Binary64} {exact error : ℚ} (near : Near value exact error) :
    Near (-value) (-exact) error := by
  obtain ⟨number, found, close⟩ := near
  obtain ⟨negative, units, representable, rfl, rfl⟩ := finite_of_rational found
  refine ⟨-(signed negative units / unitsPerOne), ?_, ?_⟩
  · have flipped : (signed (!negative) units : ℚ) = -signed negative units := by
      cases negative with
      | true => simp [signed]
      | false => simp [signed]
    change some ((signed (!negative) units : ℚ) / unitsPerOne) = _
    rw [flipped, neg_div]
  · rwa [← neg_sub', abs_neg]

theorem sign_mul_nat_abs (total : Int) : sign (total < 0) * (total.natAbs : ℚ) = total := by
  rw [Nat.cast_natAbs, Int.cast_abs, sign]
  by_cases negative : total < 0
  · rw [if_pos (decide_eq_true negative), abs_of_neg (by exact_mod_cast negative)]
    ring
  · rw [if_neg (by simp [negative]), abs_of_nonneg (by exact_mod_cast not_lt.mp negative)]
    ring

theorem near_of_total (total : Int) (negativeZero : Bool)
    (small : |(total : ℚ) / unitsPerOne| < 2 ^ 30) :
    Near (if total = 0 then zero negativeZero
        else ofQuotient (total < 0) total.natAbs 1 Nat.one_pos)
      (total / unitsPerOne) roundingError := by
  by_cases cancelled : total = 0
  · rw [if_pos cancelled, cancelled, Int.cast_zero, zero_div]
    refine ⟨0, ?_, ?_⟩
    · change some ((signed negativeZero 0 : ℚ) / unitsPerOne) = _
      rw [signed_eq_sign_mul, Nat.cast_zero, mul_zero, zero_div]
    · norm_num [roundingError]
  · have positive : (0 : ℚ) < unitsPerOne := by exact_mod_cast units_per_one_positive
    have fits : total.natAbs < 1 * (2 ^ (30 : Nat) * unitsPerOne) := by
      rw [abs_div, abs_of_pos positive, div_lt_iff₀ positive] at small
      have casted : ((total.natAbs : Nat) : ℚ) < ((2 ^ (30 : Nat) * unitsPerOne : Nat) : ℚ) := by
        rw [Nat.cast_natAbs, Int.cast_abs]
        push_cast
        exact small
      rw [Nat.one_mul]
      exact_mod_cast casted
    have near := near_of_quotient total.natAbs 1 Nat.one_pos fits (decide (total < 0))
    rw [Nat.cast_one, one_mul, ← mul_div_assoc, sign_mul_nat_abs] at near
    rw [if_neg cancelled]
    exact near

theorem near_of_near {value : Binary64} {middle exact error further : ℚ}
    (near : Near value middle error) (close : |middle - exact| ≤ further) :
    Near value exact (further + error) := by
  obtain ⟨number, found, missed⟩ := near
  have triangle := abs_sub_le number middle exact
  exact ⟨number, found, by linarith⟩

/-- A sum is rounded once, so its error is that of both terms and of one rounding. -/
theorem near_add {left right : Binary64} {first second firstError secondError : ℚ}
    (nearLeft : Near left first firstError) (nearRight : Near right second secondError)
    (small : |first + second| + (firstError + secondError) < 2 ^ 30) :
    Near (left + right) (first + second) (firstError + secondError + roundingError) := by
  obtain ⟨leftNumber, foundLeft, closeLeft⟩ := nearLeft
  obtain ⟨rightNumber, foundRight, closeRight⟩ := nearRight
  have close : |leftNumber + rightNumber - (first + second)| ≤ firstError + secondError := by
    rw [add_sub_add_comm]
    exact (abs_add_le _ _).trans (add_le_add closeLeft closeRight)
  have bounded : |leftNumber + rightNumber| < 2 ^ 30 := by
    have triangle := abs_sub_abs_le_abs_sub (leftNumber + rightNumber) (first + second)
    linarith
  obtain ⟨leftNegative, leftUnits, leftRepresentable, rfl, exactLeft⟩ :=
    finite_of_rational foundLeft
  obtain ⟨rightNegative, rightUnits, rightRepresentable, rfl, exactRight⟩ :=
    finite_of_rational foundRight
  have exact : leftNumber + rightNumber =
      ((signed leftNegative leftUnits + signed rightNegative rightUnits : Int) : ℚ) /
        unitsPerOne := by
    rw [exactLeft, exactRight, ← add_div, Int.cast_add]
  rw [exact] at close bounded
  exact near_of_near (near_of_total _ (leftNegative && rightNegative) bounded) close

theorem near_sub {left right : Binary64} {first second firstError secondError : ℚ}
    (nearLeft : Near left first firstError) (nearRight : Near right second secondError)
    (small : |first - second| + (firstError + secondError) < 2 ^ 30) :
    Near (left - right) (first - second) (firstError + secondError + roundingError) := by
  rw [sub_eq_add_neg] at small ⊢
  exact near_add nearLeft (near_neg nearRight) small

end Keypad.Binary64
