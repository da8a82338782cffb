import Keypad.Proofs.Decimal.Exactness

/-!
Whole numbers as binary values. Up to 2^53 the format has all of them, so an operation whose exact
result is such a number gives it without an error: there is nothing to round. The display then
writes the number without a point.
-/

namespace Keypad

def Decimal.ofInt (number : Int) : Decimal := ⟨number < 0, number.natAbs, 0⟩

namespace Binary64

/-- Up to this limit the format has all whole numbers. -/
def wholeLimit : Nat := 2 ^ (53 : Nat)

def IsWhole (value : Binary64) (number : Int) : Prop := value.rational? = some (number : ℚ)

theorem near_iff_whole (value : Binary64) (number : Int) :
    value.Near number 0 ↔ value.IsWhole number := by
  constructor
  · rintro ⟨found, isFound, close⟩
    have same := sub_eq_zero.mp (abs_nonpos_iff.mp close)
    rw [IsWhole, isFound, same]
  · intro whole
    exact ⟨number, whole, by rw [sub_self, abs_zero]⟩

theorem whole_finite_iff {negative : Bool} {units : Nat} (representable : Representable units)
    (number : Int) :
    (finite negative units representable).IsWhole number ↔
      signed negative units = number * unitsPerOne := by
  have nonzero : (unitsPerOne : ℚ) ≠ 0 := Nat.cast_ne_zero.mpr units_per_one_positive.ne'
  rw [IsWhole, rational?, Option.some.injEq, div_eq_iff nonzero]
  exact_mod_cast Iff.rfl

theorem finite_of_whole {value : Binary64} {number : Int} (whole : value.IsWhole number) :
    ∃ (negative : Bool) (units : Nat) (representable : Representable units),
      value = finite negative units representable ∧
        signed negative units = number * unitsPerOne := by
  cases value with
  | nan => contradiction
  | infinity negative => contradiction
  | finite negative units representable =>
      exact ⟨negative, units, representable, rfl, (whole_finite_iff representable number).mp whole⟩

theorem representable_whole {magnitude : Nat} (small : magnitude ≤ wholeLimit) :
    Representable (magnitude * unitsPerOne) := by
  constructor
  · apply Nat.lt_of_le_of_lt (Nat.mul_le_mul_right _ small)
    rw [wholeLimit, unitsPerOne, unitLimit, ← Nat.pow_add]
    exact Nat.pow_lt_pow_right (by decide) (by simp only [unitExponent, limitExponent]; omega)
  · exact spacing_dvd_significand magnitude unitExponent small

/-! Signs and magnitudes. -/

theorem signed_zero (negative : Bool) : signed negative 0 = 0 := by
  cases negative with
  | true => rfl
  | false => rfl

theorem signed_mul (leftNegative rightNegative : Bool) (left right : Nat) :
    signed (leftNegative ^^ rightNegative) (left * right) =
      signed leftNegative left * signed rightNegative right := by
  cases leftNegative with
  | true => cases rightNegative <;> simp [signed]
  | false => cases rightNegative <;> simp [signed]

theorem signed_scaled (negative : Bool) (magnitude factor : Nat) :
    signed negative (magnitude * factor) = signed negative magnitude * factor := by
  have product := signed_mul negative false magnitude factor
  rwa [Bool.xor_false] at product

theorem signed_nat_abs (total : Int) : signed (total < 0) total.natAbs = total := by
  by_cases negative : total < 0
  · rw [signed, if_pos (decide_eq_true negative)]
    omega
  · rw [signed, if_neg (by simp [negative])]
    omega

/-- A quotient that is a whole number of the format is not rounded. -/
theorem whole_of_quotient {negative : Bool} {numerator denominator : Nat} {number : Int}
    (positive : 0 < denominator) (small : number.natAbs ≤ wholeLimit)
    (exact : signed negative numerator = number * unitsPerOne * denominator) :
    (ofQuotient negative numerator denominator positive).IsWhole number := by
  have representable := representable_whole small
  have magnitude : numerator = number.natAbs * unitsPerOne * denominator := by
    have absolute := congrArg Int.natAbs exact
    rwa [nat_abs_signed, Int.natAbs_mul, Int.natAbs_mul, Int.natAbs_natCast,
      Int.natAbs_natCast] at absolute
  have unrounded : ofQuotient negative numerator denominator positive =
      finite negative (number.natAbs * unitsPerOne) representable := by
    simp only [ofQuotient, magnitude, round_units_of_representable _ _ positive representable,
      dif_pos representable.1]
  have nonzero : (denominator : Int) ≠ 0 := by omega
  rw [magnitude, signed_scaled] at exact
  rw [unrounded, whole_finite_iff]
  exact mul_right_cancel₀ nonzero exact

theorem whole_zero (negative : Bool) : (zero negative).IsWhole 0 := by
  rw [zero, whole_finite_iff, signed_zero, Int.zero_mul]

theorem units_per_one_ne_zero : (unitsPerOne : Int) ≠ 0 := by
  exact_mod_cast units_per_one_positive.ne'

theorem is_zero_iff_of_whole {value : Binary64} {number : Int} (whole : value.IsWhole number) :
    value.isZero = true ↔ number = 0 := by
  rcases finite_of_whole whole with ⟨negative, units, representable, rfl, exact⟩
  have magnitude := nat_abs_signed negative units
  rw [exact] at magnitude
  rw [isZero, beq_iff_eq, ← magnitude, Int.natAbs_eq_zero, mul_eq_zero]
  exact or_iff_left units_per_one_ne_zero

/-! The four operations. -/

variable {left right : Binary64} {first second : Int}

theorem whole_neg (whole : right.IsWhole second) : (-right).IsWhole (-second) := by
  have near := near_neg ((near_iff_whole right second).mpr whole)
  rw [← Int.cast_neg] at near
  exact (near_iff_whole _ _).mp near

theorem whole_add (wholeLeft : left.IsWhole first) (wholeRight : right.IsWhole second)
    (small : (first + second).natAbs ≤ wholeLimit) : (left + right).IsWhole (first + second) := by
  rcases finite_of_whole wholeLeft with ⟨leftNegative, leftUnits, _, rfl, leftExact⟩
  rcases finite_of_whole wholeRight with ⟨rightNegative, rightUnits, _, rfl, rightExact⟩
  have exact : signed leftNegative leftUnits + signed rightNegative rightUnits =
      (first + second) * unitsPerOne := by
    rw [leftExact, rightExact, Int.add_mul]
  change (add (finite ..) (finite ..)).IsWhole (first + second)
  rw [add]
  split
  · rename_i cancelled
    rw [cancelled] at exact
    rw [(mul_eq_zero.mp exact.symm).resolve_right units_per_one_ne_zero]
    exact whole_zero _
  · apply whole_of_quotient Nat.one_pos small
    rw [signed_nat_abs, exact, Nat.cast_one, Int.mul_one]

theorem whole_sub (wholeLeft : left.IsWhole first) (wholeRight : right.IsWhole second)
    (small : (first - second).natAbs ≤ wholeLimit) : (left - right).IsWhole (first - second) := by
  rw [Int.sub_eq_add_neg] at small ⊢
  exact whole_add wholeLeft (whole_neg wholeRight) small

theorem whole_mul (wholeLeft : left.IsWhole first) (wholeRight : right.IsWhole second)
    (small : (first * second).natAbs ≤ wholeLimit) : (left * right).IsWhole (first * second) := by
  rcases finite_of_whole wholeLeft with ⟨leftNegative, leftUnits, _, rfl, leftExact⟩
  rcases finite_of_whole wholeRight with ⟨rightNegative, rightUnits, _, rfl, rightExact⟩
  change (mul (finite ..) (finite ..)).IsWhole (first * second)
  rw [mul]
  apply whole_of_quotient units_per_one_positive small
  rw [signed_mul, leftExact, rightExact]
  generalize (unitsPerOne : Int) = units
  ring

theorem whole_div {quotient : Int} (wholeLeft : left.IsWhole (quotient * second))
    (wholeRight : right.IsWhole second) (nonzero : second ≠ 0)
    (small : quotient.natAbs ≤ wholeLimit) : (left / right).IsWhole quotient := by
  rcases finite_of_whole wholeLeft with ⟨leftNegative, leftUnits, _, rfl, leftExact⟩
  rcases finite_of_whole wholeRight with ⟨rightNegative, rightUnits, _, rfl, rightExact⟩
  have divisor : signed rightNegative rightUnits ≠ 0 := by
    rw [rightExact]
    exact mul_ne_zero nonzero units_per_one_ne_zero
  have positive : 0 < rightUnits := by
    rw [← nat_abs_signed rightNegative rightUnits]
    exact Int.natAbs_pos.mpr divisor
  change (div (finite ..) (finite ..)).IsWhole quotient
  rw [div, dif_pos positive]
  apply whole_of_quotient positive small
  -- Both sides are multiplied by the divisor, whose sign the quotient takes with it.
  apply mul_right_cancel₀ divisor
  rw [← signed_mul, Bool.xor_assoc, Bool.xor_self, Bool.xor_false, signed_scaled,
    signed_scaled, leftExact, rightExact]
  generalize (unitsPerOne : Int) = units
  ring

theorem displayed_of_whole {value : Binary64} {number : Int} (whole : value.IsWhole number) :
    value.displayed = .ok (.ofInt number) := by
  have steps : ((number * 10 ^ maxFractionDigits : Int) : ℚ) / 10 ^ maxFractionDigits = number := by
    rw [Int.cast_mul, Int.cast_pow, Int.cast_ofNat, mul_div_cancel_right₀ _ (by positivity)]
  have near := (near_iff_whole value number).mpr whole
  rw [← steps] at near
  rw [displayed_of_near near (by norm_num)]
  have canonical : (Decimal.ofInt number).IsCanonical :=
    ⟨fun places => absurd rfl places,
      fun zero => by simp [Decimal.ofInt, Int.natAbs_eq_zero.mp zero]⟩
  apply congrArg Except.ok
  apply Decimal.eq_of_canonical (Decimal.canonical_of_steps _) canonical
  rw [Decimal.to_rat_of_steps, steps, Decimal.toRat, Decimal.ofInt, pow_zero, div_one,
    sign_mul_nat_abs]

end Binary64

namespace Decimal

/-- Up to the limit the digits of a whole number make out its binary value. -/
theorem whole_value (negative : Bool) {digits : Nat} (small : digits ≤ Binary64.wholeLimit) :
    (value ⟨negative, digits, 0⟩).IsWhole (Binary64.signed negative digits) := by
  apply Binary64.whole_of_quotient
  · rw [Binary64.nat_abs_signed]
    exact small
  · rw [Binary64.signed_scaled, Nat.pow_zero, Nat.cast_one, Int.mul_one]

theorem text_of_int (number : Int) : (ofInt number).text = (toString number).toList := by
  have digits (count : Nat) : (toString count).toList = Nat.toDigits 10 count := by
    rw [Nat.toString_eq_repr, Nat.toList_repr]
  cases number with
  | ofNat count =>
      change _ = (toString count).toList
      rw [digits]
      simp [ofInt, text]
  | negSucc count =>
      change _ = ("-" ++ toString (count + 1)).toList
      rw [String.toList_append, digits]
      simp [ofInt, text]

end Decimal

end Keypad
