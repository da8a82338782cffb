import Keypad.Decimal.Basic

/-!
One number, written with different numbers of places. Its value is the same in every form, also
where the number is too large or too small for the format, because a quotient is rounded alike
however it is written.
-/

namespace Keypad

section Scaled

variable (numerator denominator : Nat) {scale : Nat} (positive : 0 < scale)

include positive

theorem round_div_scaled :
    roundDiv (numerator * scale) (denominator * scale) = roundDiv numerator denominator := by
  have quotient := Nat.mul_div_mul_right numerator denominator positive
  have remainder := Nat.mul_mod_mul_right scale numerator denominator
  have below : 2 * (numerator % denominator * scale) < denominator * scale ↔
      2 * (numerator % denominator) < denominator := by
    rw [← Nat.mul_assoc, Nat.mul_lt_mul_right positive]
  have above : denominator * scale < 2 * (numerator % denominator * scale) ↔
      denominator < 2 * (numerator % denominator) := by
    rw [← Nat.mul_assoc, Nat.mul_lt_mul_right positive]
  simp only [roundDiv, quotient, remainder, below, above]

theorem Binary64.round_units_scaled :
    roundUnits (numerator * scale) (denominator * scale) = roundUnits numerator denominator := by
  have regrouped (gap : Nat) : denominator * scale * gap = denominator * gap * scale :=
    Nat.mul_right_comm ..
  rw [roundUnits, roundUnits, Nat.mul_div_mul_right numerator denominator positive, regrouped,
    round_div_scaled _ _ positive]

end Scaled

/-- A quotient can be written in many ways, and is rounded the same way in all of them. -/
theorem Binary64.of_quotient_of_same (negative : Bool)
    {numerator denominator other otherDenominator : Nat} (positive : 0 < denominator)
    (otherPositive : 0 < otherDenominator)
    (same : numerator * otherDenominator = other * denominator) :
    ofQuotient negative numerator denominator positive =
      ofQuotient negative other otherDenominator otherPositive := by
  have units : roundUnits numerator denominator = roundUnits other otherDenominator :=
    calc roundUnits numerator denominator
      _ = roundUnits (numerator * otherDenominator) (denominator * otherDenominator) :=
        (round_units_scaled numerator denominator otherPositive).symm
      _ = roundUnits (other * denominator) (otherDenominator * denominator) := by
        rw [same, Nat.mul_comm denominator]
      _ = roundUnits other otherDenominator := round_units_scaled other otherDenominator positive
  simp only [ofQuotient, units]

namespace Decimal

theorem value_of_same {left right : Decimal} (signs : left.negative = right.negative)
    (same : left.digits * 10 ^ right.places = right.digits * 10 ^ left.places) :
    left.value = right.value := by
  rw [value, value, signs]
  apply Binary64.of_quotient_of_same
  rw [Nat.mul_right_comm, same, Nat.mul_right_comm]

end Decimal

end Keypad
