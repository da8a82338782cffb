/-!
Rounding a quotient of natural numbers to a whole number, a half going to the even neighbour.
Decimal text, binary values and the numbers on the display all round through this one
function, so its laws are stated once: the result misses the quotient by at most a half, a
whole quotient stays as it is, and no whole bound of the quotient is passed.
-/

namespace Keypad

/-- The whole number nearest to a quotient. A quotient halfway between two whole numbers goes
to the even one. -/
def roundDiv (numerator denominator : Nat) : Nat :=
  let quotient := numerator / denominator
  let remainder := numerator % denominator
  if 2 * remainder < denominator then quotient
  else if denominator < 2 * remainder then quotient + 1
  else quotient + quotient % 2

theorem round_div_mul_le (numerator denominator : Nat) (positive : 0 < denominator) :
    2 * (roundDiv numerator denominator * denominator) ≤ 2 * numerator + denominator := by
  have divided := Nat.div_add_mod numerator denominator
  have commuted := Nat.mul_comm denominator (numerator / denominator)
  have small := Nat.mod_lt numerator positive
  simp only [roundDiv]
  split
  · omega
  · split
    · rw [Nat.add_mul]
      omega
    · rcases Nat.mod_two_eq_zero_or_one (numerator / denominator) with even | odd
      · rw [even, Nat.add_zero]
        omega
      · rw [odd, Nat.add_mul]
        omega

theorem le_round_div_mul (numerator denominator : Nat) (positive : 0 < denominator) :
    2 * numerator ≤ 2 * (roundDiv numerator denominator * denominator) + denominator := by
  have divided := Nat.div_add_mod numerator denominator
  have commuted := Nat.mul_comm denominator (numerator / denominator)
  have small := Nat.mod_lt numerator positive
  simp only [roundDiv]
  split
  · omega
  · split
    · rw [Nat.add_mul]
      omega
    · rcases Nat.mod_two_eq_zero_or_one (numerator / denominator) with even | odd
      · rw [even, Nat.add_zero]
        omega
      · rw [odd, Nat.add_mul]
        omega

theorem round_div_mul (quotient denominator : Nat) (positive : 0 < denominator) :
    roundDiv (quotient * denominator) denominator = quotient := by
  simp [roundDiv, Nat.mul_div_cancel _ positive, positive]

theorem round_div_le (numerator denominator bound : Nat) (positive : 0 < denominator)
    (bounded : numerator ≤ bound * denominator) : roundDiv numerator denominator ≤ bound := by
  have near := round_div_mul_le numerator denominator positive
  rcases Nat.lt_or_ge bound (roundDiv numerator denominator) with passed | kept
  · have step := Nat.mul_le_mul_right denominator (Nat.succ_le_of_lt passed)
    rw [Nat.succ_mul] at step
    have exact : numerator = bound * denominator := by omega
    exact Nat.le_of_eq (by rw [exact, round_div_mul bound denominator positive])
  · exact kept

end Keypad
