import Keypad.Rounding

/-!
Binary floating point in the 64-bit format of IEEE 754, as exact integers. A finite value is a
sign and a whole number of units of 2^-1074, the smallest positive value of the format, so no
operation needs an exponent: a sum, product or quotient is formed exactly and rounded once.
The main fact here is that one rounding always ends inside the format or at an infinity.
-/

namespace Keypad

-- Powers are those of the core library in this namespace, also beside an algebra that has its own.
attribute [scoped instance (2000)] instPowNat

namespace Binary64

/-- A unit is 2 to the power of minus this. -/
def unitExponent : Nat := 1074

def unitsPerOne : Nat := 2 ^ unitExponent

theorem units_per_one_positive : 0 < unitsPerOne := Nat.two_pow_pos unitExponent

/-- Finite magnitudes end at 2^1024, which is 2 to this power in units. -/
def limitExponent : Nat := 1024 + unitExponent

def unitLimit : Nat := 2 ^ limitExponent

theorem unit_limit_positive : 0 < unitLimit := Nat.two_pow_pos limitExponent

/-- The distance between neighbouring values about a magnitude, all in units: one place of a
significand with 53 binary places, but never less than one unit. -/
def spacing (units : Nat) : Nat := 2 ^ (units.log2 - 52)

theorem spacing_positive (units : Nat) : 0 < spacing units :=
  Nat.pow_pos (by decide)

theorem lt_significand_mul_spacing (units : Nat) : units < 2 ^ (53 : Nat) * spacing units := by
  rw [spacing, ← Nat.pow_add]
  exact Nat.lt_of_lt_of_le Nat.lt_log2_self (Nat.pow_le_pow_right (by decide) (by omega))

/-- A number of units fits the format when it lies below the limit and on the lattice of its
neighbours. -/
def Representable (units : Nat) : Prop := units < unitLimit ∧ spacing units ∣ units

instance (units : Nat) : Decidable (Representable units) :=
  inferInstanceAs (Decidable (_ ∧ _))

theorem representable_zero : Representable 0 := ⟨unit_limit_positive, Nat.dvd_zero _⟩

/-- A significand of 2^53 is the carry into the next power of two: there the spacing of the
values doubles, and still divides it. -/
theorem spacing_dvd_significand (significand exponent : Nat)
    (bounded : significand ≤ 2 ^ (53 : Nat)) :
    spacing (significand * 2 ^ exponent) ∣ significand * 2 ^ exponent := by
  have top : significand * 2 ^ exponent ≤ 2 ^ (53 + exponent) := by
    rw [Nat.pow_add]
    exact Nat.mul_le_mul_right _ bounded
  by_cases zero : significand * 2 ^ exponent = 0
  · rw [zero]
    exact Nat.dvd_zero _
  · by_cases carried : significand * 2 ^ exponent < 2 ^ (53 + exponent)
    · have high := (Nat.log2_lt zero).mpr carried
      exact Nat.dvd_trans (Nat.pow_dvd_pow 2 (by omega)) (Nat.dvd_mul_left _ _)
    · have exact : significand * 2 ^ exponent = 2 ^ (53 + exponent) := by omega
      rw [exact, spacing, Nat.log2_two_pow]
      exact Nat.pow_dvd_pow 2 (by omega)

end Binary64

/-- A value of the format. All that is not a number is one value, since no operation tells
two of them apart; the two zeros stay distinct. -/
inductive Binary64 where
  | nan
  | infinity (negative : Bool)
  | finite (negative : Bool) (units : Nat) (representable : Binary64.Representable units)
  deriving DecidableEq

namespace Binary64

def zero (negative : Bool) : Binary64 := .finite negative 0 representable_zero

/-- Both zeros count. -/
def isZero : Binary64 → Bool
  | .finite _ units _ => units == 0
  | _ => false

def roundUnits (numerator denominator : Nat) : Nat :=
  let gap := spacing (numerator / denominator)
  roundDiv numerator (denominator * gap) * gap

theorem spacing_dvd_round_units (numerator denominator : Nat) (positive : 0 < denominator) :
    spacing (roundUnits numerator denominator) ∣ roundUnits numerator denominator := by
  apply spacing_dvd_significand
  apply round_div_le _ _ _ (Nat.mul_pos positive (spacing_positive _))
  have fits := lt_significand_mul_spacing (numerator / denominator)
  have scaled := Nat.mul_le_mul_left denominator (Nat.succ_le_of_lt fits)
  have below := Nat.lt_mul_div_succ numerator positive
  rw [Nat.mul_left_comm]
  exact Nat.le_of_lt (Nat.lt_of_lt_of_le below scaled)

theorem round_units_near (numerator denominator : Nat) (positive : 0 < denominator) :
    2 * (roundUnits numerator denominator * denominator) ≤
        2 * numerator + denominator * spacing (numerator / denominator) ∧
      2 * numerator ≤
        2 * (roundUnits numerator denominator * denominator) +
          denominator * spacing (numerator / denominator) := by
  have lattice := Nat.mul_pos positive (spacing_positive (numerator / denominator))
  have regrouped : roundUnits numerator denominator * denominator =
      roundDiv numerator (denominator * spacing (numerator / denominator)) *
        (denominator * spacing (numerator / denominator)) := by
    rw [roundUnits, Nat.mul_assoc, Nat.mul_comm denominator]
  rw [regrouped]
  exact ⟨round_div_mul_le numerator _ lattice, le_round_div_mul numerator _ lattice⟩

theorem round_units_of_representable (units denominator : Nat) (positive : 0 < denominator)
    (representable : Representable units) :
    roundUnits (units * denominator) denominator = units := by
  obtain ⟨steps, exact⟩ := representable.2
  have grouped : units * denominator = steps * (denominator * spacing units) := by
    rw [Nat.mul_comm, Nat.mul_comm steps, Nat.mul_assoc]
    exact congrArg (denominator * ·) exact
  rw [roundUnits, Nat.mul_div_cancel units positive, grouped,
    round_div_mul _ _ (Nat.mul_pos positive (spacing_positive units)), Nat.mul_comm]
  exact exact.symm

/-- The value nearest to a quotient of units under a sign, a tie going to the even
significand. A magnitude that rounds up to the limit is an infinity. -/
def ofQuotient (negative : Bool) (numerator denominator : Nat) (positive : 0 < denominator) :
    Binary64 :=
  if bounded : roundUnits numerator denominator < unitLimit then
    .finite negative (roundUnits numerator denominator)
      ⟨bounded, spacing_dvd_round_units numerator denominator positive⟩
  else .infinity negative

end Binary64

end Keypad
