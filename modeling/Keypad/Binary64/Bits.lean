import Keypad.Binary64.Basic

/-!
The interchange word of a binary value: a sign bit above the magnitude. Below infinity the
magnitudes of the words count the representable numbers of units in increasing order, so the
word of a value is found from its spacing alone, with no field for the exponent.
-/

namespace Keypad.Binary64

def infinityMagnitude : Nat := 2047 * 2 ^ (52 : Nat)

/-- The magnitude of a word for a number of units. Each doubling of the spacing skips the 2^52
words that precede it. -/
def magnitudeOfUnits (units : Nat) : Nat :=
  (units.log2 - 52) * 2 ^ (52 : Nat) + units / spacing units

def unitsOfMagnitude (magnitude : Nat) : Nat :=
  let exponent := magnitude / 2 ^ (52 : Nat) - 1
  (magnitude - exponent * 2 ^ (52 : Nat)) * 2 ^ exponent

theorem representable_units_of_magnitude (magnitude : Nat)
    (below : magnitude < infinityMagnitude) : Representable (unitsOfMagnitude magnitude) := by
  have field : magnitude / 2 ^ (52 : Nat) < 2047 :=
    (Nat.div_lt_iff_lt_mul (Nat.two_pow_pos 52)).mpr below
  have significand :
      magnitude - (magnitude / 2 ^ (52 : Nat) - 1) * 2 ^ (52 : Nat) < 2 ^ (53 : Nat) := by omega
  refine ⟨?_, spacing_dvd_significand _ _ (Nat.le_of_lt significand)⟩
  have scaled := Nat.mul_lt_mul_of_pos_right significand
    (Nat.two_pow_pos (magnitude / 2 ^ (52 : Nat) - 1))
  rw [← Nat.pow_add] at scaled
  exact Nat.lt_of_lt_of_le scaled
    (Nat.pow_le_pow_right (by decide) (by simp only [limitExponent, unitExponent]; omega))

def ofBits (word : BitVec 64) : Binary64 :=
  let negative := 2 ^ (63 : Nat) ≤ word.toNat
  let magnitude := word.toNat % 2 ^ (63 : Nat)
  if below : magnitude < infinityMagnitude then
    .finite negative (unitsOfMagnitude magnitude)
      (representable_units_of_magnitude magnitude below)
  else if magnitude = infinityMagnitude then .infinity negative
  else .nan

def word (negative : Bool) (magnitude : Nat) : BitVec 64 :=
  BitVec.ofNat 64 ((if negative then 2 ^ (63 : Nat) else 0) + magnitude)

/-- What is not a number is written as the quiet word with all else clear. -/
def toBits : Binary64 → BitVec 64
  | .nan => word false (infinityMagnitude + 2 ^ (51 : Nat))
  | .infinity negative => word negative infinityMagnitude
  | .finite negative units _ => word negative (magnitudeOfUnits units)

end Keypad.Binary64
