import Keypad.Proofs.Binary64.Finite
import Keypad.Proofs.Rounding

/-!
Rounding to the format is rounding to the nearest. Among the multiples of the spacing about a
quotient this is what rounding a quotient does. All other numbers of units that fit lie below the
power of two under the quotient, which is such a multiple and closer to it.
-/

namespace Keypad.Binary64

theorem on_lattice_or_below (units : Nat) {other : Nat} (fits : spacing other ∣ other) :
    spacing units ∣ other ∨
      ∃ bottom, spacing units ∣ bottom ∧ other ≤ bottom ∧ bottom ≤ units := by
  by_cases coarser : units.log2 ≤ other.log2
  · left
    have spacings : spacing units ∣ spacing other := Nat.pow_dvd_pow 2 (by omega)
    exact Nat.dvd_trans spacings fits
  · right
    refine ⟨2 ^ units.log2, Nat.pow_dvd_pow 2 (Nat.sub_le _ _), ?_, ?_⟩
    · have above := Nat.lt_log2_self (n := other)
      have exponents : 2 ^ (other.log2 + 1) ≤ 2 ^ units.log2 :=
        Nat.pow_le_pow_right (by decide) (by omega)
      omega
    · apply Nat.log2_self_le
      intro zero
      rw [zero] at coarser
      exact coarser (Nat.zero_le _)

variable (numerator denominator : Nat) (positive : 0 < denominator)

include positive

theorem round_units_closest {multiple : Nat}
    (lattice : spacing (numerator / denominator) ∣ multiple) :
    |(numerator / denominator : ℚ) - roundUnits numerator denominator| ≤
      |(numerator / denominator : ℚ) - multiple| := by
  obtain ⟨steps, rfl⟩ := lattice
  rw [roundUnits]
  generalize spaced : spacing (numerator / denominator) = gap
  have gapPositive : 0 < gap := spaced ▸ spacing_positive _
  have scale : (0 : ℚ) < gap := by exact_mod_cast gapPositive
  have nonzero : (denominator : ℚ) ≠ 0 := Nat.cast_ne_zero.mpr positive.ne'
  have nearest := (nearest_round_div numerator (denominator * gap)
    (Nat.mul_pos positive gapPositive)).closest steps
  have quotient : (numerator : ℚ) / (denominator * gap : Nat) * gap = numerator / denominator := by
    rw [Nat.cast_mul]
    field_simp
  have scaled := mul_le_mul_of_nonneg_right nearest scale.le
  rw [scaled_distance scale, scaled_distance scale, quotient] at scaled
  rw [Nat.cast_mul, Nat.cast_mul, mul_comm (gap : ℚ) steps]
  exact scaled

/-- No number of units that fits the format is closer to a quotient than the rounded one. -/
theorem round_units_nearest {other : Nat} (fits : spacing other ∣ other) :
    |(numerator / denominator : ℚ) - roundUnits numerator denominator| ≤
      |(numerator / denominator : ℚ) - other| := by
  rcases on_lattice_or_below (numerator / denominator) fits with lattice | below
  · exact round_units_closest numerator denominator positive lattice
  · obtain ⟨bottom, lattice, above, under⟩ := below
    have quotient : (bottom : ℚ) ≤ numerator / denominator :=
      (Nat.cast_le.mpr under).trans Nat.cast_div_le
    have ordered : (other : ℚ) ≤ bottom := Nat.cast_le.mpr above
    apply (round_units_closest numerator denominator positive lattice).trans
    rw [abs_of_nonneg (sub_nonneg.mpr quotient),
      abs_of_nonneg (sub_nonneg.mpr (ordered.trans quotient))]
    exact sub_le_sub_left ordered _

end Keypad.Binary64
