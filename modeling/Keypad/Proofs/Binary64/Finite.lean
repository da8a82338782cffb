import Keypad.Decimal.Displayed

/-!
Finite values stay finite when they are displayed and read again. Rounding never passes a number
of units that is on the lattice of the format. From 2^53 on a value is whole, so the display writes
it exactly; below, what the display writes is at most 2^53.
-/

namespace Keypad

namespace Binary64

def isFinite : Binary64 → Bool
  | .finite .. => true
  | _ => false

theorem spacing_dvd_spacing {smaller larger : Nat} (ordered : smaller ≤ larger) :
    spacing smaller ∣ spacing larger := by
  apply Nat.pow_dvd_pow
  have logarithms : smaller.log2 ≤ larger.log2 := by
    rcases Nat.eq_zero_or_pos smaller with rfl | positive
    · exact Nat.zero_le _
    · exact (Nat.le_log2 (by omega)).mpr (Nat.le_trans (Nat.log2_self_le (by omega)) ordered)
  omega

/-- No number of units on the lattice of the format is passed by rounding. -/
theorem round_units_le {numerator denominator bound : Nat} (positive : 0 < denominator)
    (lattice : spacing bound ∣ bound) (bounded : numerator ≤ bound * denominator) :
    roundUnits numerator denominator ≤ bound := by
  have quotient : numerator / denominator ≤ bound :=
    Nat.div_le_of_le_mul (Nat.mul_comm bound denominator ▸ bounded)
  obtain ⟨steps, whole⟩ := Nat.dvd_trans (spacing_dvd_spacing quotient) lattice
  have grouped : numerator ≤ steps * (denominator * spacing (numerator / denominator)) := by
    rw [Nat.mul_left_comm, Nat.mul_comm steps, ← whole, Nat.mul_comm]
    exact bounded
  have rounded := round_div_le _ _ steps
    (Nat.mul_pos positive (spacing_positive (numerator / denominator))) grouped
  calc roundUnits numerator denominator
      ≤ steps * spacing (numerator / denominator) := Nat.mul_le_mul_right _ rounded
    _ = bound := by rw [Nat.mul_comm, ← whole]

theorem is_finite_iff (value : Binary64) :
    value.isFinite = true ↔ ∃ number, value.displayed = .ok number := by
  cases value with
  | nan => simp [isFinite, displayed]
  | infinity negative => simp [isFinite, displayed]
  | finite negative units representable => exact ⟨fun _ => ⟨_, rfl⟩, fun _ => rfl⟩

theorem displayed_steps_bounded (units : Nat) (representable : Representable units) :
    ∃ bound, Representable bound ∧
      displayedSteps units * unitsPerOne ≤ bound * 10 ^ maxFractionDigits := by
  by_cases large : unitExponent ≤ units.log2 - 52
  · have whole : unitsPerOne ∣ units :=
      Nat.dvd_trans (Nat.pow_dvd_pow 2 large) representable.2
    obtain ⟨ones, exact⟩ := whole
    have steps : displayedSteps units = ones * 10 ^ maxFractionDigits := by
      rw [displayedSteps, exact, Nat.mul_assoc, Nat.mul_comm unitsPerOne,
        round_div_mul _ _ units_per_one_positive]
    refine ⟨units, representable, Nat.le_of_eq ?_⟩
    rw [steps, exact, Nat.mul_right_comm, Nat.mul_comm ones]
  · have narrow : spacing units ≤ unitsPerOne :=
      Nat.pow_le_pow_right (by decide) (Nat.le_of_not_le large)
    have below : units ≤ 2 ^ (53 : Nat) * unitsPerOne :=
      Nat.le_trans (Nat.le_of_lt (lt_significand_mul_spacing units))
        (Nat.mul_le_mul_left _ narrow)
    have steps : displayedSteps units ≤ 2 ^ (53 : Nat) * 10 ^ maxFractionDigits := by
      apply round_div_le _ _ _ units_per_one_positive
      rw [Nat.mul_right_comm]
      exact Nat.mul_le_mul_right _ below
    refine ⟨2 ^ (53 : Nat) * unitsPerOne, ⟨?_, ?_⟩, ?_⟩
    · rw [unitsPerOne, unitLimit, ← Nat.pow_add]
      exact Nat.pow_lt_pow_right (by decide) (by simp only [unitExponent, limitExponent]; omega)
    · rw [unitsPerOne]
      exact spacing_dvd_significand _ unitExponent (Nat.le_refl _)
    · rw [Nat.mul_right_comm]
      exact Nat.mul_le_mul_right _ steps

end Binary64

namespace Decimal

theorem value_finite {number : Decimal} {bound : Nat} (inside : Binary64.Representable bound)
    (bounded : number.digits * Binary64.unitsPerOne ≤ bound * 10 ^ number.places) :
    number.value.isFinite = true := by
  have rounded := Binary64.round_units_le (Nat.pow_pos (by decide)) inside.2 bounded
  rw [value, Binary64.ofQuotient, dif_pos (Nat.lt_of_le_of_lt rounded inside.1)]
  rfl

theorem trimmed_bounded (number : Decimal) (unit bound : Nat)
    (bounded : number.digits * unit ≤ bound * 10 ^ number.places) :
    number.trimmed.digits * unit ≤ bound * 10 ^ number.trimmed.places := by
  have scaled := trim_places_scaled number.negative number.places number.digits
  have fewer := trim_places_le number.negative number.places number.digits
  rw [trimmed]
  generalize trimPlaces number.negative number.places number.digits = shorter at scaled fewer ⊢
  have positive : 0 < 10 ^ (number.places - shorter.places) := Nat.pow_pos (by decide)
  apply Nat.le_of_mul_le_mul_right _ positive
  rw [Nat.mul_right_comm, scaled, Nat.mul_assoc, ← Nat.pow_add, Nat.add_sub_cancel' fewer]
  exact bounded

theorem value_finite_of_displayed {value : Binary64} {number : Decimal}
    (shown : value.displayed = .ok number) : number.value.isFinite = true := by
  cases value with
  | nan => contradiction
  | infinity negative => contradiction
  | finite negative units representable =>
      obtain ⟨bound, inside, bounded⟩ := Binary64.displayed_steps_bounded units representable
      have written := Except.ok.inj shown
      rw [← written]
      apply value_finite inside
      apply trimmed_bounded
      dsimp only
      exact bounded

end Decimal

end Keypad
