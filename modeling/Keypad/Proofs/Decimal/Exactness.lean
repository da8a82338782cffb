import Keypad.Decimal.Displayed
import Keypad.Proofs.Binary64.Nearness
import Keypad.Proofs.Rounding

/-!
Decimal numbers and what the display makes of values near to them. Every number has one canonical
decimal at most; a value that is less than half a step of the display away from a whole number of
steps is shown as exactly that number, in its canonical form.
-/

namespace Keypad

namespace Decimal

def toRat (number : Decimal) : ℚ :=
  Binary64.sign number.negative * (number.digits / 10 ^ number.places)

/-- No zero ends the fraction, and zero has no sign. -/
structure IsCanonical (number : Decimal) : Prop where
  trimmed : number.places ≠ 0 → number.digits % 10 ≠ 0
  unsigned : number.digits = 0 → number.negative = false

theorem trim_places_negative (negative : Bool) (places digits : Nat) :
    (trimPlaces negative places digits).negative = negative := by
  induction places generalizing digits with
  | zero => rfl
  | succ places induction =>
      rw [trimPlaces]
      split
      · exact induction _
      · rfl

theorem trim_places_trimmed (negative : Bool) (places digits : Nat) :
    (trimPlaces negative places digits).places ≠ 0 →
      (trimPlaces negative places digits).digits % 10 ≠ 0 := by
  induction places generalizing digits with
  | zero => exact fun nonzero => absurd rfl nonzero
  | succ places induction =>
      rw [trimPlaces]
      split
      · exact induction _
      · rename_i nonzero
        exact fun _ => nonzero

theorem to_rat_padded (number : Decimal) (places : Nat) (fewer : number.places ≤ places) :
    number.toRat =
      toRat ⟨number.negative, number.digits * 10 ^ (places - number.places), places⟩ := by
  have whole : (10 : ℚ) ^ places = 10 ^ (places - number.places) * 10 ^ number.places := by
    rw [← pow_add, Nat.sub_add_cancel fewer]
  have positive : (0 : ℚ) < 10 ^ (places - number.places) := by positivity
  rw [toRat, toRat]
  simp only [Nat.cast_mul, Nat.cast_pow, whole]
  rw [mul_comm (number.digits : ℚ), Nat.cast_ofNat, mul_div_mul_left _ _ positive.ne']

theorem to_rat_trim_places (negative : Bool) (places digits : Nat) :
    (trimPlaces negative places digits).toRat = toRat ⟨negative, digits, places⟩ := by
  rw [to_rat_padded _ places (trim_places_le negative places digits), trim_places_scaled,
    trim_places_negative]

theorem steps_of_places (number : Decimal) (fewer : number.places ≤ maxFractionDigits) :
    ∃ steps : Int, number.toRat = steps / 10 ^ maxFractionDigits := by
  refine ⟨Binary64.signed number.negative
    (number.digits * 10 ^ (maxFractionDigits - number.places)), ?_⟩
  rw [to_rat_padded number _ fewer, toRat, Binary64.signed_eq_sign_mul, mul_div_assoc]

/-- A whole number of steps of the display, in its canonical form. -/
def ofSteps (steps : Int) : Decimal :=
  trimmed ⟨decide (steps < 0), steps.natAbs, maxFractionDigits⟩

theorem to_rat_of_steps (steps : Int) : (ofSteps steps).toRat = steps / 10 ^ maxFractionDigits := by
  have trimmed := to_rat_trim_places (decide (steps < 0)) maxFractionDigits steps.natAbs
  rw [ofSteps]
  apply trimmed.trans
  rw [toRat, ← mul_div_assoc, Binary64.sign_mul_nat_abs]

theorem canonical_of_steps (steps : Int) : (ofSteps steps).IsCanonical where
  trimmed := trim_places_trimmed _ _ _
  unsigned zero := by
    have scaled := trim_places_scaled (decide (steps < 0)) maxFractionDigits steps.natAbs
    have negative := trim_places_negative (decide (steps < 0)) maxFractionDigits steps.natAbs
    have none_left : steps.natAbs = 0 := by
      rw [← scaled]
      exact (congrArg (· * _) zero).trans (Nat.zero_mul _)
    apply negative.trans
    rw [Int.natAbs_eq_zero.mp none_left]
    rfl

theorem places_le_of_same {left right : Decimal} (canonical : left.IsCanonical)
    (same : left.digits * 10 ^ right.places = right.digits * 10 ^ left.places) :
    left.places ≤ right.places := by
  by_contra more
  have later : right.places < left.places := Nat.lt_of_not_le more
  obtain ⟨extra, total⟩ := Nat.exists_eq_add_of_lt later
  rw [total, Nat.add_assoc, Nat.pow_add, Nat.mul_left_comm, Nat.mul_comm] at same
  have digits := Nat.eq_of_mul_eq_mul_left (Nat.pow_pos (by decide)) same
  apply canonical.trimmed (by omega)
  rw [digits, Nat.pow_succ, ← Nat.mul_assoc]
  exact Nat.mul_mod_left _ _

theorem magnitude_of_same {left right : Decimal} (same : left.toRat = right.toRat) :
    (left.digits : ℚ) / 10 ^ left.places = right.digits / 10 ^ right.places := by
  have leftNonnegative : (0 : ℚ) ≤ left.digits / 10 ^ left.places := by positivity
  have rightNonnegative : (0 : ℚ) ≤ right.digits / 10 ^ right.places := by positivity
  have absolute := congrArg abs same
  rwa [toRat, toRat, Binary64.abs_sign_mul, Binary64.abs_sign_mul, abs_of_nonneg leftNonnegative,
    abs_of_nonneg rightNonnegative] at absolute

theorem negative_of_same {left right : Decimal} (same : left.toRat = right.toRat)
    (nonzero : right.digits ≠ 0) : left.negative = right.negative := by
  have positive : (0 : ℚ) < right.digits / 10 ^ right.places := by
    have present : 0 < right.digits := Nat.pos_of_ne_zero nonzero
    positivity
  have magnitude := magnitude_of_same same
  rw [toRat, toRat, magnitude] at same
  have sign := mul_right_cancel₀ positive.ne' same
  cases leftSign : left.negative with
  | true =>
      cases rightSign : right.negative with
      | true => rfl
      | false => norm_num [leftSign, rightSign, Binary64.sign] at sign
  | false =>
      cases rightSign : right.negative with
      | true => norm_num [leftSign, rightSign, Binary64.sign] at sign
      | false => rfl

theorem eq_of_canonical {left right : Decimal} (leftCanonical : left.IsCanonical)
    (rightCanonical : right.IsCanonical) (same : left.toRat = right.toRat) : left = right := by
  have crossed : left.digits * 10 ^ right.places = right.digits * 10 ^ left.places := by
    have magnitudes := magnitude_of_same same
    rw [div_eq_div_iff (by positivity) (by positivity)] at magnitudes
    exact_mod_cast magnitudes
  have places := Nat.le_antisymm (places_le_of_same leftCanonical crossed)
    (places_le_of_same rightCanonical crossed.symm)
  rw [places] at crossed
  have digits := Nat.eq_of_mul_eq_mul_right (Nat.pow_pos (by decide)) crossed
  have signs : left.negative = right.negative := by
    by_cases zero : right.digits = 0
    · rw [leftCanonical.unsigned (digits.trans zero), rightCanonical.unsigned zero]
    · exact negative_of_same same zero
  cases left
  cases right
  cases signs
  cases places
  cases digits
  rfl

theorem near_value (number : Decimal) (small : |number.toRat| < 2 ^ 30) :
    number.value.Near number.toRat Binary64.roundingError := by
  have positive : 0 < 10 ^ number.places := Nat.pow_pos (by decide)
  have fits : number.digits * Binary64.unitsPerOne <
      10 ^ number.places * (2 ^ (30 : Nat) * Binary64.unitsPerOne) := by
    have scale : (0 : ℚ) < 10 ^ number.places := by positivity
    have nonnegative : (0 : ℚ) ≤ number.digits / 10 ^ number.places := by positivity
    rw [toRat, Binary64.abs_sign_mul, abs_of_nonneg nonnegative, div_lt_iff₀ scale] at small
    have below : number.digits < 2 ^ (30 : Nat) * 10 ^ number.places := by exact_mod_cast small
    rw [← Nat.mul_assoc, Nat.mul_comm (10 ^ number.places)]
    exact Nat.mul_lt_mul_of_pos_right below Binary64.units_per_one_positive
  have nonzero : (Binary64.unitsPerOne : ℚ) ≠ 0 :=
    Nat.cast_ne_zero.mpr Binary64.units_per_one_positive.ne'
  have near := Binary64.near_of_quotient _ _ positive fits number.negative
  rw [Nat.cast_mul, Nat.cast_pow, mul_div_mul_right _ _ nonzero] at near
  exact near

end Decimal

namespace Binary64

theorem signed_lt_zero (negative : Bool) (units : Nat) :
    decide (signed negative units < 0) = (negative && units != 0) := by
  cases negative with
  | true =>
      rcases Nat.eq_zero_or_pos units with zero | positive
      · simp [signed, zero]
      · simp [signed, positive, positive.ne']
  | false => simp [signed]

theorem nat_abs_signed (negative : Bool) (units : Nat) :
    (signed negative units).natAbs = units := by
  cases negative with
  | true => simp [signed]
  | false => simp [signed]

theorem nearest_signed (negative : Bool) {number : ℚ} {steps : Nat}
    (nearest : Nearest number steps) :
    Nearest (sign negative * number) (signed negative steps) := by
  cases negative with
  | true =>
      rw [sign, if_pos rfl, neg_one_mul]
      exact nearest.neg
  | false =>
      rw [sign, if_neg Bool.false_ne_true, one_mul]
      exact nearest

theorem nearest_displayed_steps (negative : Bool) (units : Nat) :
    Nearest (signed negative units / unitsPerOne * 10 ^ maxFractionDigits)
      (signed negative (displayedSteps units)) := by
  have nearest := nearest_round_div (units * 10 ^ maxFractionDigits) unitsPerOne
    units_per_one_positive
  rw [← displayedSteps, Nat.cast_mul, Nat.cast_pow, Nat.cast_ofNat, mul_div_right_comm] at nearest
  rw [signed_eq_sign_mul, mul_div_assoc, mul_assoc]
  exact nearest_signed negative nearest

/-- A value is shown as the whole number of steps that is nearest to it. -/
theorem displayed_of_nearest {value : Binary64} {exact : ℚ} {steps : Int}
    (found : value.rational? = some exact)
    (nearest : Nearest (exact * 10 ^ maxFractionDigits) steps) :
    value.displayed = .ok (Decimal.ofSteps steps) := by
  obtain ⟨negative, units, representable, rfl, rfl⟩ := finite_of_rational found
  have same := (nearest_displayed_steps negative units).unique nearest
  rw [displayed, Decimal.ofSteps, ← same, signed_lt_zero, nat_abs_signed]

theorem exists_nearest_steps {value : Binary64} {exact : ℚ} (found : value.rational? = some exact) :
    ∃ steps : Int, Nearest (exact * 10 ^ maxFractionDigits) steps := by
  obtain ⟨negative, units, -, -, rfl⟩ := finite_of_rational found
  exact ⟨_, nearest_displayed_steps negative units⟩

theorem displayed_of_near {value : Binary64} {steps : Int} {error : ℚ}
    (near : value.Near (steps / 10 ^ maxFractionDigits) error)
    (small : error * 10 ^ maxFractionDigits < 1 / 2) :
    value.displayed = .ok (Decimal.ofSteps steps) := by
  obtain ⟨number, found, close⟩ := near
  have scale : (0 : ℚ) < 10 ^ maxFractionDigits := by positivity
  have scaled : |number * 10 ^ maxFractionDigits - steps| < 1 / 2 := by
    rw [← div_mul_cancel₀ (steps : ℚ) scale.ne', ← scaled_distance scale]
    exact (mul_le_mul_of_nonneg_right close scale.le).trans_lt small
  apply displayed_of_nearest found
  exact .of_within scaled.le fun tie => absurd tie scaled.ne

end Binary64

end Keypad
