import Keypad.Binary64.Bits
import Keypad.Proofs.Binary64.Nearest
import Keypad.Proofs.Decimal.Exactness
import Keypad.Proofs.Reduction.Rounded

/-!
Displayed numbers are stable. The number on the display may have another value than the one that it
was displayed for, but no value is closer to the number than its own, so the number is nearest to
this one as well and is displayed again.
-/

namespace Keypad

theorem Binary64.rational_of_finite {value : Binary64} (finite : value.isFinite = true) :
    ∃ exact, value.rational? = some exact := by
  cases value with
  | nan => contradiction
  | infinity negative => contradiction
  | finite negative units representable => exact ⟨_, rfl⟩

namespace Decimal

theorem magnitude_nearest (number : Decimal) {units : Nat} (fits : Binary64.spacing units ∣ units) :
    |(Binary64.roundUnits (number.digits * Binary64.unitsPerOne) (10 ^ number.places) : ℚ) /
          Binary64.unitsPerOne - number.digits / 10 ^ number.places| ≤
      |(units : ℚ) / Binary64.unitsPerOne - number.digits / 10 ^ number.places| := by
  have nearest := Binary64.round_units_nearest (number.digits * Binary64.unitsPerOne)
    (10 ^ number.places) (Nat.pow_pos (by decide)) fits
  generalize Binary64.roundUnits (number.digits * Binary64.unitsPerOne) (10 ^ number.places) =
    rounded at nearest ⊢
  have positive := Binary64.units_per_one_positive
  generalize Binary64.unitsPerOne = unit at nearest positive ⊢
  have scale : (0 : ℚ) < unit := Nat.cast_pos.mpr positive
  rw [Nat.cast_mul, Nat.cast_pow, Nat.cast_ofNat, mul_div_right_comm, abs_sub_comm,
    abs_sub_comm _ (units : ℚ)] at nearest
  apply le_of_mul_le_mul_right _ scale
  rw [scaled_distance scale, scaled_distance scale, div_mul_cancel₀ _ scale.ne',
    div_mul_cancel₀ _ scale.ne']
  exact nearest

theorem value_nearest (number : Decimal) {own : ℚ} (found : number.value.rational? = some own)
    {value : Binary64} {exact : ℚ} (other : value.rational? = some exact) :
    |own - number.toRat| ≤ |exact - number.toRat| := by
  obtain ⟨negative, units, representable, rfl, rfl⟩ := Binary64.finite_of_rational other
  have closer := number.magnitude_nearest representable.2
  have unsigned : |(units : ℚ) / Binary64.unitsPerOne - number.digits / 10 ^ number.places| ≤
      |(Binary64.signed negative units : ℚ) / Binary64.unitsPerOne - number.toRat| := by
    have nonnegative : (0 : ℚ) ≤ number.digits / 10 ^ number.places := by positivity
    have unitsNonnegative : (0 : ℚ) ≤ units / Binary64.unitsPerOne :=
      div_nonneg (Nat.cast_nonneg _) (Nat.cast_nonneg _)
    have absolute := abs_abs_sub_abs_le_abs_sub
      ((Binary64.signed negative units : ℚ) / Binary64.unitsPerOne) number.toRat
    rw [toRat, Binary64.signed_eq_sign_mul, mul_div_assoc, Binary64.abs_sign_mul,
      Binary64.abs_sign_mul, abs_of_nonneg nonnegative, abs_of_nonneg unitsNonnegative] at absolute
    rw [toRat, Binary64.signed_eq_sign_mul, mul_div_assoc]
    exact absolute
  rw [value, Binary64.ofQuotient] at found
  split at found
  · have rounded := Option.some.inj found
    rw [Binary64.signed_eq_sign_mul, mul_div_assoc] at rounded
    apply le_trans _ unsigned
    rw [toRat, ← rounded, ← mul_sub, Binary64.abs_sign_mul]
    exact closer
  · cases found

/-- What is displayed is displayed for its own value too. -/
theorem displayed_value_of_displayed {value : Binary64} {number : Decimal}
    (shown : value.displayed = .ok number) : number.value.displayed = .ok number := by
  have before := (Binary64.is_finite_iff value).mpr ⟨_, shown⟩
  obtain ⟨exact, found⟩ := Binary64.rational_of_finite before
  obtain ⟨own, ownFound⟩ := Binary64.rational_of_finite (value_finite_of_displayed shown)
  obtain ⟨steps, nearest⟩ := Binary64.exists_nearest_steps found
  have same := Except.ok.inj (shown.symm.trans (Binary64.displayed_of_nearest found nearest))
  subst same
  apply Binary64.displayed_of_nearest ownFound
  apply nearest.of_closer
  have scale : (0 : ℚ) < 10 ^ maxFractionDigits := by positivity
  have closer := mul_le_mul_of_nonneg_right (value_nearest _ ownFound found) scale.le
  rw [scaled_distance scale, scaled_distance scale, to_rat_of_steps,
    div_mul_cancel₀ _ scale.ne'] at closer
  exact closer

end Decimal

/-- The text after it has been read and displayed a number of times, where both succeed. -/
def redisplay : Nat → List Char → Option (List Char)
  | 0, text => some text
  | times + 1, text => do
      let numeral ← (Numeral.read text).toOption
      let again ← numeral.value.displayText.toOption
      redisplay times again

theorem redisplay_of_stable {text : List Char} {numeral : Numeral}
    (reads : Numeral.read text = .ok numeral) (shown : numeral.value.displayText = .ok text)
    (times : Nat) : redisplay times text = some text := by
  induction times with
  | zero => rfl
  | succ times induction =>
      rw [redisplay, reads, Except.toOption, Option.bind_eq_bind, Option.bind_some, shown]
      exact induction

/-- The text of a finite value is a numeral with a finite value that has the same text. So it stays
the same however often it is read and displayed. -/
theorem display_text_stable {value : Binary64} (finite : value.isFinite = true) :
    ∃ text, ∃ numeral : Numeral, value.displayText = .ok text ∧ Numeral.read text = .ok numeral ∧
      numeral.literal = text ∧ numeral.value.isFinite = true ∧
      numeral.value.displayText = .ok text ∧ ∀ times, redisplay times text = some text := by
  obtain ⟨number, shown⟩ := (Binary64.is_finite_iff value).mp finite
  have again : (Numeral.ofDecimal number).value.displayText = .ok number.text := by
    change number.value.displayText = _
    rw [Binary64.displayText, Decimal.displayed_value_of_displayed shown]
    rfl
  have reads := Numeral.read_text_of_decimal number
  refine ⟨number.text, .ofDecimal number, ?_, reads, rfl, Decimal.value_finite_of_displayed shown,
    again, redisplay_of_stable reads again⟩
  rw [Binary64.displayText, shown]
  rfl

/-- A third is displayed as a number with another value. -/
theorem display_text_stable_third :
    (Binary64.ofBits 0x3FD5555555555555#64).isFinite = true ∧
      ∃ numeral : Numeral,
        (Binary64.ofBits 0x3FD5555555555555#64).displayText = .ok numeral.literal ∧
        numeral.literal = "0.33333".toList ∧
        numeral.value ≠ Binary64.ofBits 0x3FD5555555555555#64 ∧
        numeral.value.displayText = .ok numeral.literal := by
  have finite : (Binary64.ofBits 0x3FD5555555555555#64).isFinite = true := by decide +kernel
  obtain ⟨text, numeral, shown, reads, rfl, -, again, -⟩ := display_text_stable finite
  have written : (Binary64.ofBits 0x3FD5555555555555#64).displayText = .ok "0.33333".toList := by
    decide +kernel
  have literal := Except.ok.inj (shown.symm.trans written)
  refine ⟨finite, numeral, shown, literal, ?_, again⟩
  have decimal : some numeral.decimal = some ⟨false, 33333, 5⟩ := by
    rw [← numeral.reads, literal]
    decide +kernel
  rw [Numeral.value, Option.some.inj decimal]
  decide +kernel

end Keypad
