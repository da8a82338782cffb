import Keypad.Binary64.Bits
import Keypad.Proofs.Decimal.Digits
import Keypad.Proofs.Decimal.Exactness
import Keypad.Proofs.Display.Literal

/-!
The form of the numbers on the display. The plain texts are those of the canonical decimals with no
more places than the display has, so no number has two of them. Every finite value is shown by the
plain text of the whole number of steps that is nearest to it. Halfway between two of them lie the
odd multiples of 1/64 and no other values, since a binary value has no factor 5 below its point.
-/

namespace Keypad

namespace Literal

/-- Nothing is written that could be left out, and the fraction has room on the display. -/
structure IsPlain (literal : Literal) : Prop where
  leading : Decimal.LeadsPlainly literal.whole
  closed : literal.IsClosed
  short : (literal.fraction.getD []).length ≤ maxFractionDigits
  trimmed : (literal.fraction.getD []).getLast? ≠ some '0'

variable {literal : Literal}

theorem IsClosed.point_text (closed : literal.IsClosed) :
    (if (literal.fraction.getD []).length = 0 then [] else '.' :: literal.fraction.getD []) =
      pointText literal.fraction := by
  rw [IsClosed] at closed
  generalize literal.fraction = fraction at closed ⊢
  cases fraction with
  | none => rfl
  | some digits =>
      cases digits with
      | nil => contradiction
      | cons first others => rfl

theorem IsPlain.text_decimal (plain : literal.IsPlain) (negative : Bool) :
    (literal.decimal negative).text = minus negative ++ literal.text := by
  have points := plain.closed.point_text
  obtain ⟨whole, fraction, nonempty, wholeDigits, fractionDigits⟩ := literal
  have leading := Decimal.to_digits_of_digit_chars nonempty wholeDigits plain.leading
  have front : Nat.ofDigitChars 10 (whole ++ fraction.getD []) 0 / 10 ^ (fraction.getD []).length =
      Nat.ofDigitChars 10 whole 0 := by
    rw [Nat.ofDigitChars_append, Decimal.of_digit_chars_div fractionDigits]
  have behind : Decimal.lowDigits (fraction.getD []).length
      (Nat.ofDigitChars 10 (whole ++ fraction.getD []) 0) = fraction.getD [] := by
    rw [Nat.ofDigitChars_append, Decimal.low_digits_of_digit_chars fractionDigits]
  rw [Decimal.text]
  simp only [decimal, front, behind, leading, points]
  rw [List.append_assoc]
  rfl

theorem IsPlain.canonical (plain : literal.IsPlain) {negative : Bool}
    (unsigned : minus negative ++ literal.text ≠ ['-', '0']) :
    (literal.decimal negative).IsCanonical := by
  have fractional : (literal.decimal negative).places ≠ 0 →
      (literal.decimal negative).digits % 10 ≠ 0 := by
    intro places ends
    have present : literal.fraction.getD [] ≠ [] := fun empty => places (congrArg List.length empty)
    have last := Decimal.last_of_digit_chars present literal.fractionDigits
      (Nat.ofDigitChars 10 literal.whole 0)
    rw [← Nat.ofDigitChars_append] at last
    change Nat.ofDigitChars 10 (literal.whole ++ literal.fraction.getD []) 0 % 10 = 0 at ends
    rw [ends] at last
    exact plain.trimmed last
  refine ⟨fractional, fun zero => ?_⟩
  have places : (literal.decimal negative).places = 0 := by
    by_contra places
    apply fractional places
    rw [zero]
  have written := plain.text_decimal negative
  rw [← written, Decimal.text, zero, places] at unsigned
  cases negative with
  | true => exact absurd rfl unsigned
  | false => rfl

end Literal

/-- A text in the form of the display: perhaps a minus sign, then zero or digits that no zero leads,
and perhaps a point with up to five digits behind it that no zero ends. Zero has no sign. -/
def PlainText (text : List Char) : Prop :=
  ∃ negative, ∃ literal : Literal,
    text = Literal.minus negative ++ literal.text ∧ literal.IsPlain ∧ text ≠ ['-', '0']

namespace Decimal

theorem IsCanonical.plain {number : Decimal} (canonical : number.IsCanonical)
    (short : number.places ≤ maxFractionDigits) : PlainText number.text := by
  refine ⟨number.negative, .ofDecimal number, Literal.text_of_decimal number, ?_, ?_⟩
  · refine ⟨to_digits_leads_plainly _, Literal.closed_of_decimal number, ?_, ?_⟩
    · rw [Literal.fraction_of_decimal, low_digits_length]
      exact short
    · rw [Literal.fraction_of_decimal]
      obtain ⟨negative, digits, places⟩ := number
      cases places with
      | zero => simp [lowDigits]
      | succ places =>
          rw [last_low_digits, ne_eq, Option.some.injEq, Nat.digitChar_eq_zero]
          exact canonical.trimmed (Nat.succ_ne_zero places)
  · intro signed
    have reads := of_literal_text number
    rw [signed] at reads
    have zero : number = ⟨true, 0, 0⟩ := (Option.some.inj reads).symm
    rw [zero] at canonical
    exact absurd (canonical.unsigned rfl) (by decide)

end Decimal

theorem PlainText.canonical {text : List Char} (plain : PlainText text) {number : Decimal}
    (reads : Decimal.ofLiteral? text = some number) : number.IsCanonical ∧ number.text = text := by
  obtain ⟨negative, literal, rfl, shape, unsigned⟩ := plain
  rw [Literal.of_literal_signed] at reads
  rw [← Option.some.inj reads]
  exact ⟨shape.canonical unsigned, shape.text_decimal negative⟩

/-- The text is in the form of the display and denotes the whole number of steps that is nearest to
a number. -/
structure Shows (exact : ℚ) (text : List Char) : Prop where
  plain : PlainText text
  denotes : ∃ number, ∃ steps : ℤ, Decimal.ofLiteral? text = some number ∧
    number.toRat = steps / 10 ^ maxFractionDigits ∧ Nearest (exact * 10 ^ maxFractionDigits) steps

theorem Shows.of_nearest {exact : ℚ} {steps : ℤ}
    (nearest : Nearest (exact * 10 ^ maxFractionDigits) steps) :
    Shows exact (Decimal.ofSteps steps).text where
  plain := (Decimal.canonical_of_steps steps).plain (Decimal.trim_places_le _ _ _)
  denotes := ⟨_, steps, Decimal.of_literal_text _, Decimal.to_rat_of_steps steps, nearest⟩

theorem Shows.unique {exact : ℚ} {text other : List Char} (first : Shows exact text)
    (second : Shows exact other) : text = other := by
  obtain ⟨number, steps, reads, denotes, nearest⟩ := first.denotes
  obtain ⟨otherNumber, otherSteps, otherReads, otherDenotes, otherNearest⟩ := second.denotes
  obtain ⟨canonical, written⟩ := first.plain.canonical reads
  obtain ⟨otherCanonical, otherWritten⟩ := second.plain.canonical otherReads
  have same : number.toRat = otherNumber.toRat := by
    rw [denotes, otherDenotes, nearest.unique otherNearest]
  rw [← written, ← otherWritten, Decimal.eq_of_canonical canonical otherCanonical same]

/-- The units are a power of two, so the five factors 5 of a step are in the odd number. -/
theorem odd_of_tie {total steps : ℤ} {unit : Nat} (positive : 0 < unit)
    (coprime : Nat.Coprime 3125 unit)
    (tie : (total : ℚ) / unit * 10 ^ maxFractionDigits = steps + 1 / 2) :
    ∃ odd : ℤ, Odd odd ∧ (total : ℚ) / unit = odd / 64 := by
  have scale : (unit : ℚ) ≠ 0 := Nat.cast_ne_zero.mpr positive.ne'
  have crossed : total * 64 * 3125 = (2 * steps + 1) * unit := by
    have rational : (total : ℚ) * 64 * 3125 = (2 * steps + 1) * unit := by
      have halves : 2 * (steps : ℚ) + 1 = 2 * (steps + 1 / 2) := by ring
      rw [halves, ← tie, maxFractionDigits]
      field_simp
      ring
    exact_mod_cast rational
  have divides : (3125 : ℤ) ∣ 2 * steps + 1 :=
    (Nat.isCoprime_iff_coprime.mpr coprime).dvd_of_dvd_mul_right (Dvd.intro_left _ crossed)
  obtain ⟨odd, factors⟩ := divides
  refine ⟨odd, ?_, ?_⟩
  · have product : Odd (3125 * odd) := factors ▸ odd_two_mul_add_one steps
    exact (Int.odd_mul.mp product).2
  · have same : total * 64 = odd * unit := by
      apply mul_right_cancel₀ (show (3125 : ℤ) ≠ 0 by decide)
      rw [crossed, factors]
      ring
    rw [div_eq_div_iff scale (by norm_num)]
    exact_mod_cast same

theorem tie_iff_odd {value : Binary64} {exact : ℚ} (found : value.rational? = some exact) :
    (∃ steps : ℤ, exact * 10 ^ maxFractionDigits = steps + 1 / 2) ↔
      ∃ odd : ℤ, Odd odd ∧ exact = odd / 64 := by
  constructor
  · rintro ⟨steps, tie⟩
    obtain ⟨negative, units, -, -, rfl⟩ := Binary64.finite_of_rational found
    exact odd_of_tie Binary64.units_per_one_positive (Nat.Coprime.pow_right _ (by decide)) tie
  · rintro ⟨odd, ⟨half, rfl⟩, rfl⟩
    refine ⟨3125 * half + 1562, ?_⟩
    rw [maxFractionDigits]
    push_cast
    ring

def NonFinite.value : NonFinite → Binary64
  | .nan => .nan
  | .infinity negative => .infinity negative

theorem Binary64.display_text_error (value : Binary64) (cause : NonFinite) :
    value.displayText = .error cause ↔ value = cause.value := by
  cases value with
  | nan => cases cause <;> simp [displayText, displayed, Except.map, NonFinite.value]
  | infinity negative => cases cause <;> simp [displayText, displayed, Except.map, NonFinite.value]
  | finite negative units representable =>
      cases cause <;> simp [displayText, displayed, Except.map, NonFinite.value]

/-- Only what is not finite has no text. A finite value has the one text in the form of the display
that denotes the nearest whole number of steps; the values between two such numbers, which go to
the even one, are the odd multiples of 1/64. -/
theorem display_text_nearest (value : Binary64) :
    (∀ cause, value.displayText = .error cause ↔ value = cause.value) ∧
      ∀ exact, value.rational? = some exact →
        (∃ text, value.displayText = .ok text ∧ Shows exact text ∧
          ∀ other, Shows exact other → other = text) ∧
        ((∃ steps : ℤ, exact * 10 ^ maxFractionDigits = steps + 1 / 2) ↔
          ∃ odd : ℤ, Odd odd ∧ exact = odd / 64) := by
  refine ⟨value.display_text_error, fun exact found => ⟨?_, tie_iff_odd found⟩⟩
  obtain ⟨steps, nearest⟩ := Binary64.exists_nearest_steps found
  have shows := Shows.of_nearest nearest
  refine ⟨_, ?_, shows, fun other otherShows => otherShows.unique shows⟩
  rw [Binary64.displayText, Binary64.displayed_of_nearest found nearest]
  rfl

/-- A negative tie: the steps are -1562.5, and the even number of them is shown. -/
theorem display_text_nearest_tie :
    (Binary64.ofBits 0xBF90000000000000#64).displayText = .ok "-0.01562".toList ∧
      Shows (-1 / 64) "-0.01562".toList := by
  have written : (Binary64.ofBits 0xBF90000000000000#64).displayText = .ok "-0.01562".toList := by
    decide +kernel
  have found : (Binary64.ofBits 0xBF90000000000000#64).rational? = some (-1 / 64) := by
    have value : Binary64.ofBits 0xBF90000000000000#64 =
        .finite true (2 ^ (1068 : Nat)) (by decide +kernel) := by
      decide +kernel
    have whole : Binary64.unitsPerOne = 2 ^ (1068 : Nat) * 64 := by decide +kernel
    have positive := Nat.two_pow_pos 1068
    rw [value, Binary64.rational?, Binary64.signed_eq_sign_mul, whole]
    generalize 2 ^ (1068 : Nat) = part at positive ⊢
    rw [Nat.cast_mul, Binary64.sign, if_pos rfl, mul_comm,
      mul_div_mul_left _ _ (Nat.cast_ne_zero.mpr positive.ne')]
    rfl
  obtain ⟨⟨text, shown, shows, -⟩, -⟩ := (display_text_nearest _).2 _ found
  rw [← Except.ok.inj (shown.symm.trans written)]
  exact ⟨shown, shows⟩

end Keypad
