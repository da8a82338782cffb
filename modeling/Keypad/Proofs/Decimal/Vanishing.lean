import Keypad.Numeral
import Keypad.Proofs.Decimal.Digits

/-!
Which numbers have zero as their value. Rounding to the format loses a number that is not zero when
it is at most half of the smallest positive value, so a literal whose digits are not all zero can
have the value zero. It takes more than 323 fractional places to write one.
-/

namespace Keypad

theorem round_div_eq_zero (numerator denominator : Nat) (positive : 0 < denominator) :
    roundDiv numerator denominator = 0 ↔ 2 * numerator ≤ denominator := by
  constructor
  · intro zero
    have lower := le_round_div_mul numerator denominator positive
    rw [zero, Nat.zero_mul] at lower
    exact Nat.le_trans lower (Nat.le_of_eq (Nat.zero_add _))
  · intro low
    have small : numerator < denominator := by omega
    simp only [roundDiv, Nat.div_eq_of_lt small, Nat.mod_eq_of_lt small]
    rw [if_neg (Nat.not_lt_of_le low)]
    split <;> rfl

namespace Binary64

theorem spacing_le {units : Nat} (nonzero : units ≠ 0) : spacing units ≤ units :=
  Nat.le_trans (Nat.pow_le_pow_right (by decide) (Nat.sub_le _ _)) (Nat.log2_self_le nonzero)

/-- Below one unit the spacing is a unit, and from there on nothing is rounded to zero. -/
theorem round_units_eq_zero (numerator denominator : Nat) (positive : 0 < denominator) :
    roundUnits numerator denominator = 0 ↔ 2 * numerator ≤ denominator := by
  by_cases below : numerator / denominator = 0
  · have unit : spacing 0 = 1 := rfl
    rw [roundUnits, below, unit, Nat.mul_one, Nat.mul_one]
    exact round_div_eq_zero numerator denominator positive
  · have reached := Nat.mul_div_le numerator denominator
    have whole := Nat.mul_le_mul_left denominator (Nat.pos_of_ne_zero below)
    have lattice := Nat.mul_le_mul_left denominator (spacing_le below)
    have near := (round_units_near numerator denominator positive).2
    constructor
    · intro zero
      rw [zero, Nat.zero_mul] at near
      omega
    · omega

theorem is_zero_of_quotient (negative : Bool) (numerator denominator : Nat)
    (positive : 0 < denominator) :
    (ofQuotient negative numerator denominator positive).isZero = true ↔
      2 * numerator ≤ denominator := by
  rw [← round_units_eq_zero numerator denominator positive, ofQuotient]
  split
  · exact beq_iff_eq
  · rename_i beyond
    constructor
    · intro impossible
      contradiction
    · intro zero
      rw [zero] at beyond
      exact absurd unit_limit_positive beyond

end Binary64

namespace Decimal

/-- Not zero, but too close to it for the format. -/
def Underflows (number : Decimal) : Prop :=
  number.digits ≠ 0 ∧ 2 * (number.digits * Binary64.unitsPerOne) ≤ 10 ^ number.places

theorem is_zero_value (number : Decimal) :
    number.value.isZero = true ↔ number.digits = 0 ∨ number.Underflows := by
  rw [value, Binary64.is_zero_of_quotient, Underflows]
  by_cases zero : number.digits = 0
  · simp [zero]
  · simp [zero]

/-- Half of the smallest positive value needs more places than 323. -/
theorem places_of_underflows {number : Decimal} (underflows : number.Underflows) :
    323 < number.places := by
  obtain ⟨nonzero, low⟩ := underflows
  have one := Nat.mul_le_mul_right Binary64.unitsPerOne (Nat.pos_of_ne_zero nonzero)
  have bound : 10 ^ (323 : Nat) < 2 * (1 * Binary64.unitsPerOne) := by decide +kernel
  apply (Nat.pow_lt_pow_iff_right (by decide : 1 < 10)).mp
  omega

theorem of_digit_chars_eq_zero {digits : List Char}
    (valid : ∀ character ∈ digits, character.isDigit = true) :
    Nat.ofDigitChars 10 digits 0 = 0 ↔ ∀ character ∈ digits, character = '0' := by
  induction digits using List.reverseRecOn with
  | nil => simp
  | append_singleton front last induction =>
      obtain ⟨earlier, final⟩ := List.forall_mem_append.mp valid
      have written := digit_char_of_digit (final last (List.mem_singleton_self last))
      have ones : last.toNat - '0'.toNat = 0 ↔ last = '0' := by
        rw [← Nat.digitChar_eq_zero, written]
      rw [of_digit_chars_concat, List.forall_mem_append, List.forall_mem_singleton, ← ones,
        ← induction earlier]
      omega

theorem digits_of_of_literal {literal : List Char} {number : Decimal}
    (found : ofLiteral? literal = some number) :
    number.digits = Nat.ofDigitChars 10 (literal.filter Char.isDigit) 0 := by
  have unsigned {negative : Bool} {rest : List Char}
      (found : ofUnsigned? negative rest = some number) :
      number.digits = Nat.ofDigitChars 10 (rest.filter Char.isDigit) 0 := by
    obtain ⟨whole, fraction, -, digits, shape, rfl⟩ := of_unsigned_eq_some found
    have kept := List.filter_eq_self.mpr digits
    rcases shape with rfl | rfl
    · rw [kept]
    · rw [List.filter_append] at kept ⊢
      rw [List.filter_cons_of_neg (by decide), kept]
  unfold ofLiteral? at found
  split at found
  · rw [List.filter_cons_of_neg (by decide)]
    exact unsigned found
  · exact unsigned found

end Decimal

namespace Numeral

def IsLiteralZero (numeral : Numeral) : Prop :=
  ∀ character ∈ numeral.literal, character.isDigit = true → character = '0'

theorem is_literal_zero (numeral : Numeral) :
    numeral.IsLiteralZero ↔ numeral.decimal.digits = 0 := by
  have valid : ∀ character ∈ numeral.literal.filter Char.isDigit, character.isDigit = true :=
    fun character member => (List.mem_filter.mp member).2
  rw [Decimal.digits_of_of_literal numeral.reads, Decimal.of_digit_chars_eq_zero valid,
    IsLiteralZero]
  simp only [List.mem_filter, and_imp]

/-- The value of a numeral is zero for one of two reasons. -/
theorem is_zero_value (numeral : Numeral) :
    numeral.value.isZero = true ↔ numeral.IsLiteralZero ∨ numeral.decimal.Underflows := by
  rw [is_literal_zero]
  exact numeral.decimal.is_zero_value

end Numeral

end Keypad
