import Mathlib.Data.List.Basic
import Mathlib.Data.List.Induction
import Keypad.Decimal.Literal

/-!
Digits and the number that they write. Written again with as many digits, the number gives back
every text of digits; written as it is, it gives back those that no zero stands in front of.
-/

namespace Keypad.Decimal

theorem digit_value_lt_ten {digit : Char} (isDigit : digit.isDigit = true) :
    digit.toNat - '0'.toNat < 10 := by
  obtain ⟨low, high⟩ := Char.isDigit_iff_toNat.mp isDigit
  have bounds : 48 ≤ digit.toNat ∧ digit.toNat ≤ 57 := ⟨low, high⟩
  change digit.toNat - 48 < 10
  omega

theorem digit_char_of_digit {digit : Char} (isDigit : digit.isDigit = true) :
    Nat.digitChar (digit.toNat - '0'.toNat) = digit := by
  obtain ⟨low, high⟩ := Char.isDigit_iff_toNat.mp isDigit
  have bounds : 48 ≤ digit.toNat ∧ digit.toNat ≤ 57 := ⟨low, high⟩
  apply Char.toNat_inj.mp
  change (Nat.digitChar (digit.toNat - 48)).toNat = _
  rw [Nat.toNat_digitChar_of_lt_ten (by omega)]
  omega

theorem of_digit_chars_concat (front : List Char) (last : Char) (start : Nat) :
    Nat.ofDigitChars 10 (front ++ [last]) start =
      10 * Nat.ofDigitChars 10 front start + (last.toNat - '0'.toNat) := by
  rw [Nat.ofDigitChars_append, Nat.ofDigitChars_cons, Nat.ofDigitChars_nil]

theorem of_digit_chars_concat_div {last : Char} (isDigit : last.isDigit = true)
    (front : List Char) (start : Nat) :
    Nat.ofDigitChars 10 (front ++ [last]) start / 10 = Nat.ofDigitChars 10 front start := by
  have small := digit_value_lt_ten isDigit
  rw [of_digit_chars_concat]
  omega

theorem of_digit_chars_concat_mod {last : Char} (isDigit : last.isDigit = true)
    (front : List Char) (start : Nat) :
    Nat.digitChar (Nat.ofDigitChars 10 (front ++ [last]) start % 10) = last := by
  have small := digit_value_lt_ten isDigit
  have ones : Nat.ofDigitChars 10 (front ++ [last]) start % 10 = last.toNat - '0'.toNat := by
    rw [of_digit_chars_concat]
    omega
  rw [ones, digit_char_of_digit isDigit]

/-- Zeros in front count nothing, and each one behind counts a factor of ten. -/
theorem of_digit_chars_padded (front behind : Nat) (digits : List Char) :
    Nat.ofDigitChars 10 (List.replicate front '0' ++ digits ++ List.replicate behind '0') 0 =
      Nat.ofDigitChars 10 digits 0 * 10 ^ behind := by
  rw [Nat.ofDigitChars_append, Nat.ofDigitChars_append, Nat.ofDigitChars_replicate_zero,
    Nat.ofDigitChars_replicate_zero, Nat.mul_zero, Nat.mul_comm]

theorem last_of_digit_chars {digits : List Char} (nonempty : digits ≠ [])
    (valid : ∀ character ∈ digits, character.isDigit = true) (start : Nat) :
    digits.getLast? = some (Nat.digitChar (Nat.ofDigitChars 10 digits start % 10)) := by
  have isDigit := valid _ (List.getLast_mem nonempty)
  have rejoined := List.dropLast_append_getLast nonempty
  rw [List.getLast?_eq_some_getLast nonempty]
  generalize digits.getLast nonempty = last at isDigit rejoined ⊢
  rw [← rejoined, of_digit_chars_concat_mod isDigit]

theorem last_low_digits (count number : Nat) :
    (lowDigits (count + 1) number).getLast? = some (Nat.digitChar (number % 10)) := by
  rw [lowDigits, List.getLast?_concat]

section Behind

variable {digits : List Char} (valid : ∀ character ∈ digits, character.isDigit = true)
  (start : Nat)

include valid

theorem low_digits_of_digit_chars :
    lowDigits digits.length (Nat.ofDigitChars 10 digits start) = digits := by
  induction digits using List.reverseRecOn with
  | nil => rfl
  | append_singleton front last induction =>
      obtain ⟨earlier, final⟩ := List.forall_mem_append.mp valid
      have isDigit := final last (List.mem_singleton_self last)
      rw [List.length_append, List.length_singleton, lowDigits,
        of_digit_chars_concat_div isDigit, of_digit_chars_concat_mod isDigit, induction earlier]

/-- What the digits behind are worth is less than one of the places before them. -/
theorem of_digit_chars_div : Nat.ofDigitChars 10 digits start / 10 ^ digits.length = start := by
  induction digits using List.reverseRecOn with
  | nil => simp
  | append_singleton front last induction =>
      obtain ⟨earlier, final⟩ := List.forall_mem_append.mp valid
      have isDigit := final last (List.mem_singleton_self last)
      rw [List.length_append, List.length_singleton, Nat.pow_succ', ← Nat.div_div_eq_div_mul,
        of_digit_chars_concat_div isDigit, induction earlier]

end Behind

/-- No zero stands in front of another digit. -/
def LeadsPlainly (digits : List Char) : Prop := digits = ['0'] ∨ digits.head? ≠ some '0'

theorem to_digits_leads_plainly (number : Nat) : LeadsPlainly (Nat.toDigits 10 number) := by
  induction number using Nat.strongRecOn with
  | ind number induction =>
      rw [Nat.toDigits_eq_if (by decide)]
      split
      · by_cases zero : number = 0
        · left
          rw [zero]
          rfl
        · right
          rw [List.head?_singleton, ne_eq, Option.some.injEq, Nat.digitChar_eq_zero]
          exact zero
      · rename_i large
        right
        rw [List.head?_append_of_ne_nil _ Nat.toDigits_ne_nil]
        rcases induction (number / 10) (by omega) with zero | leading
        · have none_left := congrArg (Nat.ofDigitChars 10 · 0) zero
          simp only [Nat.ofDigitChars_ten_toDigits] at none_left
          have nothing : number / 10 = 0 := none_left
          omega
        · exact leading

/-- The induction takes off the last digit, as writing a number does. -/
theorem to_digits_of_digit_chars {digits : List Char} (nonempty : digits ≠ [])
    (valid : ∀ character ∈ digits, character.isDigit = true) (leading : LeadsPlainly digits) :
    Nat.toDigits 10 (Nat.ofDigitChars 10 digits 0) = digits := by
  induction digits using List.reverseRecOn with
  | nil => contradiction
  | append_singleton front last induction =>
      obtain ⟨earlier, final⟩ := List.forall_mem_append.mp valid
      have isDigit := final last (List.mem_singleton_self last)
      by_cases single : front = []
      · subst single
        have value : Nat.ofDigitChars 10 ([] ++ [last]) 0 = last.toNat - '0'.toNat := by
          rw [of_digit_chars_concat, Nat.ofDigitChars_nil, Nat.mul_zero, Nat.zero_add]
        rw [value, Nat.toDigits_of_lt_base (digit_value_lt_ten isDigit),
          digit_char_of_digit isDigit]
        rfl
      · have head : front.head? ≠ some '0' := by
          rcases leading with zero | nonzero
          · have length := congrArg List.length zero
            have positive := List.length_pos_iff.mpr single
            simp only [List.length_append, List.length_singleton] at length
            omega
          · rwa [List.head?_append_of_ne_nil _ single] at nonzero
        have written := induction single earlier (.inr head)
        have positive : Nat.ofDigitChars 10 front 0 ≠ 0 := by
          intro zero
          rw [zero, Nat.toDigits_zero] at written
          exact head (congrArg List.head? written).symm
        have large : 10 ≤ Nat.ofDigitChars 10 (front ++ [last]) 0 := by
          rw [of_digit_chars_concat]
          omega
        rw [Nat.toDigits_of_base_le (by decide) large, of_digit_chars_concat_div isDigit,
          of_digit_chars_concat_mod isDigit, written]

end Keypad.Decimal
