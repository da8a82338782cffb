import Keypad.Proofs.Chain.Simulation
import Keypad.Proofs.Decimal.Digits
import Keypad.Proofs.Decimal.Scaling
import Keypad.Proofs.Display.Evaluation
import Keypad.Proofs.Reduction.Values

/-!
Zeros that change nothing but the display. In front of the digits of a literal and behind its
fraction they leave its value as it is, and an evaluation sees the values of complete numbers only.
-/

namespace Keypad

namespace Literal

/-- Zeros behind the fraction. A number without a point gets one if there are any. -/
def padFraction (fraction : Option (List Char)) : Nat → Option (List Char)
  | 0 => fraction
  | behind + 1 => some (fraction.getD [] ++ List.replicate (behind + 1) '0')

theorem digits_of_pad_fraction (fraction : Option (List Char)) (behind : Nat) :
    (padFraction fraction behind).getD [] = fraction.getD [] ++ List.replicate behind '0' := by
  cases behind with
  | zero => rw [padFraction, List.replicate_zero, List.append_nil]
  | succ behind => rfl

theorem zeros_are_digits (count : Nat) :
    ∀ character ∈ List.replicate count '0', character.isDigit = true := by
  intro character member
  rw [List.eq_of_mem_replicate member]
  rfl

/-- The literal with zeros in front of its digits and behind its fraction. -/
def padded (literal : Literal) (front behind : Nat) : Literal where
  whole := List.replicate front '0' ++ literal.whole
  fraction := padFraction literal.fraction behind
  nonempty := List.append_ne_nil_of_right_ne_nil _ literal.nonempty
  wholeDigits := List.forall_mem_append.mpr ⟨zeros_are_digits front, literal.wholeDigits⟩
  fractionDigits := by
    rw [digits_of_pad_fraction]
    exact List.forall_mem_append.mpr ⟨literal.fractionDigits, zeros_are_digits behind⟩

theorem closed_padded {literal : Literal} (closed : literal.IsClosed) (front behind : Nat) :
    (literal.padded front behind).IsClosed := by
  cases behind with
  | zero => exact closed
  | succ behind => simp [IsClosed, padded, padFraction]

theorem decimal_padded (negative : Bool) (literal : Literal) (front behind : Nat) :
    (literal.padded front behind).decimal negative =
      ⟨negative, (literal.decimal negative).digits * 10 ^ behind,
        (literal.decimal negative).places + behind⟩ := by
  have digits := Decimal.of_digit_chars_padded front behind
    (literal.whole ++ literal.fraction.getD [])
  rw [decimal, padded, digits_of_pad_fraction, List.length_append, List.length_replicate, decimal,
    ← digits]
  simp only [List.append_assoc]

theorem value_padded (negative : Bool) (literal : Literal) (front behind : Nat) :
    ((literal.padded front behind).numeral negative).value = (literal.numeral negative).value := by
  have denoted : ((literal.padded front behind).numeral negative).decimal =
      ⟨negative, (literal.decimal negative).digits * 10 ^ behind,
        (literal.decimal negative).places + behind⟩ := decimal_padded negative literal front behind
  have typed : (literal.numeral negative).decimal = literal.decimal negative := rfl
  rw [Numeral.value, Numeral.value, denoted, typed]
  apply Decimal.value_of_same
  · rfl
  · rw [Nat.pow_add, Nat.mul_assoc, Nat.mul_comm (10 ^ behind)]

/-- The wide literal writes the other with more zeros, in front, behind or on both sides. -/
def IsPadding (literal wide : Literal) : Prop := ∃ front behind, wide = literal.padded front behind

theorem IsPadding.closed {literal wide : Literal} (padding : IsPadding literal wide)
    (closed : literal.IsClosed) : wide.IsClosed := by
  obtain ⟨front, behind, rfl⟩ := padding
  exact closed_padded closed front behind

theorem IsPadding.values {literal wide : Literal} (padding : IsPadding literal wide) :
    (literal.numeral false).value = (wide.numeral false).value := by
  obtain ⟨front, behind, rfl⟩ := padding
  exact (literal.value_padded false front behind).symm

end Literal

namespace Chain

theorem closed_steps_of_padding {rest wideRest : List (Operator × Literal)}
    (padding : List.Forall₂ (StepRelated Literal.IsPadding) rest wideRest)
    (closed : ∀ step ∈ rest, step.2.IsClosed) : ∀ step ∈ wideRest, step.2.IsClosed := by
  induction padding with
  | nil => exact closed
  | cons here later induction =>
      obtain ⟨own, further⟩ := List.forall_mem_cons.mp closed
      exact List.forall_mem_cons.mpr ⟨here.2.closed own, induction further⟩

theorem meanings_of_values {rest others : List (Operator × Numeral)}
    (values : List.Forall₂ (StepRelated fun numeral other => numeral.value = other.value)
      rest others) :
    (stepTokens rest).map Token.meaning = (stepTokens others).map Token.meaning := by
  induction values with
  | nil => rfl
  | @cons step other rest others here later induction =>
      obtain ⟨sign, operand⟩ := step
      obtain ⟨_, otherOperand⟩ := other
      obtain ⟨rfl, same⟩ := here
      rw [step_tokens_cons, step_tokens_cons]
      simp only [List.map_cons, Token.meaning, same, induction]

theorem meanings_of_padding {chain wide : Chain Literal}
    (padding : Related Literal.IsPadding chain wide) :
    chain.numerals.tokens.map Token.meaning = wide.numerals.tokens.map Token.meaning := by
  have values : Related (fun numeral other => numeral.value = other.value) chain.numerals
      wide.numerals := padding.map _ _ fun _ _ pads => pads.values
  have steps := meanings_of_values values.rest
  rw [tokens, tokens, List.map_cons, List.map_cons, steps, Token.meaning, Token.meaning,
    values.first]

end Chain

/-- Zeros in front of the digits of literals and behind their fractions cannot be noticed in an
evaluation, however many there are. Both expressions can be typed, the same result is written behind
them or they are refused for the same reason, and their reductions agree. -/
theorem padding_unnoticed {chain wide : Chain Literal} (closed : chain.IsClosed)
    (operated : chain.rest ≠ []) (padding : Chain.Related Literal.IsPadding chain wide) :
    Calculator.new.pressAll chain.keys = .ok ⟨chain.text Literal.text⟩ ∧
      Calculator.new.pressAll wide.keys = .ok ⟨wide.text Literal.text⟩ ∧
      Calculator.EvaluatesLike ⟨chain.text Literal.text⟩ ⟨wide.text Literal.text⟩ ∧
      Expression.reduce chain.numerals.tokens = Expression.reduce wide.numerals.tokens := by
  have wideClosed : wide.IsClosed :=
    ⟨padding.first.closed closed.1, Chain.closed_steps_of_padding padding.rest closed.2⟩
  have wideOperated : wide.rest ≠ [] := by
    intro none
    have steps := padding.rest
    rw [none] at steps
    exact operated (List.forall₂_nil_right_iff.mp steps)
  have enough : 2 ≤ chain.numerals.tokens.length :=
    Nat.le_of_succ_le (chain.numerals.enough_tokens (chain.operated_numerals operated))
  have meanings := Chain.meanings_of_padding padding
  have reductions := Expression.reduce_of_meanings meanings enough
  refine ⟨Draft.press_chain chain closed, Draft.press_chain wide wideClosed, ?_, reductions⟩
  rw [← chain.text_numerals, ← wide.text_numerals]
  apply Calculator.evaluates_like_of_chains (chain.complete_numerals closed)
    (wide.complete_numerals wideClosed) (chain.operated_numerals operated)
    (wide.operated_numerals wideOperated) (Expression.divides_by_zero_of_meanings meanings)
  rw [← Expression.reduce_tokens_eq_value, ← Expression.reduce_tokens_eq_value, reductions]

/-- A whole number that gets a fraction, and a fraction that gets longer. -/
theorem padding_unnoticed_quotient : ∃ chain wide : Chain Literal,
    chain.IsClosed ∧ Chain.Related Literal.IsPadding chain wide ∧
      Calculator.new.pressAll chain.keys = .ok ⟨"7 ÷ 2.5".toList⟩ ∧
      Calculator.new.pressAll wide.keys = .ok ⟨"007.00 ÷ 2.500".toList⟩ ∧
      Calculator.EvaluatesLike ⟨"7 ÷ 2.5".toList⟩ ⟨"007.00 ÷ 2.500".toList⟩ ∧
      Calculator.evaluate ⟨"007.00 ÷ 2.500".toList⟩ = .ok ⟨"007.00 ÷ 2.500 = 2.8".toList⟩ := by
  let seven : Literal := ⟨['7'], none, by simp, by simp, by simp⟩
  let half : Literal := ⟨['2'], some ['5'], by simp, by simp, by simp⟩
  let chain : Chain Literal := ⟨seven, [(.divide, half)]⟩
  let wide : Chain Literal := ⟨seven.padded 2 2, [(.divide, half.padded 0 2)]⟩
  have closed : chain.IsClosed := ⟨by decide, by decide⟩
  have padding : Chain.Related Literal.IsPadding chain wide :=
    ⟨⟨2, 2, rfl⟩, .cons ⟨rfl, 0, 2, rfl⟩ .nil⟩
  have typed : chain.text Literal.text = "7 ÷ 2.5".toList := by decide
  have wideTyped : wide.text Literal.text = "007.00 ÷ 2.500".toList := by decide
  obtain ⟨keys, wideKeys, like, -⟩ := padding_unnoticed closed (List.cons_ne_nil _ _) padding
  rw [typed] at keys like
  rw [wideTyped] at wideKeys like
  exact ⟨chain, wide, closed, padding, keys, wideKeys, like, ok_of_to_option (by decide +kernel)⟩

end Keypad
