import Keypad.Proofs.Decimal.Vanishing
import Keypad.Proofs.Display.Evaluation

/-!
Which divisors an evaluation is refused for. The check compares values with zero, so it finds the
literals that are all zeros and also those that underflow to zero. A refusal for a division by zero
comes from this check and from nowhere else, since the reduction divides by typed numbers only.
-/

namespace Keypad

namespace Expression

theorem divides_by_zero_reasons (tokens : Expression) :
    tokens.dividesByZero = true ↔ ∃ divisor, tokens.HasDivisor divisor ∧
      (divisor.IsLiteralZero ∨ divisor.decimal.Underflows) := by
  simp only [divides_by_zero_iff, Numeral.is_zero_value]

theorem divides_by_literal_zero {tokens : Expression}
    (short : ∀ divisor, tokens.HasDivisor divisor → divisor.decimal.places ≤ 323) :
    tokens.dividesByZero = true ↔
      ∃ divisor, tokens.HasDivisor divisor ∧ divisor.IsLiteralZero := by
  rw [divides_by_zero_reasons]
  constructor
  · rintro ⟨divisor, divides, literal | underflows⟩
    · exact ⟨divisor, divides, literal⟩
    · have long := Decimal.places_of_underflows underflows
      exact absurd (short divisor divides) (Nat.not_le_of_lt long)
  · rintro ⟨divisor, divides, literal⟩
    exact ⟨divisor, divides, .inl literal⟩

end Expression

theorem ReductionError.division_by_zero_of_rejection (cause : ReductionError)
    (reported : cause.rejection = .divideByZero) : cause = .divisionByZero := by
  cases cause with
  | divisionByZero => rfl
  | token _ => contradiction
  | missingOperand _ => contradiction
  | nonFinite _ => contradiction
  | noOperator _ => contradiction

namespace Calculator

theorem reason_of_guard {reasons : List (Bool × Rejection)} {reason : Rejection}
    (refused : guardAll reasons = .error reason) : (true, reason) ∈ reasons := by
  unfold guardAll at refused
  split at refused
  · rename_i found first
    cases refused
    have held : found.1 = true := List.find?_some first
    exact held ▸ List.mem_of_find?_eq_some first
  · contradiction

/-- Neither another check nor an outcome that is not finite is reported as a division by zero. -/
theorem zero_divisor_of_refused {calculator : Calculator} {tokens : Expression}
    (read : calculator.tokens = .ok tokens) (refused : calculator.evaluate = .error .divideByZero) :
    tokens.dividesByZero = true := by
  rw [evaluate, expression_of_tokens read, ok_bind] at refused
  rcases error_of_bind refused with guarded | ⟨_, -, failed⟩
  · simpa using reason_of_guard guarded
  · rcases error_of_bind failed with reduction | ⟨result, -, impossible⟩
    · obtain ⟨cause, reduced, reported⟩ := error_of_map_error reduction
      apply Expression.divides_by_zero_of_reduction
      rw [reduced, cause.division_by_zero_of_rejection reported]
    · contradiction

end Calculator

/-- The check for zero divisors finds the literals that are all zeros and the numbers that
underflow, and every refusal for a division by zero comes from it. Where the divisors have no more
than 323 fractional places, it finds the literal zeros and nothing else. -/
theorem zero_divisors_in_text {text : List Char} {tokens : Expression}
    (read : tokenize text = .ok tokens) :
    (tokens.dividesByZero = true ↔ ∃ divisor, tokens.HasDivisor divisor ∧
      (divisor.IsLiteralZero ∨ divisor.decimal.Underflows)) ∧
    (Calculator.evaluate ⟨text⟩ = .error .divideByZero → ∃ divisor, tokens.HasDivisor divisor ∧
      (divisor.IsLiteralZero ∨ divisor.decimal.Underflows)) ∧
    ((∀ divisor, tokens.HasDivisor divisor → divisor.decimal.places ≤ 323) →
      (tokens.dividesByZero = true ↔
        ∃ divisor, tokens.HasDivisor divisor ∧ divisor.IsLiteralZero) ∧
      (Calculator.evaluate ⟨text⟩ = .error .divideByZero →
        ∃ divisor, tokens.HasDivisor divisor ∧ divisor.IsLiteralZero)) := by
  have refused : Calculator.evaluate ⟨text⟩ = .error .divideByZero → tokens.dividesByZero = true :=
    Calculator.zero_divisor_of_refused read
  refine ⟨tokens.divides_by_zero_reasons, ?_, fun short => ?_⟩
  · rw [← tokens.divides_by_zero_reasons]
    exact refused
  · rw [← Expression.divides_by_literal_zero short]
    exact ⟨Iff.rfl, refused⟩

/-- Zeros on both sides of the point, behind another operation. -/
theorem zero_divisors_in_text_zeros : ∃ tokens : Expression,
    tokenize "6 + 5 ÷ 00.0".toList = .ok tokens ∧
      (∀ divisor, tokens.HasDivisor divisor → divisor.decimal.places ≤ 323) ∧
      Calculator.evaluate ⟨"6 + 5 ÷ 00.0".toList⟩ = .error .divideByZero ∧
      ∃ divisor, tokens.HasDivisor divisor ∧ divisor.IsLiteralZero := by
  let five : Literal := ⟨['5'], none, by simp, by simp, by simp⟩
  let six : Literal := ⟨['6'], none, by simp, by simp, by simp⟩
  let zeros : Literal := ⟨['0', '0'], some ['0'], by simp, by simp, by simp⟩
  let chain : Chain Literal := ⟨six, [(.add, five), (.divide, zeros)]⟩
  have closed : chain.IsClosed := ⟨by decide, by decide⟩
  have read := chain.numerals.tokenize_chain
  have short (divisor : Numeral) (divides : chain.numerals.tokens.HasDivisor divisor) :
      divisor.decimal.places ≤ 323 := by
    have member := (chain.numerals.has_divisor_tokens divisor).mp divides
    obtain rfl : divisor = zeros.numeral false := by
      simpa [chain, Chain.numerals, Chain.map] using member
    decide
  have divides : chain.numerals.tokens.dividesByZero = true := by decide +kernel
  have refused := Calculator.evaluate_chain chain.numerals (chain.complete_numerals closed)
    (List.cons_ne_nil _ _)
  rw [divides] at refused
  exact ⟨_, read, short, refused, ((zero_divisors_in_text read).2.2 short).2 refused⟩

/-- A divisor that is not zero is refused as one: 10^-324 is less than half of the smallest positive
value. -/
theorem vanishing_divisor_refused : ∃ tokens : Expression,
    tokenize ("1 ÷ 0.".toList ++ List.replicate 323 '0' ++ ['1']) = .ok tokens ∧
      tokens.dividesByZero = true ∧
      Calculator.evaluate ⟨"1 ÷ 0.".toList ++ List.replicate 323 '0' ++ ['1']⟩ =
        .error .divideByZero ∧
      ¬∃ divisor, tokens.HasDivisor divisor ∧ divisor.IsLiteralZero := by
  let one : Literal := ⟨['1'], none, by simp, by simp, by simp⟩
  let tiny : Literal := ⟨['0'], some (List.replicate 323 '0' ++ ['1']), by simp, by simp,
    List.all_eq_true.mp (by decide +kernel)⟩
  let chain : Chain Literal := ⟨one, [(.divide, tiny)]⟩
  have closed : chain.IsClosed := ⟨by decide, by decide⟩
  have written : chain.numerals.text Numeral.literal =
      "1 ÷ 0.".toList ++ List.replicate 323 '0' ++ ['1'] := by decide +kernel
  have divides : chain.numerals.tokens.dividesByZero = true := by decide +kernel
  have refused := Calculator.evaluate_chain chain.numerals (chain.complete_numerals closed)
    (List.cons_ne_nil _ _)
  rw [divides, written] at refused
  refine ⟨chain.numerals.tokens, written ▸ chain.numerals.tokenize_chain, divides, refused, ?_⟩
  rintro ⟨divisor, member, zeros⟩
  rw [chain.numerals.has_divisor_tokens] at member
  obtain rfl : divisor = tiny.numeral false := by
    simpa [chain, Chain.numerals, Chain.map] using member
  have last : '1' ∈ (tiny.numeral false).literal := by decide +kernel
  exact absurd (zeros '1' last rfl) (by decide)

end Keypad
