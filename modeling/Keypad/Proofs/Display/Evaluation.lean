import Keypad.Proofs.Chain.Reduction
import Keypad.Proofs.Display.Typing
import Keypad.Proofs.Reduction.Divisors

/-!
The evaluation of a chain that stands on the display. The guards of the evaluation are settled by
the form of a chain, so only two of its failures are left: a division by a zero of the chain, and
an operation whose outcome is not finite.
-/

namespace Keypad

namespace Chain

variable {Operand Result Failure : Type}

theorem error_of_fold {combine : Operator → Operand → Operand → Except Failure Operand}
    {chain : Chain Operand} {cause : Failure} (failed : chain.fold combine = .error cause) :
    ∃ sign left right, combine sign left right = .error cause := by
  obtain ⟨first, rest⟩ := chain
  induction rest generalizing first with
  | nil => contradiction
  | cons step rest induction =>
      rw [fold, List.foldlM_cons] at failed
      rcases error_of_bind failed with here | ⟨total, -, later⟩
      · exact ⟨step.1, first, step.2, here⟩
      · exact induction total later

theorem error_of_evaluate_steps {evaluate : Operand → Except Failure Result}
    {rest : List (Operator × Operand)} {cause : Failure}
    (failed : evaluateSteps evaluate rest = .error cause) :
    ∃ operand, evaluate operand = .error cause := by
  induction rest with
  | nil => contradiction
  | cons step rest induction =>
      rcases error_of_bind failed with here | ⟨result, -, failed⟩
      · exact ⟨step.2, here⟩
      · rcases error_of_bind failed with later | ⟨results, -, impossible⟩
        · exact induction later
        · contradiction

theorem error_of_evaluate_each {evaluate : Operand → Except Failure Result}
    {chain : Chain Operand} {cause : Failure}
    (failed : chain.evaluateEach evaluate = .error cause) :
    ∃ operand, evaluate operand = .error cause := by
  rcases error_of_bind failed with here | ⟨first, -, failed⟩
  · exact ⟨chain.first, here⟩
  · rcases error_of_bind failed with later | ⟨rest, -, impossible⟩
    · exact error_of_evaluate_steps later
    · contradiction

theorem error_of_value {chain : Chain Numeral} {cause : ReductionError}
    (failed : chain.value = .error cause) :
    ∃ sign left right, Operator.rounded sign left right = .error cause := by
  rcases error_of_bind failed with term | ⟨terms, -, later⟩
  · obtain ⟨run, inside⟩ := error_of_evaluate_each term
    exact error_of_fold inside
  · exact error_of_fold later

theorem has_divisor_tokens (chain : Chain Numeral) (divisor : Numeral) :
    chain.tokens.HasDivisor divisor ↔ (.divide, divisor) ∈ chain.rest := by
  obtain ⟨first, rest⟩ := chain
  have behind : Expression.HasDivisor (stepTokens rest) divisor ↔ (.divide, divisor) ∈ rest := by
    induction rest with
    | nil => simp [stepTokens, Expression.HasDivisor]
    | cons step rest induction =>
        obtain ⟨sign, operand⟩ := step
        rw [step_tokens_cons, Expression.has_divisor_cons, Expression.has_divisor_cons, induction]
        simp [eq_comm]
  rw [tokens, Expression.has_divisor_cons, behind]
  simp

/-- Somewhere in the chain a division sign stands before a number whose value is zero. -/
def HasZeroDivisor (chain : Chain Numeral) : Prop :=
  ∃ step ∈ chain.rest, step.1 = .divide ∧ step.2.value.isZero = true

theorem divides_by_zero_tokens (chain : Chain Numeral) :
    Expression.dividesByZero chain.tokens = true ↔ chain.HasZeroDivisor := by
  rw [Expression.divides_by_zero_iff, HasZeroDivisor]
  simp only [has_divisor_tokens]
  constructor
  · rintro ⟨divisor, member, zero⟩
    exact ⟨(.divide, divisor), member, rfl, zero⟩
  · rintro ⟨⟨_, divisor⟩, member, rfl, zero⟩
    exact ⟨divisor, member, zero⟩

/-- A chain without a zero divisor has a number as its value, or one of its operations has an
outcome that is not finite. -/
theorem value_without_zero_divisor (chain : Chain Numeral) (allowed : ¬chain.HasZeroDivisor) :
    (∃ outcome, chain.value = .error (.nonFinite outcome)) ∨
      ∃ result, chain.value = .ok result := by
  cases evaluated : chain.value with
  | ok result => exact .inr ⟨result, rfl⟩
  | error cause =>
      obtain ⟨sign, left, right, failed⟩ := error_of_value evaluated
      rw [Operator.rounded] at failed
      split at failed
      · cases failed
        have reduced : Expression.reduce chain.tokens = .error .divisionByZero :=
          (Expression.reduce_tokens_eq_value chain).trans evaluated
        have zero := Expression.divides_by_zero_of_reduction reduced
        exact absurd (chain.divides_by_zero_tokens.mp zero) allowed
      · split at failed
        · rename_i outcome shown
          cases failed
          exact .inl ⟨outcome, rfl⟩
        · contradiction

theorem length_tokens (chain : Chain Numeral) :
    chain.tokens.length = 2 * chain.rest.length + 1 := by
  obtain ⟨first, rest⟩ := chain
  induction rest with
  | nil => rfl
  | cons step rest induction =>
      obtain ⟨sign, operand⟩ := step
      simp only [tokens, step_tokens_cons, List.length_cons] at induction ⊢
      omega

theorem enough_tokens (chain : Chain Numeral) (operated : chain.rest ≠ []) :
    Expression.minOperationTokens ≤ chain.tokens.length := by
  have positive := List.length_pos_iff.mpr operated
  rw [chain.length_tokens, Expression.minOperationTokens]
  omega

theorem result_of_value {chain : Chain Numeral} (operated : chain.rest ≠ []) {result : Numeral}
    (found : chain.value = .ok result) : ∃ number, result = .ofDecimal number := by
  have enough : 2 ≤ chain.tokens.length := Nat.le_of_succ_le (chain.enough_tokens operated)
  obtain ⟨_, number, -, written⟩ := Expression.displayed_of_reduced
    ((Expression.reduce_tokens_eq_value chain).trans found) enough
  exact ⟨number, written⟩

theorem no_result_in_tokens (chain : Chain Numeral) : chain.tokens.hasResult = false := by
  simp [Expression.hasResult, tokens, stepTokens]

def last (chain : Chain Operand) : Operand := (chain.rest.map Prod.snd).getLastD chain.first

theorem last_cons (first : Operand) (step : Operator × Operand) (rest : List (Operator × Operand)) :
    last ⟨first, step :: rest⟩ = last ⟨step.2, rest⟩ := by
  rw [last, List.map_cons, List.getLastD_cons, last]

theorem exists_last_token (chain : Chain Numeral) :
    ∃ before, chain.tokens = before ++ [.number chain.last] := by
  obtain ⟨first, rest⟩ := chain
  induction rest generalizing first with
  | nil => exact ⟨[], rfl⟩
  | cons step rest induction =>
      obtain ⟨before, shape⟩ := induction step.2
      refine ⟨.number first :: .operator step.1 :: before, ?_⟩
      rw [last_cons, List.cons_append, List.cons_append, ← shape]
      rfl

theorem last_of_tokens (chain : Chain Numeral) :
    chain.tokens.lastIsOperator = false ∧
      chain.tokens.lastEndsWithPoint = chain.last.endsWithPoint := by
  obtain ⟨before, shape⟩ := chain.exists_last_token
  rw [shape, Expression.last_is_operator_number, Expression.lastEndsWithPoint,
    Expression.last_numeral_number]
  exact ⟨rfl, rfl⟩

/-- No number of the chain waits for digits behind its point. -/
def IsComplete (chain : Chain Numeral) : Prop :=
  chain.first.endsWithPoint = false ∧ ∀ step ∈ chain.rest, step.2.endsWithPoint = false

theorem last_of_complete (chain : Chain Numeral) (complete : chain.IsComplete) :
    chain.last.endsWithPoint = false := by
  obtain ⟨first, rest⟩ := chain
  induction rest generalizing first with
  | nil => exact complete.1
  | cons step rest induction =>
      obtain ⟨here, later⟩ := List.forall_mem_cons.mp complete.2
      rw [last_cons]
      exact induction step.2 ⟨here, later⟩

theorem complete_numerals (chain : Chain Literal) (closed : chain.IsClosed) :
    chain.numerals.IsComplete := by
  constructor
  · exact chain.first.complete_numeral false closed.1
  · intro step member
    obtain ⟨typed, inside, rfl⟩ := List.mem_map.mp member
    exact typed.2.complete_numeral false (closed.2 typed inside)

end Chain

namespace Calculator

theorem expression_chain (chain : Chain Numeral) :
    expression ⟨chain.text Numeral.literal⟩ = .ok chain.tokens :=
  expression_of_tokens chain.tokenize_chain

theorem evaluate_operated (chain : Chain Numeral) (operated : chain.rest ≠ []) :
    evaluate ⟨chain.text Numeral.literal⟩ =
      if chain.tokens.dividesByZero then .error .divideByZero
      else if chain.last.endsWithPoint then .error .malformed
      else (chain.value.mapError ReductionError.rejection).map fun result =>
        ⟨chain.text Numeral.literal ++ resultText result⟩ := by
  have enough : ¬chain.tokens.length < Expression.minOperationTokens :=
    Nat.not_lt_of_le (chain.enough_tokens operated)
  obtain ⟨noOperator, point⟩ := chain.last_of_tokens
  rw [evaluate_of_no_result (expression_chain chain) chain.no_result_in_tokens, if_neg enough,
    noOperator, point, Expression.reduce_tokens_eq_value]
  rfl

theorem evaluate_chain (chain : Chain Numeral) (complete : chain.IsComplete)
    (operated : chain.rest ≠ []) :
    evaluate ⟨chain.text Numeral.literal⟩ =
      if chain.tokens.dividesByZero then .error .divideByZero
      else (chain.value.mapError ReductionError.rejection).map fun result =>
        ⟨chain.text Numeral.literal ++ resultText result⟩ := by
  rw [evaluate_operated chain operated, chain.last_of_complete complete]
  rfl

/-- The evaluations write the same result, or are refused for the same reason. -/
def EvaluatesLike (left right : Calculator) : Prop :=
  (∃ result, left.evaluate = .ok (left.append (resultText result)) ∧
    right.evaluate = .ok (right.append (resultText result))) ∨
  ∃ reason, left.evaluate = .error reason ∧ right.evaluate = .error reason

theorem evaluates_like_of_chains {left right : Chain Numeral} (leftComplete : left.IsComplete)
    (rightComplete : right.IsComplete) (leftOperated : left.rest ≠ [])
    (rightOperated : right.rest ≠ [])
    (divisors : left.tokens.dividesByZero = right.tokens.dividesByZero)
    (values : left.value = right.value) :
    EvaluatesLike ⟨left.text Numeral.literal⟩ ⟨right.text Numeral.literal⟩ := by
  rw [EvaluatesLike, evaluate_chain left leftComplete leftOperated,
    evaluate_chain right rightComplete rightOperated, divisors, values]
  cases right.tokens.dividesByZero with
  | true => exact .inr ⟨_, rfl, rfl⟩
  | false =>
      cases right.value with
      | error cause => exact .inr ⟨_, rfl, rfl⟩
      | ok result => exact .inl ⟨result, rfl, rfl⟩

end Calculator

end Keypad
