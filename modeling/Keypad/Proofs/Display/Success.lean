import Keypad.Proofs.Display.DraftChain
import Keypad.Proofs.Display.Reachable
import Keypad.Proofs.Reduction.Finiteness

/-!
When an evaluation succeeds. Its checks look at the ends of the expression, at its length and at
neighbouring tokens only; on a display that can come about they leave nothing but a chain, and a
chain without a zero divisor reduces to a number unless an outcome is not finite.
-/

namespace Keypad

/-- What an evaluation checks before it reduces an expression. -/
structure Expression.IsReady (tokens : Expression) : Prop where
  enough : tokens.hasEnoughTokens = true
  noOperator : tokens.lastIsOperator = false
  noResult : tokens.hasResult = false
  divisible : tokens.dividesByZero = false
  noPoint : tokens.lastEndsWithPoint = false

namespace Calculator

theorem guard_all_eq_ok (reasons : List (Bool × Rejection)) :
    guardAll reasons = .ok () ↔ ∀ reason ∈ reasons, reason.1 = false := by
  induction reasons with
  | nil => simp [guard_all_nil]
  | cons reason reasons induction =>
      obtain ⟨holds, rejection⟩ := reason
      rw [guard_all_cons, List.forall_mem_cons, ← induction]
      cases holds with
      | true => simp
      | false => simp

theorem guards_of_evaluation (tokens : Expression) :
    guardAll [
      (!tokens.hasEnoughTokens, .operationImpossible),
      (tokens.lastIsOperator, .operationHasResult),
      (tokens.hasResult, .operationHasResult),
      (tokens.dividesByZero, .divideByZero),
      (tokens.lastEndsWithPoint, .malformed)] = .ok () ↔ tokens.IsReady := by
  rw [guard_all_eq_ok]
  simp only [List.forall_mem_cons, List.not_mem_nil, false_implies, implies_true, and_true,
    Bool.not_eq_false']
  constructor
  · rintro ⟨enough, noOperator, noResult, divisible, noPoint⟩
    exact ⟨enough, noOperator, noResult, divisible, noPoint⟩
  · rintro ⟨enough, noOperator, noResult, divisible, noPoint⟩
    exact ⟨enough, noOperator, noResult, divisible, noPoint⟩

variable {calculator : Calculator} {tokens : Expression} (read : calculator.tokens = .ok tokens)

include read

theorem evaluate_of_ready (ready : tokens.IsReady) :
    calculator.evaluate = (tokens.reduce.mapError ReductionError.rejection).map fun result =>
      ⟨calculator.display ++ resultText result⟩ := by
  rw [evaluate, expression_of_tokens read, ok_bind, (guards_of_evaluation tokens).mpr ready,
    ok_bind]
  cases tokens.reduce with
  | error cause => rfl
  | ok result => rfl

theorem ready_of_evaluated {after : Calculator} (evaluated : calculator.evaluate = .ok after) :
    tokens.IsReady ∧ ∃ result, tokens.reduce = .ok result ∧
      after = ⟨calculator.display ++ resultText result⟩ := by
  have ready : tokens.IsReady := by
    rw [evaluate, expression_of_tokens read, ok_bind] at evaluated
    obtain ⟨_, open_guards, -⟩ := ok_of_bind evaluated
    exact (guards_of_evaluation tokens).mp open_guards
  rw [evaluate_of_ready read ready] at evaluated
  obtain ⟨result, reduced, same⟩ := ok_of_map evaluated
  exact ⟨ready, result, ok_of_map_error reduced, same.symm⟩

end Calculator

/-- On a display that comes about the checks of an evaluation leave only chains. -/
theorem Reachable.chain_of_ready {calculator : Calculator} (reachable : Reachable calculator)
    {tokens : Expression} (read : calculator.tokens = .ok tokens) (ready : tokens.IsReady) :
    ∃ chain : Chain Numeral, calculator.display = chain.text Numeral.literal ∧
      tokens = chain.tokens ∧ chain.rest ≠ [] ∧ chain.last.endsWithPoint = false ∧
        ¬chain.HasZeroDivisor := by
  cases reachable.displayable with
  | answer answer =>
      have same : answer.tokens = tokens := Except.ok.inj (answer.tokenize_answer.symm.trans read)
      have clash := ready.noResult
      rw [← same, answer.has_result] at clash
      contradiction
  | draft draft =>
      obtain rfl : draft.tokens = tokens := Except.ok.inj (draft.tokenize_draft.symm.trans read)
      cases draft with
      | blank => exact absurd ready.enough (by decide)
      | minus => exact absurd ready.enough (by decide)
      | operator lead last closed sign =>
          have clash := ready.noOperator
          rw [(Draft.last_of_operator lead last closed sign).1] at clash
          contradiction
      | number lead last =>
          have shape := lead.tokens_chain last
          rw [shape] at ready ⊢
          have enough := ready.enough
          rw [Expression.hasEnoughTokens, ready.noResult, Bool.false_or, decide_eq_true_eq,
            Chain.length_tokens, Expression.minOperationTokens] at enough
          refine ⟨lead.chain last, (lead.text_chain last).symm, rfl, ?_, ?_, ?_⟩
          · exact List.length_pos_iff.mp (by omega)
          · rw [← (lead.chain last).last_of_tokens.2]
            exact ready.noPoint
          · rw [← Chain.divides_by_zero_tokens, ready.divisible]
            exact Bool.false_ne_true

/-- An evaluation succeeds on the complete expressions that divide nowhere by a zero of theirs and
reduce through finite outcomes, and only on those. It writes the result behind an equals sign and
leaves the expression as it is. Behind its checks it cannot fail but for such an outcome. -/
theorem evaluation_of_reachable {calculator : Calculator} (reachable : Reachable calculator) :
    ((∃ after, calculator.evaluate = .ok after) ↔
      calculator.hasResult = false ∧ ∃ chain : Chain Numeral,
        calculator.display = chain.text Numeral.literal ∧ chain.rest ≠ [] ∧
          chain.last.endsWithPoint = false ∧ ¬chain.HasZeroDivisor ∧
          chain.tokens.StaysFinite) ∧
    (∀ after, calculator.evaluate = .ok after → ∃ tokens result,
      calculator.tokens = .ok tokens ∧ tokens.reduce = .ok result ∧
        after.display = calculator.display ++ [' ', '=', ' '] ++ result.literal) ∧
    (∀ tokens, calculator.tokens = .ok tokens → tokens.IsReady →
      (∃ result, tokens.reduce = .ok result) ∨
        ∃ outcome, tokens.reduce = .error (.nonFinite outcome) ∧
          calculator.evaluate = .error .operationImpossible) := by
  obtain ⟨tokens, read⟩ := reachable.exists_tokens
  refine ⟨⟨?_, ?_⟩, ?_, ?_⟩
  · rintro ⟨after, evaluated⟩
    obtain ⟨ready, result, reduced, -⟩ := Calculator.ready_of_evaluated read evaluated
    obtain ⟨chain, display, rfl, operated, complete, allowed⟩ :=
      reachable.chain_of_ready read ready
    have unanswered := (Calculator.has_result_of_tokens read).trans ready.noResult
    exact ⟨unanswered, chain, display, operated, complete, allowed,
      Expression.stays_finite_of_reduced reduced⟩
  · rintro ⟨-, chain, display, operated, complete, allowed, finite⟩
    obtain rfl : calculator = ⟨chain.text Numeral.literal⟩ := congrArg Calculator.mk display
    rw [Calculator.evaluate_operated chain operated, complete,
      if_neg (mt chain.divides_by_zero_tokens.mp allowed)]
    rcases chain.value_without_zero_divisor allowed with ⟨outcome, failed⟩ | ⟨result, found⟩
    · rw [← Expression.reduce_tokens_eq_value] at failed
      exact absurd failed (Expression.finite_reduction finite outcome)
    · rw [found]
      exact ⟨_, rfl⟩
  · intro after evaluated
    obtain ⟨-, result, reduced, rfl⟩ := Calculator.ready_of_evaluated read evaluated
    refine ⟨tokens, result, read, reduced, ?_⟩
    rw [List.append_assoc]
    rfl
  · intro others readOthers ready
    obtain ⟨chain, -, rfl, -, -, allowed⟩ := reachable.chain_of_ready readOthers ready
    have evaluation := Calculator.evaluate_of_ready readOthers ready
    rw [Expression.reduce_tokens_eq_value] at evaluation ⊢
    rcases chain.value_without_zero_divisor allowed with ⟨outcome, failed⟩ | found
    · rw [failed] at evaluation
      exact .inr ⟨outcome, failed, evaluation⟩
    · exact .inl found

/-- A product is taken from a smaller number, and the result has a sign. Ten times a number of three
hundred and eight nines is not finite. -/
theorem evaluation_of_reachable_nines :
    (∃ calculator after : Calculator, Reachable calculator ∧
      calculator.display = "7 - 2.5 x 4".toList ∧ calculator.evaluate = .ok after ∧
      after.display = "7 - 2.5 x 4 = -3".toList) ∧
    ∃ (calculator : Calculator) (tokens : Expression),
      Reachable calculator ∧ calculator.tokens = .ok tokens ∧ tokens.IsReady ∧
      (∃ outcome, tokens.reduce = .error (.nonFinite outcome)) ∧
      calculator.evaluate = .error .operationImpossible := by
  constructor
  · let seven : Literal := ⟨['7'], none, by simp, by simp, by simp⟩
    let half : Literal := ⟨['2'], some ['5'], by simp, by simp, by simp⟩
    let four : Literal := ⟨['4'], none, by simp, by simp, by simp⟩
    let lead : Lead := ⟨false, [(seven, .subtract), (half, .multiply)],
      by simp [Literal.IsClosed, seven, half]⟩
    let draft : Draft := .number lead four
    obtain ⟨succeeds, writes, -⟩ := evaluation_of_reachable (Reachable.draft draft)
    have value : draft.tokens.reduce.toOption = some (.ofDecimal ⟨true, 3, 0⟩) := by
      decide +kernel
    have allowed : ¬(lead.chain four).HasZeroDivisor := by
      rw [← Chain.divides_by_zero_tokens]
      decide +kernel
    have finite : (lead.chain four).tokens.StaysFinite := by
      rw [← lead.tokens_chain four]
      exact Expression.stays_finite_of_reduced (ok_of_to_option value)
    obtain ⟨after, evaluated⟩ := succeeds.mpr ⟨draft.has_result_shown, lead.chain four,
      (lead.text_chain four).symm, List.cons_ne_nil _ _, rfl, allowed, finite⟩
    obtain ⟨tokens, result, read, reduced, display⟩ := writes after evaluated
    obtain rfl : draft.tokens = tokens := Except.ok.inj (draft.tokenize_draft.symm.trans read)
    refine ⟨draft.shown, after, .draft draft, rfl, evaluated, ?_⟩
    rw [display, ok_unique reduced value]
    decide +kernel
  · let nines : Literal := ⟨List.replicate 308 '9', none, List.cons_ne_nil _ _,
      List.all_eq_true.mp (by decide +kernel), by simp⟩
    let ten : Literal := ⟨['1', '0'], none, by simp, by simp, by simp⟩
    let lead : Lead :=
      ⟨false, [(nines, .multiply)], List.forall_mem_singleton.mpr (Option.some_ne_none []).symm⟩
    let draft : Draft := .number lead ten
    have ready : draft.tokens.IsReady :=
      ⟨by decide +kernel, by decide +kernel, by decide +kernel, by decide +kernel,
        by decide +kernel⟩
    have unreduced : draft.tokens.reduce.toOption = none := by decide +kernel
    obtain ⟨-, -, behind⟩ := evaluation_of_reachable (Reachable.draft draft)
    rcases behind draft.tokens draft.tokenize_draft ready with ⟨result, reduced⟩ | overflow
    · rw [reduced] at unreduced
      exact absurd unreduced (Option.some_ne_none result)
    · obtain ⟨outcome, failed, refused⟩ := overflow
      exact ⟨draft.shown, draft.tokens, .draft draft, draft.tokenize_draft, ready,
        ⟨outcome, failed⟩, refused⟩

end Keypad
