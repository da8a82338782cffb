import Keypad.Proofs.Display.DraftChain
import Keypad.Proofs.Display.Frozen

/-!
Which operations are refused for a result. While one is on the display all of them are, apart from
a symbol that is no operator. The same warning answers the evaluation of an expression whose last
operand is still to come, though there is no result to keep then.
-/

namespace Keypad

theorem Chain.tokenize_awaiting (chain : Chain Numeral) (sign : Operator) :
    tokenize (chain.text Numeral.literal ++ [' ', sign.symbol, ' ']) =
      .ok (chain.tokens ++ [.operator sign]) := by
  have behind : tokenize [sign.symbol, ' '] = .ok [.operator sign] :=
    tokenize_text_append (.operator sign) ' ' [] (by decide)
  rw [tokenize_append_blank _ [sign.symbol, ' '] ' ' (by decide), chain.tokenize_chain, behind]
  rfl

namespace Calculator

/-- On the display an operation has a further operator behind it, without its operand. -/
def AwaitsOperand (calculator : Calculator) : Prop :=
  ∃ (chain : Chain Numeral) (sign : Operator), chain.rest ≠ [] ∧
    calculator.display = chain.text Numeral.literal ++ [' ', sign.symbol, ' ']

theorem refused_of_awaits {calculator : Calculator} (awaits : calculator.AwaitsOperand) :
    calculator.hasResult = false ∧ calculator.evaluate = .error .operationHasResult ∧
      calculator.keepResult = .error .keeping := by
  obtain ⟨display⟩ := calculator
  obtain ⟨chain, sign, operated, rfl⟩ := awaits
  have read := chain.tokenize_awaiting sign
  have expression := expression_of_tokens read
  have noResult : Expression.hasResult (chain.tokens ++ [.operator sign]) = false := by
    simp [Expression.hasResult, Chain.tokens, Chain.stepTokens]
  have enough :
      ¬(chain.tokens ++ [Token.operator sign]).length < Expression.minOperationTokens := by
    rw [List.length_append, Nat.not_lt]
    exact Nat.le_add_right_of_le (chain.enough_tokens operated)
  refine ⟨(has_result_of_tokens read).trans noResult, ?_,
    keep_result_of_no_result expression noResult⟩
  rw [evaluate_of_no_result expression noResult, if_neg enough,
    Expression.last_is_operator_operator]
  rfl

end Calculator

theorem ReductionError.rejection_ne (cause : ReductionError) :
    cause.rejection ≠ .operationHasResult := by
  cases cause <;> exact nofun

namespace Draft

theorem awaits_operator (lead : Lead) (last : Literal) (closed : last.IsClosed) (sign : Operator)
    (operated : lead.steps ≠ []) : (operator lead last closed sign).shown.AwaitsOperand := by
  refine ⟨lead.chain last, sign, (lead.operated_chain last).mpr operated, ?_⟩
  rw [lead.text_chain]
  rfl

theorem append_operator_refused (draft : Draft) (sign : Operator) :
    draft.shown.appendOperator sign ≠ .error .operationHasResult := by
  rw [append_operator_shown]
  cases draft with
  | blank => exact nofun
  | minus => exact nofun
  | operator lead last closed earlier => exact nofun
  | number lead last =>
      simp only
      split
      · exact nofun
      · exact nofun

theorem evaluate_refused (draft : Draft)
    (refused : draft.shown.evaluate = .error .operationHasResult) :
    draft.shown.AwaitsOperand := by
  rw [evaluate_shown] at refused
  cases draft with
  | blank => cases refused
  | minus => cases refused
  | operator lead last closed sign =>
      -- The one check that gives the warning for something other than a result.
      simp only at refused
      split at refused
      · cases refused
      · rename_i operated
        exact awaits_operator lead last closed sign operated
  | number lead last =>
      simp only at refused
      split at refused
      · cases refused
      · split at refused
        · cases refused
        · split at refused
          · cases refused
          · cases reduced : (number lead last).tokens.reduce with
            | ok result =>
                rw [reduced] at refused
                cases refused
            | error cause =>
                rw [reduced] at refused
                exact absurd (Except.error.inj refused) cause.rejection_ne

theorem refused_for_result (draft : Draft) (operation : Operation)
    (refused : draft.shown.perform operation = .error .operationHasResult) :
    operation = .evaluate ∧ draft.shown.AwaitsOperand := by
  cases operation with
  | digits text =>
      rw [Calculator.perform, append_digits_shown] at refused
      split at refused
      · cases refused
      · cases refused
  | point =>
      rw [Calculator.perform, append_point_shown] at refused
      cases draft with
      | blank => cases refused
      | minus => cases refused
      | operator lead last closed sign => cases refused
      | number lead last =>
          simp only at refused
          split at refused
          · cases refused
          · cases refused
  | operator sign => exact absurd refused (draft.append_operator_refused sign)
  | symbol text =>
      rw [Calculator.perform, Calculator.appendSymbol] at refused
      split at refused
      · exact absurd refused (draft.append_operator_refused _)
      · cases refused
  | correction =>
      rw [Calculator.perform, correct_shown] at refused
      cases draft <;> cases refused
  | clear => cases refused
  | keep =>
      rw [Calculator.perform, keep_result_shown] at refused
      cases refused
  | evaluate => exact ⟨rfl, draft.evaluate_refused refused⟩

end Draft

/-- An operation that neither clears nor keeps is refused for a result where there is one, unless it
types a symbol that is no operator, and where an expression is evaluated that waits for its last
operand. In the first case there is a result to keep, in the second there is none. -/
theorem refused_for_result_iff {calculator : Calculator} (reachable : Reachable calculator) :
    (∀ operation : Operation, operation ≠ .clear → operation ≠ .keep →
      (calculator.perform operation = .error .operationHasResult ↔
        (calculator.hasResult = true ∧ ¬operation.IsUnknownSymbol) ∨
          (operation = .evaluate ∧ calculator.AwaitsOperand))) ∧
    (∀ key : Key, key ≠ .allClear → key ≠ .keep →
      (calculator.press key = .error .operationHasResult ↔
        calculator.hasResult = true ∨ (key = .equals ∧ calculator.AwaitsOperand))) ∧
    (∀ operation : Operation, operation.IsUnknownSymbol →
      calculator.perform operation = .error .operationImpossible) ∧
    (calculator.hasResult = true → ∃ kept, calculator.keepResult = .ok kept) ∧
    (calculator.AwaitsOperand →
      calculator.hasResult = false ∧ calculator.keepResult = .error .keeping) := by
  have operations : ∀ operation : Operation, operation ≠ .clear → operation ≠ .keep →
      (calculator.perform operation = .error .operationHasResult ↔
        (calculator.hasResult = true ∧ ¬operation.IsUnknownSymbol) ∨
          (operation = .evaluate ∧ calculator.AwaitsOperand)) := by
    intro operation noClear noKeep
    constructor
    · intro refused
      cases reachable.displayable with
      | draft draft => exact .inr (draft.refused_for_result operation refused)
      | answer answer =>
          refine .inl ⟨answer.has_result_shown, fun unknown => ?_⟩
          rw [Calculator.refused_of_unknown_symbol _ unknown] at refused
          cases refused
    · rintro (⟨answered, known⟩ | ⟨rfl, awaits⟩)
      · obtain ⟨tokens, read⟩ := reachable.exists_tokens
        rw [Calculator.has_result_of_tokens read] at answered
        rcases Calculator.refused_of_result (Calculator.expression_of_tokens read) answered
          operation with clear | keep | unknown | refused
        · contradiction
        · contradiction
        · contradiction
        · exact refused
      · exact (Calculator.refused_of_awaits awaits).2.1
  refine ⟨operations, ?_, ?_, ?_, ?_⟩
  · intro key noClear noKeep
    have pressed := operations key.operation (mt key.operation_eq_clear.mp noClear)
      (mt key.operation_eq_keep.mp noKeep)
    rw [key.operation_eq_evaluate, and_iff_left key.operation_known] at pressed
    exact pressed
  · intro operation unknown
    exact calculator.refused_of_unknown_symbol unknown
  · intro answered
    cases reachable.displayable with
    | draft draft => exact absurd (draft.has_result_shown.symm.trans answered) Bool.false_ne_true
    | answer answer => exact ⟨_, answer.keep_result_shown⟩
  · intro awaits
    obtain ⟨unanswered, -, nothing⟩ := Calculator.refused_of_awaits awaits
    exact ⟨unanswered, nothing⟩

/-- With a result on the display the division sign is refused for it, a slash is not. -/
theorem refused_for_result_symbol :
    ∃ calculator : Calculator, Reachable calculator ∧ calculator.display = "6 ÷ 4 = 1.5".toList ∧
      calculator.perform (.symbol ['÷']) = .error .operationHasResult ∧
      calculator.perform (.symbol ['/']) = .error .operationImpossible := by
  have reachable : Reachable ⟨"6 ÷ 4 = 1.5".toList⟩ := by
    apply (Reachable.iff_run _).mpr
    exact ⟨[.digits ['6'], .operator .divide, .digits ['4'], .evaluate], by decide +kernel⟩
  obtain ⟨operations, -, symbols, -, -⟩ := refused_for_result_iff reachable
  have answered : Calculator.hasResult ⟨"6 ÷ 4 = 1.5".toList⟩ = true := by decide +kernel
  have known : ¬(Operation.symbol ['÷']).IsUnknownSymbol := by
    rintro ⟨text, same, unknown⟩
    cases same
    exact unknown .divide rfl
  have unknown : (Operation.symbol ['/']).IsUnknownSymbol :=
    ⟨['/'], rfl, fun sign => by cases sign <;> decide⟩
  refine ⟨_, reachable, rfl, ?_, symbols _ unknown⟩
  exact (operations (.symbol ['÷']) nofun nofun).mpr (.inl ⟨answered, known⟩)

/-- The warning can come without a result, and with a result a symbol can be refused without the
warning. -/
theorem warning_is_inexact :
    (Reachable ⟨"5 + 3 x ".toList⟩ ∧ Calculator.hasResult ⟨"5 + 3 x ".toList⟩ = false ∧
      Calculator.perform ⟨"5 + 3 x ".toList⟩ .evaluate = .error .operationHasResult ∧
      Calculator.perform ⟨"5 + 3 x ".toList⟩ .keep = .error .keeping) ∧
    (Reachable ⟨"5 + 3 = 8".toList⟩ ∧ Calculator.hasResult ⟨"5 + 3 = 8".toList⟩ = true ∧
      Calculator.perform ⟨"5 + 3 = 8".toList⟩ (.symbol ['/']) = .error .operationImpossible) := by
  let five : Literal := ⟨['5'], none, by simp, by simp, by simp⟩
  let three : Literal := ⟨['3'], none, by simp, by simp, by simp⟩
  let chain : Chain Literal := ⟨five, [(.add, three)]⟩
  have awaits : Calculator.AwaitsOperand ⟨"5 + 3 x ".toList⟩ :=
    ⟨chain.numerals, .multiply, List.cons_ne_nil _ _, by decide⟩
  obtain ⟨unanswered, refused, nothing⟩ := Calculator.refused_of_awaits awaits
  have waiting : Reachable ⟨"5 + 3 x ".toList⟩ := by
    apply (Reachable.iff_run _).mpr
    exact ⟨[.digits ['5'], .operator .add, .digits ['3'], .operator .multiply], by decide +kernel⟩
  have answered : Reachable ⟨"5 + 3 = 8".toList⟩ := by
    apply (Reachable.iff_run _).mpr
    exact ⟨[.digits ['5'], .operator .add, .digits ['3'], .evaluate], by decide +kernel⟩
  refine ⟨⟨waiting, unanswered, refused, nothing⟩, answered, by decide +kernel, ?_⟩
  apply Calculator.refused_of_unknown_symbol
  exact ⟨['/'], rfl, fun sign => by cases sign <;> decide⟩

end Keypad
