import Keypad.Calculator.Basic
import Keypad.Proofs.Display.Draft
import Keypad.Proofs.Outcome

/-!
What every operation does to a draft: which reason it is refused for, or what the display holds
after it. The tokens of a draft are known, so each guard is read off the form of the draft. Where
a result is on the display only keeping and clearing are left.
-/

namespace Keypad

namespace Expression

theorem last_is_operator_number (before : Expression) (numeral : Numeral) :
    lastIsOperator (before ++ [.number numeral]) = false := by
  simp [lastIsOperator, Token.isOperator, Token.operator?]

theorem last_is_operator_operator (before : Expression) (sign : Operator) :
    lastIsOperator (before ++ [.operator sign]) = true := by
  simp [lastIsOperator, Token.isOperator, Token.operator?]

theorem last_numeral_number (before : Expression) (numeral : Numeral) :
    lastNumeral? (before ++ [.number numeral]) = some numeral := by
  simp [lastNumeral?, Token.numeral?]

theorem last_numeral_operator (before : Expression) (sign : Operator) :
    lastNumeral? (before ++ [.operator sign]) = none := by
  simp [lastNumeral?, Token.numeral?]

theorem starts_with_operator_number {tokens : Expression} {first : Numeral}
    (head : tokens.head? = some (.number first)) : startsWithOperator tokens = false := by
  rw [startsWithOperator, head]
  rfl

end Expression

theorem Calculator.expression_of_tokens {calculator : Calculator} {tokens : Expression}
    (read : calculator.tokens = .ok tokens) : calculator.expression = .ok tokens := by
  rw [expression, read]
  rfl

theorem Calculator.has_result_of_tokens {calculator : Calculator} {tokens : Expression}
    (read : calculator.tokens = .ok tokens) : calculator.hasResult = tokens.hasResult := by
  rw [hasResult, read]
  rfl

/-- Where there is no result yet, an evaluation needs an operation that ends in a number, does not
divide by zero, and can be reduced. -/
theorem Calculator.evaluate_of_no_result {calculator : Calculator} {tokens : Expression}
    (read : calculator.expression = .ok tokens) (noResult : tokens.hasResult = false) :
    calculator.evaluate =
      if tokens.length < Expression.minOperationTokens then .error .operationImpossible
      else if tokens.lastIsOperator then .error .operationHasResult
      else if tokens.dividesByZero then .error .divideByZero
      else if tokens.lastEndsWithPoint then .error .malformed
      else (tokens.reduce.mapError ReductionError.rejection).map fun result =>
        ⟨calculator.display ++ resultText result⟩ := by
  rw [evaluate, read, ok_bind]
  simp only [guard_all_cons, noResult, Expression.hasEnoughTokens, Bool.false_or, ← Nat.not_le]
  by_cases enough : Expression.minOperationTokens ≤ tokens.length
  · simp only [enough, decide_true, Bool.not_true, Bool.false_eq_true, not_true, if_false]
    cases tokens.lastIsOperator with
    | true => rfl
    | false =>
        cases tokens.dividesByZero with
        | true => rfl
        | false =>
            cases tokens.lastEndsWithPoint with
            | true => rfl
            | false =>
                cases tokens.reduce with
                | error cause => rfl
                | ok result => rfl
  · simp only [enough, decide_false, Bool.not_false, not_false_eq_true, if_true]
    rfl

theorem Calculator.keep_result_of_no_result {calculator : Calculator} {tokens : Expression}
    (read : calculator.expression = .ok tokens) (noResult : tokens.hasResult = false) :
    calculator.keepResult = .error .keeping := by
  rw [keepResult, read, ok_bind, guard_all_cons, noResult]
  rfl

namespace Draft

def shown (draft : Draft) : Calculator := ⟨draft.text⟩

theorem expression_shown (draft : Draft) : draft.shown.expression = .ok draft.tokens :=
  Calculator.expression_of_tokens draft.tokenize_draft

theorem has_result_shown (draft : Draft) : draft.shown.hasResult = false :=
  (Calculator.has_result_of_tokens draft.tokenize_draft).trans draft.no_result

theorem tokens_operator (lead : Lead) (last : Literal) (closed : last.IsClosed)
    (sign : Operator) :
    (operator lead last closed sign).tokens = (number lead last).tokens ++ [.operator sign] := by
  simp [tokens]

theorem starts_with_number (lead : Lead) (last : Literal) (rest : Expression) :
    Expression.startsWithOperator ((number lead last).tokens ++ rest) = false := by
  obtain ⟨first, head⟩ := lead.head_tokens (last.numeral lead.signsNext) rest
  rw [tokens, List.append_assoc]
  exact Expression.starts_with_operator_number head

theorem last_of_number (lead : Lead) (last : Literal) :
    Expression.lastIsOperator (number lead last).tokens = false ∧
      Expression.lastHasPoint (number lead last).tokens = last.fraction.isSome ∧
      Expression.lastEndsWithPoint (number lead last).tokens = decide (¬last.IsClosed) := by
  refine ⟨Expression.last_is_operator_number _ _, ?_, ?_⟩
  · rw [Expression.lastHasPoint, tokens, Expression.last_numeral_number, Option.any_some,
      last.has_point_numeral]
  · rw [Expression.lastEndsWithPoint, tokens, Expression.last_numeral_number, Option.any_some,
      last.ends_with_point_numeral]

theorem last_of_operator (lead : Lead) (last : Literal) (closed : last.IsClosed)
    (sign : Operator) :
    Expression.lastIsOperator (operator lead last closed sign).tokens = true ∧
      Expression.lastHasPoint (operator lead last closed sign).tokens = false ∧
      Expression.lastEndsWithPoint (operator lead last closed sign).tokens = false := by
  rw [tokens_operator]
  refine ⟨Expression.last_is_operator_operator _ _, ?_, ?_⟩
  · rw [Expression.lastHasPoint, Expression.last_numeral_operator]
    rfl
  · rw [Expression.lastEndsWithPoint, Expression.last_numeral_operator]
    rfl

/-! Operations on a draft. -/

theorem append_digits_shown (draft : Draft) (digits : List Char) :
    draft.shown.appendDigits digits =
      if Text.isDigitString digits then .ok ⟨draft.text ++ digits⟩ else .error .malformed := by
  rw [Calculator.appendDigits, expression_shown, ok_bind, Calculator.guard_all_cons,
    draft.no_result, Calculator.guard_all_cons]
  cases Text.isDigitString digits <;> rfl

theorem append_point_shown (draft : Draft) :
    draft.shown.appendPoint =
      match draft with
      | number _ last =>
          if last.fraction.isSome then .error .decimalExists else .ok ⟨draft.text ++ ['.']⟩
      | _ => .error .malformed := by
  rw [Calculator.appendPoint, expression_shown, ok_bind, Calculator.guard_all_cons, draft.no_result]
  cases draft with
  | blank => rfl
  | minus => rfl
  | number lead last =>
      have nonempty : (number lead last).tokens.isEmpty = false := by simp [tokens]
      obtain ⟨noOperator, point, -⟩ := last_of_number lead last
      simp only [Calculator.guard_all_cons, nonempty, noOperator, point]
      cases last.fraction.isSome <;> rfl
  | operator lead last closed sign =>
      have nonempty : (operator lead last closed sign).tokens.isEmpty = false := by simp [tokens]
      obtain ⟨isOperator, noPoint, -⟩ := last_of_operator lead last closed sign
      simp only [Calculator.guard_all_cons, nonempty, isOperator, noPoint]
      rfl

theorem append_operator_shown (draft : Draft) (sign : Operator) :
    draft.shown.appendOperator sign =
      match draft with
      | number _ last =>
          if last.IsClosed then .ok ⟨draft.text ++ [' ', sign.symbol, ' ']⟩ else .error .malformed
      | operator .. => .error .wrongOperator
      | _ => .error .operationImpossible := by
  rw [Calculator.appendOperator, expression_shown, ok_bind, Calculator.guard_all_cons,
    draft.no_result]
  cases draft with
  | blank => rfl
  | minus => rfl
  | number lead last =>
      have starts := starts_with_number lead last []
      rw [List.append_nil] at starts
      obtain ⟨noOperator, -, dangling⟩ := last_of_number lead last
      simp only [Calculator.guard_all_cons, starts, noOperator, dangling]
      by_cases closed : last.IsClosed
      · simp [closed, Calculator.guard_all_nil, bind, Except.bind]
        rfl
      · simp [closed, bind, Except.bind]
  | operator lead last closed earlier =>
      have starts := starts_with_number lead last [.operator earlier]
      rw [← tokens_operator lead last closed earlier] at starts
      obtain ⟨isOperator, -, noPoint⟩ := last_of_operator lead last closed earlier
      simp only [Calculator.guard_all_cons, starts, isOperator, noPoint]
      rfl

theorem keep_result_shown (draft : Draft) : draft.shown.keepResult = .error .keeping :=
  Calculator.keep_result_of_no_result draft.expression_shown draft.no_result

theorem last_entry_width_number (lead : Lead) (last : Literal) :
    (number lead last).shown.lastEntryWidth = 1 := by
  rw [Calculator.lastEntryWidth, if_neg]
  intro space
  obtain ⟨final, found⟩ := Option.isSome_iff_exists.mp
    (List.getLast?_isSome.mpr last.text_ne_nil)
  rw [shown, text, List.getLast?_append, found, Option.some_or] at space
  cases space
  rcases Decimal.characters_of_of_unsigned (last.of_unsigned_text false) ' '
    (List.mem_of_getLast? found) with digit | point
  · contradiction
  · contradiction

theorem correct_shown (draft : Draft) :
    draft.shown.correct =
      match draft with
      | operator lead last _ _ => .ok ⟨lead.text ++ last.text⟩
      | _ => .ok ⟨draft.text.dropLast⟩ := by
  rw [Calculator.correct, expression_shown, ok_bind, Calculator.guard_all_cons, draft.no_result]
  cases draft with
  | blank => rfl
  | minus => rfl
  | number lead last =>
      rw [last_entry_width_number, List.dropLast_eq_take]
      rfl
  | operator lead last closed sign =>
      have width : (operator lead last closed sign).shown.lastEntryWidth = 3 := by
        rw [Calculator.lastEntryWidth, if_pos]
        simp [shown, text]
      have kept : (operator lead last closed sign).shown.display.take
          ((operator lead last closed sign).shown.display.length - 3) =
            lead.text ++ last.text :=
        List.take_left' (by simp only [shown, text, List.length_append, List.length_cons,
          List.length_nil, Nat.add_sub_cancel])
      rw [width, kept]
      rfl

theorem evaluate_shown (draft : Draft) :
    draft.shown.evaluate =
      match draft with
      | number lead _ =>
          if lead.steps = [] then .error .operationImpossible
          else if Expression.dividesByZero draft.tokens then .error .divideByZero
          else if Expression.lastEndsWithPoint draft.tokens then .error .malformed
          else (draft.tokens.reduce.mapError ReductionError.rejection).map fun result =>
            ⟨draft.text ++ Calculator.resultText result⟩
      | operator lead .. =>
          if lead.steps = [] then .error .operationImpossible else .error .operationHasResult
      | _ => .error .operationImpossible := by
  rw [Calculator.evaluate_of_no_result draft.expression_shown draft.no_result]
  cases draft with
  | blank => rfl
  | minus => rfl
  | number lead last =>
      obtain ⟨noOperator, -, -⟩ := last_of_number lead last
      have length : (number lead last).tokens.length = 2 * lead.steps.length + 1 := by
        simp [tokens, lead.length_tokens]
      have short : (number lead last).tokens.length < Expression.minOperationTokens ↔
          lead.steps = [] := by
        rw [length, ← List.length_eq_zero_iff, Expression.minOperationTokens]
        omega
      simp only [short, noOperator, Bool.false_eq_true, if_false]
      rfl
  | operator lead last closed sign =>
      obtain ⟨isOperator, -, -⟩ := last_of_operator lead last closed sign
      have length : (operator lead last closed sign).tokens.length = 2 * lead.steps.length + 2 := by
        simp [tokens, lead.length_tokens]
      have short : (operator lead last closed sign).tokens.length < Expression.minOperationTokens ↔
          lead.steps = [] := by
        rw [length, ← List.length_eq_zero_iff, Expression.minOperationTokens]
        omega
      simp only [short, isOperator, if_true]

/-! What accepted operations lead to. -/

theorem digits_accepted (draft : Draft) {digits : List Char} {after : Calculator}
    (accepted : draft.shown.appendDigits digits = .ok after) :
    (∀ character ∈ digits, character.isDigit = true) ∧
      ∃ longer : Draft, after = longer.shown ∧ longer.text = draft.text ++ digits := by
  rw [draft.append_digits_shown] at accepted
  split at accepted
  · rename_i valid
    cases accepted
    obtain ⟨nonempty, valid⟩ := (Text.is_digit_string_iff digits).mp valid
    obtain ⟨longer, appended⟩ := draft.exists_append_digits digits nonempty valid
    exact ⟨valid, longer, congrArg Calculator.mk appended.symm, appended⟩
  · contradiction

theorem point_accepted (draft : Draft) {after : Calculator}
    (accepted : draft.shown.appendPoint = .ok after) :
    ∃ longer : Draft, after = longer.shown ∧ longer.text = draft.text ++ ['.'] := by
  rw [draft.append_point_shown] at accepted
  cases draft with
  | blank => contradiction
  | minus => contradiction
  | operator lead last closed sign => contradiction
  | number lead last =>
      simp only at accepted
      split at accepted
      · contradiction
      · rename_i whole
        cases accepted
        obtain ⟨longer, appended⟩ := last.exists_append_point (by simpa using whole)
        have typed : (number lead longer).text = (number lead last).text ++ ['.'] := by
          rw [text, text, appended, List.append_assoc]
        exact ⟨number lead longer, congrArg Calculator.mk typed.symm, typed⟩

theorem operator_accepted (draft : Draft) {sign : Operator} {after : Calculator}
    (accepted : draft.shown.appendOperator sign = .ok after) :
    ∃ lead last closed, draft = number lead last ∧
      after = (operator lead last closed sign).shown := by
  rw [draft.append_operator_shown] at accepted
  cases draft with
  | blank => contradiction
  | minus => contradiction
  | operator lead last closed earlier => contradiction
  | number lead last =>
      simp only at accepted
      split at accepted
      · rename_i closed
        cases accepted
        exact ⟨lead, last, closed, rfl, rfl⟩
      · contradiction

/-- A correction is accepted on every draft. It takes an operator with its spaces, or one character
of a number, and leaves a draft, which is shorter unless there was nothing to take. -/
theorem exists_corrected (draft : Draft) :
    ∃ shorter : Draft, draft.shown.correct = .ok shorter.shown ∧
      shorter.text.length ≤ draft.text.length - 1 := by
  rw [draft.correct_shown]
  cases draft with
  | blank => exact ⟨blank, rfl, Nat.le_refl 0⟩
  | minus => exact ⟨blank, rfl, Nat.le_refl 0⟩
  | number lead last =>
      obtain ⟨shorter, dropped⟩ := exists_dropped_character lead last
      refine ⟨shorter, congrArg (Except.ok ∘ Calculator.mk) dropped.symm, ?_⟩
      rw [dropped, List.length_dropLast]
      exact Nat.le_refl _
  | operator lead last closed sign =>
      refine ⟨number lead last, rfl, ?_⟩
      simp only [text, List.length_append, List.length_cons]
      omega

end Draft

/-- A text typed as an operator that is the sign of none. -/
def Operation.IsUnknownSymbol (operation : Operation) : Prop :=
  ∃ text, operation = .symbol text ∧ ∀ sign : Operator, text ≠ [sign.symbol]

namespace Key

theorem operation_eq_clear (key : Key) : key.operation = .clear ↔ key = .allClear := by
  cases key <;> simp [operation]

theorem operation_eq_keep (key : Key) : key.operation = .keep ↔ key = .keep := by
  cases key <;> simp [operation]

theorem operation_eq_evaluate (key : Key) : key.operation = .evaluate ↔ key = .equals := by
  cases key <;> simp [operation]

theorem operation_known (key : Key) : ¬key.operation.IsUnknownSymbol := by
  rintro ⟨text, symbol, -⟩
  cases key <;> contradiction

end Key

namespace Calculator

theorem refused_of_unknown_symbol (calculator : Calculator) {operation : Operation}
    (unknown : operation.IsUnknownSymbol) :
    calculator.perform operation = .error .operationImpossible := by
  obtain ⟨text, rfl, none⟩ := unknown
  rw [perform, appendSymbol, Operator.of_text_eq_none.mpr none]

/-- With a result on the display, every operation but clearing and keeping is refused for it, apart
from a symbol that is refused anyway. -/
theorem refused_of_result {calculator : Calculator} {tokens : Expression}
    (read : calculator.expression = .ok tokens) (result : tokens.hasResult = true)
    (operation : Operation) :
    operation = .clear ∨ operation = .keep ∨ operation.IsUnknownSymbol ∨
      calculator.perform operation = .error .operationHasResult := by
  have sign (sign : Operator) :
      calculator.appendOperator sign = .error .operationHasResult := by
    rw [appendOperator, read, ok_bind, guard_all_cons, result]
    rfl
  cases operation with
  | digits text =>
      right; right; right
      rw [perform, appendDigits, read, ok_bind, guard_all_cons, result]
      rfl
  | point =>
      right; right; right
      rw [perform, appendPoint, read, ok_bind, guard_all_cons, result]
      rfl
  | operator chosen => exact .inr (.inr (.inr (sign chosen)))
  | symbol text =>
      right; right
      cases found : Operator.ofText? text with
      | none => exact .inl ⟨text, rfl, Operator.of_text_eq_none.mp found⟩
      | some chosen =>
          right
          rw [perform, appendSymbol, found]
          exact sign chosen
  | correction =>
      right; right; right
      rw [perform, correct, read, ok_bind, guard_all_cons, result]
      rfl
  | clear => exact .inl rfl
  | keep => exact .inr (.inl rfl)
  | evaluate =>
      right; right; right
      rw [perform, evaluate, read, ok_bind]
      simp only [guard_all_cons, result, Expression.hasEnoughTokens, Bool.true_or, Bool.not_true]
      cases tokens.lastIsOperator with
      | true => rfl
      | false => rfl

end Calculator

end Keypad
