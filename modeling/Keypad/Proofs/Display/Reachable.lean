import Keypad.Proofs.Display.Typing
import Keypad.Proofs.Reduction.Divisors

/-!
The displays that can come about. Whatever operations are performed and keys are pressed, the
display holds a draft, or an expression with its result behind it; and every draft, and every
expression that has a result, comes about. The proof goes over the operations in one direction,
and types the display in the other.
-/

namespace Keypad

/-- The calculators that operations and keys lead to from a new one, refused or not. -/
inductive Reachable : Calculator → Prop where
  | new : Reachable Calculator.new
  | perform {calculator : Calculator} (reachable : Reachable calculator) (operation : Operation) :
      Reachable (calculator.next operation)
  | press {calculator : Calculator} (reachable : Reachable calculator) (key : Key) :
      Reachable (calculator.pressed key).after

/-- A complete expression with the numeral that it reduces to. -/
structure Answer where
  lead : Lead
  last : Literal
  closed : last.IsClosed
  operated : lead.steps ≠ []
  result : Numeral
  reduced : ∃ tokens, tokenize (lead.text ++ last.text) = .ok tokens ∧
    Expression.reduce tokens = .ok result

namespace Answer

def text (answer : Answer) : List Char :=
  answer.lead.text ++ answer.last.text ++ ([' ', '=', ' '] ++ answer.result.literal)

def tokens (answer : Answer) : Expression :=
  (Draft.number answer.lead answer.last).tokens ++ [.resultMark, .number answer.result]

theorem reduced_tokens (answer : Answer) :
    Expression.reduce (Draft.number answer.lead answer.last).tokens = .ok answer.result := by
  obtain ⟨tokens, read, reduced⟩ := answer.reduced
  have same := (Draft.number answer.lead answer.last).tokenize_draft
  rw [Draft.text, read] at same
  rw [← Except.ok.inj same]
  exact reduced

theorem tokenize_answer (answer : Answer) : tokenize answer.text = .ok answer.tokens := by
  have before := (Draft.number answer.lead answer.last).tokenize_draft
  have mark := tokenize_text_append .resultMark ' ' answer.result.literal (by decide)
  have result := tokenize_text (.number answer.result)
  have after : tokenize ('=' :: ' ' :: answer.result.literal) =
      .ok [.resultMark, .number answer.result] :=
    mark.trans (congrArg (Except.map (Token.resultMark :: ·)) result)
  have split := tokenize_append_blank (answer.lead.text ++ answer.last.text)
    ('=' :: ' ' :: answer.result.literal) ' ' (by decide)
  rw [Draft.text] at before
  rw [before, after] at split
  exact split

theorem has_result (answer : Answer) : Expression.hasResult answer.tokens = true := by
  rw [Expression.hasResult, List.contains_iff_mem]
  simp [tokens]

theorem displayed (answer : Answer) :
    ∃ (value : Binary64) (number : Decimal),
      value.displayed = .ok number ∧ answer.result = .ofDecimal number := by
  have operated := List.length_pos_iff.mpr answer.operated
  apply Expression.displayed_of_reduced answer.reduced_tokens
  simp only [Draft.tokens, List.length_append, Lead.length_tokens, List.length_singleton]
  omega

theorem exists_literal (answer : Answer) :
    ∃ (negative : Bool) (literal : Literal), literal.IsClosed ∧
      answer.result = literal.numeral negative := by
  obtain ⟨_, number, -, written⟩ := answer.displayed
  obtain ⟨literal, closed, shape⟩ := Literal.exists_of_decimal number
  refine ⟨number.negative, literal, closed, ?_⟩
  rw [written]
  exact Numeral.eq_of_literal shape

def shown (answer : Answer) : Calculator := ⟨answer.text⟩

theorem expression_shown (answer : Answer) : answer.shown.expression = .ok answer.tokens :=
  Calculator.expression_of_tokens answer.tokenize_answer

theorem keep_result_shown (answer : Answer) :
    answer.shown.keepResult = .ok ⟨answer.result.literal⟩ := by
  have last : Expression.lastNumeral? answer.tokens = some answer.result := by
    have shape : answer.tokens = ((Draft.number answer.lead answer.last).tokens ++ [.resultMark]) ++
        [.number answer.result] := by simp [tokens]
    rw [shape, Expression.last_numeral_number]
  rw [Calculator.keepResult, expression_shown]
  simp only [bind, Except.bind, Calculator.guard_all_cons, answer.has_result, Bool.not_true,
    Bool.false_eq_true, if_false, Calculator.guard_all_nil, last]
  rfl

theorem evaluated (answer : Answer) :
    Calculator.evaluate ⟨answer.lead.text ++ answer.last.text⟩ = .ok answer.shown := by
  have complete :
      Expression.lastEndsWithPoint (Draft.number answer.lead answer.last).tokens = false := by
    rw [(Draft.last_of_number answer.lead answer.last).2.2]
    simp [answer.closed]
  apply (Draft.evaluate_shown (.number answer.lead answer.last)).trans
  simp only [answer.operated, if_false, complete, answer.reduced_tokens,
    Expression.divides_by_zero_of_reduced answer.reduced_tokens, Bool.false_eq_true]
  rfl

end Answer

/-- Drafts and answers are all that a display holds. -/
inductive Displayable : Calculator → Prop where
  | draft (draft : Draft) : Displayable draft.shown
  | answer (answer : Answer) : Displayable answer.shown

namespace Displayable

theorem of_text {text : List Char} (draft : ∃ draft : Draft, draft.text = text) :
    Displayable ⟨text⟩ := by
  obtain ⟨draft, rfl⟩ := draft
  exact .draft draft

/-- Evaluating a draft either fails or puts an answer in its place. -/
theorem of_evaluated (draft : Draft) {after : Calculator}
    (evaluated : draft.shown.evaluate = .ok after) : Displayable after := by
  rw [draft.evaluate_shown] at evaluated
  cases draft with
  | blank => contradiction
  | minus => contradiction
  | operator lead last closed sign =>
      simp only at evaluated
      split at evaluated
      · contradiction
      · contradiction
  | number lead last =>
      simp only at evaluated
      split at evaluated
      · contradiction
      · rename_i operated
        split at evaluated
        · contradiction
        · split at evaluated
          · contradiction
          · rename_i complete
            obtain ⟨result, found, rfl⟩ := ok_of_map evaluated
            have closed : last.IsClosed := by
              rw [(Draft.last_of_number lead last).2.2] at complete
              simpa using complete
            exact Displayable.answer ⟨lead, last, closed, operated, result, _,
              (Draft.number lead last).tokenize_draft, ok_of_map_error found⟩

theorem of_digits (draft : Draft) (text : List Char) {after : Calculator}
    (accepted : draft.shown.appendDigits text = .ok after) : Displayable after := by
  obtain ⟨-, longer, rfl, -⟩ := draft.digits_accepted accepted
  exact .draft longer

theorem of_point (draft : Draft) {after : Calculator}
    (accepted : draft.shown.appendPoint = .ok after) : Displayable after := by
  obtain ⟨longer, rfl, -⟩ := draft.point_accepted accepted
  exact .draft longer

theorem of_operator (draft : Draft) (sign : Operator) {after : Calculator}
    (accepted : draft.shown.appendOperator sign = .ok after) : Displayable after := by
  obtain ⟨lead, last, closed, -, rfl⟩ := draft.operator_accepted accepted
  exact .draft (.operator lead last closed sign)

theorem of_corrected (draft : Draft) {after : Calculator}
    (accepted : draft.shown.correct = .ok after) : Displayable after := by
  obtain ⟨shorter, corrected, -⟩ := draft.exists_corrected
  cases corrected.symm.trans accepted
  exact .draft shorter

theorem of_performed (draft : Draft) (operation : Operation) {after : Calculator}
    (accepted : draft.shown.perform operation = .ok after) : Displayable after := by
  cases operation with
  | digits text => exact of_digits draft text accepted
  | point => exact of_point draft accepted
  | operator sign => exact of_operator draft sign accepted
  | symbol text =>
      rw [Calculator.perform, Calculator.appendSymbol] at accepted
      cases found : Operator.ofText? text with
      | none =>
          rw [found] at accepted
          contradiction
      | some sign =>
          rw [found] at accepted
          exact of_operator draft sign accepted
  | correction => exact of_corrected draft accepted
  | clear =>
      cases accepted
      exact .draft .blank
  | keep =>
      rw [Calculator.perform, draft.keep_result_shown] at accepted
      contradiction
  | evaluate => exact of_evaluated draft accepted

theorem next {calculator : Calculator} (displayable : Displayable calculator)
    (operation : Operation) : Displayable (calculator.next operation) := by
  unfold Calculator.next
  cases performed : calculator.perform operation with
  | error reason => exact displayable
  | ok after =>
      change Displayable after
      cases displayable with
      | draft draft => exact of_performed draft operation performed
      | answer answer =>
          rcases Calculator.refused_of_result answer.expression_shown answer.has_result
            operation with rfl | rfl | unknown | refused
          · cases performed
            exact .draft .blank
          · rw [Calculator.perform, answer.keep_result_shown] at performed
            cases performed
            obtain ⟨negative, literal, -, kept⟩ := answer.exists_literal
            rw [kept]
            exact of_text ⟨_, Draft.text_single negative literal⟩
          · rw [Calculator.refused_of_unknown_symbol _ unknown] at performed
            contradiction
          · rw [refused] at performed
            contradiction

end Displayable

theorem Calculator.after_pressed (calculator : Calculator) (key : Key) :
    (calculator.pressed key).after = calculator.next key.operation := by
  unfold pressed next press
  cases calculator.perform key.operation <;> rfl

namespace Reachable

theorem of_accepted {calculator after : Calculator} (reachable : Reachable calculator)
    {operation : Operation} (accepted : calculator.perform operation = .ok after) :
    Reachable after := by
  have next := reachable.perform operation
  rw [Calculator.next_of_accepted accepted] at next
  exact next

theorem press_all {calculator after : Calculator} (reachable : Reachable calculator)
    {keys : List Key} (accepted : calculator.pressAll keys = .ok after) : Reachable after := by
  induction keys generalizing calculator with
  | nil =>
      cases accepted
      exact reachable
  | cons key keys induction =>
      rw [Calculator.press_all_cons] at accepted
      obtain ⟨typed, pressed, accepted⟩ := ok_of_bind accepted
      exact induction (reachable.of_accepted pressed) accepted

theorem iff_run (calculator : Calculator) :
    Reachable calculator ↔ ∃ operations, calculator = Calculator.new.run operations := by
  constructor
  · intro reachable
    induction reachable with
    | new => exact ⟨[], rfl⟩
    | perform _ operation induction =>
        obtain ⟨operations, rfl⟩ := induction
        exact ⟨operations ++ [operation], by simp [Calculator.run]⟩
    | press _ key induction =>
        obtain ⟨operations, rfl⟩ := induction
        refine ⟨operations ++ [key.operation], ?_⟩
        rw [Calculator.after_pressed]
        simp [Calculator.run]
  · rintro ⟨operations, rfl⟩
    have from_reached (start : Calculator) (reachable : Reachable start) :
        Reachable (start.run operations) := by
      induction operations generalizing start with
      | nil => exact reachable
      | cons operation operations induction =>
          exact induction _ (reachable.perform operation)
    exact from_reached _ .new

theorem displayable {calculator : Calculator} (reachable : Reachable calculator) :
    Displayable calculator := by
  induction reachable with
  | new => exact .draft .blank
  | perform _ operation induction => exact induction.next operation
  | press _ key induction =>
      rw [Calculator.after_pressed]
      exact induction.next key.operation

theorem exists_tokens {calculator : Calculator} (reachable : Reachable calculator) :
    ∃ tokens, calculator.tokens = .ok tokens := by
  cases reachable.displayable with
  | draft draft => exact ⟨_, draft.tokenize_draft⟩
  | answer answer => exact ⟨_, answer.tokenize_answer⟩

/-- A minus sign alone is left of a negative result that was kept and taken back. -/
theorem minus : Reachable Draft.minus.shown := by
  apply (iff_run _).mpr
  exact ⟨[.digits ['0'], .operator .subtract, .digits ['1'], .evaluate, .keep, .correction],
    by decide +kernel⟩

theorem lead (lead : Lead) : Reachable ⟨lead.text⟩ := by
  obtain ⟨negative, steps, closed⟩ := lead
  cases negative with
  | false => exact Reachable.new.press_all (Lead.press_steps (.ofSign false) steps closed)
  | true => exact minus.press_all (Lead.press_steps (.ofSign true) steps closed)

theorem draft (draft : Draft) : Reachable draft.shown := by
  cases draft with
  | blank => exact .new
  | minus => exact minus
  | number lead last => exact (Reachable.lead lead).press_all (Draft.press_literal lead last)
  | operator lead last closed sign =>
      have next := Reachable.lead (lead.push last closed sign)
      rw [lead.text_push] at next
      exact next

theorem answer (answer : Answer) : Reachable answer.shown := by
  have typed := Reachable.draft (.number answer.lead answer.last)
  have written : Calculator.perform _ .evaluate = .ok answer.shown := answer.evaluated
  exact typed.of_accepted written

end Reachable

theorem reachable_iff_displayable (calculator : Calculator) :
    Reachable calculator ↔ Displayable calculator := by
  constructor
  · exact Reachable.displayable
  · intro displayable
    cases displayable with
    | draft draft => exact .draft draft
    | answer answer => exact .answer answer

/-- The display always reads as tokens. Without a result among them it is a draft, with one it is
an answer, and there is no draft and no answer that it cannot be. -/
theorem reachable_displays (calculator : Calculator) :
    Reachable calculator ↔ ∃ tokens, calculator.tokens = .ok tokens ∧
      ((Expression.hasResult tokens = false ∧ ∃ draft : Draft, calculator.display = draft.text) ∨
        (Expression.hasResult tokens = true ∧
          ∃ answer : Answer, calculator.display = answer.text)) := by
  rw [reachable_iff_displayable]
  constructor
  · intro displayable
    cases displayable with
    | draft draft =>
        exact ⟨draft.tokens, draft.tokenize_draft, .inl ⟨draft.no_result, draft, rfl⟩⟩
    | answer answer =>
        exact ⟨answer.tokens, answer.tokenize_answer, .inr ⟨answer.has_result, answer, rfl⟩⟩
  · obtain ⟨display⟩ := calculator
    rintro ⟨tokens, -, ⟨-, draft, same⟩ | ⟨-, answer, same⟩⟩
    · obtain rfl : display = draft.text := same
      exact .draft draft
    · obtain rfl : display = answer.text := same
      exact .answer answer

end Keypad
