import Keypad.Proofs.Binary64.Finite
import Keypad.Proofs.Display.ResultMark

/-!
A display with a result is frozen. Whatever is asked of it but to clear it or to keep the result is
refused, over any run of operations and any session of keys. The result that is kept afterwards is
the very number that the reduction ended in, and it can be gone on with.
-/

namespace Keypad

namespace Calculator

theorem pressed_of_refused {calculator : Calculator} {key : Key} {reason : Rejection}
    (refused : calculator.press key = .error reason) :
    calculator.pressed key = ⟨key, some reason, calculator⟩ := by
  rw [pressed, refused]

theorem run_of_refused {calculator : Calculator} {operations : List Operation}
    (refused : ∀ operation ∈ operations, ∃ reason, calculator.perform operation = .error reason) :
    calculator.run operations = calculator := by
  induction operations with
  | nil => rfl
  | cons operation operations induction =>
      obtain ⟨⟨reason, here⟩, later⟩ := List.forall_mem_cons.mp refused
      rw [run_cons, next_of_refused here]
      exact induction later

theorem session_of_refused {calculator : Calculator} {keys : List Key}
    (refused : ∀ key ∈ keys, ∃ reason, calculator.press key = .error reason) :
    ∀ press ∈ calculator.session keys,
      (∃ reason, press.refusal = some reason) ∧ press.after = calculator := by
  induction keys with
  | nil => exact nofun
  | cons key keys induction =>
      obtain ⟨⟨reason, here⟩, later⟩ := List.forall_mem_cons.mp refused
      rw [session, pressed_of_refused here]
      exact List.forall_mem_cons.mpr ⟨⟨⟨reason, rfl⟩, rfl⟩, induction later⟩

end Calculator

namespace Answer

theorem has_result_shown (answer : Answer) : answer.shown.hasResult = true :=
  (Calculator.has_result_of_tokens answer.tokenize_answer).trans answer.has_result

theorem refused (answer : Answer) {operation : Operation} (noClear : operation ≠ .clear)
    (noKeep : operation ≠ .keep) : ∃ reason, answer.shown.perform operation = .error reason := by
  rcases Calculator.refused_of_result answer.expression_shown answer.has_result operation with
    clear | keep | unknown | refused
  · contradiction
  · contradiction
  · exact ⟨_, Calculator.refused_of_unknown_symbol _ unknown⟩
  · exact ⟨_, refused⟩

theorem run_shown (answer : Answer) {operations : List Operation}
    (allowed : ∀ operation ∈ operations, operation ≠ .clear ∧ operation ≠ .keep) :
    answer.shown.run operations = answer.shown := by
  apply Calculator.run_of_refused
  intro operation member
  obtain ⟨noClear, noKeep⟩ := allowed operation member
  exact answer.refused noClear noKeep

theorem session_shown (answer : Answer) {keys : List Key}
    (allowed : ∀ key ∈ keys, key ≠ .allClear ∧ key ≠ .keep) :
    ∀ press ∈ answer.shown.session keys,
      (∃ reason, press.refusal = some reason) ∧ press.after = answer.shown := by
  apply Calculator.session_of_refused
  intro key member
  obtain ⟨noClear, noKeep⟩ := allowed key member
  exact answer.refused (mt key.operation_eq_clear.mp noClear) (mt key.operation_eq_keep.mp noKeep)

/-- A result has a finite value: it was written for one, and reads as the nearest to what was
written. -/
theorem finite (answer : Answer) : answer.result.value.isFinite = true := by
  obtain ⟨value, number, written, same⟩ := answer.displayed
  rw [same]
  exact Decimal.value_finite_of_displayed written

theorem append_operator_kept (answer : Answer) (sign : Operator) :
    Calculator.appendOperator ⟨answer.result.literal⟩ sign =
      .ok ⟨answer.result.literal ++ [' ', sign.symbol, ' ']⟩ := by
  obtain ⟨negative, literal, closed, same⟩ := answer.exists_literal
  have typed := Draft.append_operator_shown (.number (.ofSign negative) literal) sign
  rw [Draft.shown, Draft.text_single, ← same] at typed
  exact typed.trans (if_pos closed)

end Answer

namespace Calculator

/-- The display holds one complete number, the one that is given, and may be gone on with. -/
structure HoldsNumber (calculator : Calculator) (numeral : Numeral) : Prop where
  single : calculator.tokens = .ok [.number numeral]
  finite : numeral.value.isFinite = true
  noResult : calculator.hasResult = false
  continued : ∀ sign, calculator.appendOperator sign =
    .ok ⟨numeral.literal ++ [' ', sign.symbol, ' ']⟩

end Calculator

theorem Answer.holds_result (answer : Answer) :
    Calculator.HoldsNumber ⟨answer.result.literal⟩ answer.result := by
  have single : Calculator.tokens ⟨answer.result.literal⟩ = .ok [.number answer.result] :=
    tokenize_text (.number answer.result)
  exact {
    single
    finite := answer.finite
    noResult := Calculator.has_result_of_tokens single
    continued := answer.append_operator_kept }

/-- A result stays on the display until it is cleared or kept. Kept, it is the number that the
expression before it reduces to, alone on the display. Without a result there is none to keep. -/
theorem life_of_result {calculator : Calculator} (reachable : Reachable calculator) :
    (calculator.hasResult = true →
      (∀ operations : List Operation,
        (∀ operation ∈ operations, operation ≠ .clear ∧ operation ≠ .keep) →
        calculator.run operations = calculator ∧
        (∀ before operation after, operations = before ++ operation :: after →
          ∃ reason, (calculator.run before).perform operation = .error reason) ∧
        (calculator.run operations).perform .clear = .ok ⟨[]⟩ ∧
        ∃ (expression : List Char) (tokens : Expression) (result : Numeral),
          calculator.display = expression ++ [' ', '=', ' '] ++ result.literal ∧
          '=' ∉ expression ∧ tokenize expression = .ok tokens ∧ tokens.reduce = .ok result ∧
          (calculator.run operations).perform .keep = .ok ⟨result.literal⟩ ∧
          Calculator.HoldsNumber ⟨result.literal⟩ result) ∧
      ∀ keys : List Key, (∀ key ∈ keys, key ≠ .allClear ∧ key ≠ .keep) →
        ∀ press ∈ calculator.session keys,
          (∃ reason, press.refusal = some reason) ∧ press.after = calculator) ∧
    (calculator.hasResult = false → calculator.perform .keep = .error .keeping) := by
  cases reachable.displayable with
  | draft draft =>
      constructor
      · intro answered
        exact absurd (draft.has_result_shown.symm.trans answered) Bool.false_ne_true
      · exact fun _ => draft.keep_result_shown
  | answer answer =>
      refine ⟨fun _ => ⟨?_, fun keys => answer.session_shown⟩, fun unanswered => ?_⟩
      · intro operations allowed
        rw [answer.run_shown allowed]
        refine ⟨rfl, ?_, rfl, ?_⟩
        · rintro before operation after rfl
          obtain ⟨earlier, here⟩ := List.forall_mem_append.mp allowed
          obtain ⟨noClear, noKeep⟩ := here operation (List.mem_cons_self ..)
          -- The operations before it have left the answer as it is.
          rw [answer.run_shown earlier]
          exact answer.refused noClear noKeep
        · have absent := (Draft.number answer.lead answer.last).mark_not_mem
          exact ⟨answer.lead.text ++ answer.last.text, _, answer.result, answer.display_shown,
            absent, (Draft.number answer.lead answer.last).tokenize_draft, answer.reduced_tokens,
            answer.keep_result_shown, answer.holds_result⟩
      · exact absurd (unanswered.symm.trans answer.has_result_shown) Bool.false_ne_true

/-- A negative result that was rounded, after digits, a symbol that is no operator, a correction and
a second evaluation were asked for. -/
theorem life_of_result_negative :
    ∃ calculator : Calculator, Reachable calculator ∧
      calculator.display = "0 - 10 ÷ 3 = -3.33333".toList ∧
      (calculator.run [.digits ['7'], .symbol ['/'], .correction, .evaluate]).perform .keep =
        .ok ⟨"-3.33333".toList⟩ := by
  have reachable : Reachable ⟨"0 - 10 ÷ 3 = -3.33333".toList⟩ := by
    apply (Reachable.iff_run _).mpr
    exact ⟨[.digits ['0'], .operator .subtract, .digits ['1', '0'], .operator .divide,
      .digits ['3'], .evaluate], by decide +kernel⟩
  have answered : Calculator.hasResult ⟨"0 - 10 ÷ 3 = -3.33333".toList⟩ = true := by decide +kernel
  obtain ⟨frozen, -⟩ := (life_of_result reachable).1 answered
  obtain ⟨-, -, -, expression, tokens, result, -, -, -, -, kept, -⟩ :=
    frozen [.digits ['7'], .symbol ['/'], .correction, .evaluate] (by decide)
  have left : (⟨result.literal⟩ : Calculator) = ⟨"-3.33333".toList⟩ := by
    apply ok_unique kept
    decide +kernel
  rw [left] at kept
  exact ⟨_, reachable, rfl, kept⟩

end Keypad
