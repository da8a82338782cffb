import Keypad.Proofs.Chain.Continuation
import Keypad.Proofs.Display.DraftChain
import Keypad.Proofs.Display.ResultMark

/-!
Keeping a result and going on. What is typed behind a kept result comes to the same as what is
typed behind the expression itself, as long as the operator in between does not draw the last
number of the expression into a product or quotient of its own.
-/

namespace Keypad

namespace Chain

theorem text_extend (chain : Chain Numeral) (further : List (Operator × Numeral)) :
    (chain.extend further).text Numeral.literal =
      chain.text Numeral.literal ++ textRest Numeral.literal further := by
  simp [extend, text, textRest]

theorem complete_extend {chain : Chain Numeral} {further : List (Operator × Numeral)}
    (complete : chain.IsComplete) (later : ∀ step ∈ further, step.2.endsWithPoint = false) :
    (chain.extend further).IsComplete := by
  refine ⟨complete.1, ?_⟩
  intro step member
  exact (List.mem_append.mp member).elim (complete.2 step) (later step)

theorem divides_by_zero_extend {chain : Chain Numeral}
    (allowed : chain.tokens.dividesByZero = false) (first : Numeral)
    (further : List (Operator × Numeral)) :
    (chain.extend further).tokens.dividesByZero = (tokens ⟨first, further⟩).dividesByZero := by
  rw [Bool.eq_iff_iff, divides_by_zero_tokens, divides_by_zero_tokens]
  have none : ¬chain.HasZeroDivisor := by
    rw [← chain.divides_by_zero_tokens, allowed]
    exact Bool.false_ne_true
  constructor
  · rintro ⟨step, member, divisor⟩
    rcases List.mem_append.mp member with earlier | later
    · exact absurd ⟨step, earlier, divisor⟩ none
    · exact ⟨step, later, divisor⟩
  · rintro ⟨step, later, divisor⟩
    exact ⟨step, List.mem_append_right _ later, divisor⟩

theorem operator_mem_tokens {chain : Chain Numeral} {step : Operator × Numeral}
    (member : step ∈ chain.rest) : .operator step.1 ∈ chain.tokens := by
  apply List.mem_cons_of_mem
  exact List.mem_flatMap.mpr ⟨step, member, List.mem_cons_self ..⟩

/-- An operator and a chain behind it are typed behind every complete number. -/
theorem press_behind (lead : Lead) (last : Literal) (closed : last.IsClosed) (sign : Operator)
    (tail : Chain Literal) (tailClosed : tail.IsClosed) :
    Calculator.pressAll ⟨lead.text ++ last.text⟩ (.operator sign :: tail.keys) =
      .ok ⟨((lead.chain last).extend
        ((sign, tail.numerals.first) :: tail.numerals.rest)).text Numeral.literal⟩ := by
  have later : ∀ step ∈ (sign, tail.first) :: tail.rest, step.2.IsClosed :=
    List.forall_mem_cons.mpr tailClosed
  have typed := Draft.press_rest ((sign, tail.first) :: tail.rest) lead last closed later
  have written : textRest Numeral.literal ((sign, tail.numerals.first) :: tail.numerals.rest) =
      textRest Literal.text ((sign, tail.first) :: tail.rest) := by
    simp [numerals, map, textRest, Literal.numeral, Literal.minus, List.flatMap_map]
  rw [text_extend, lead.text_chain, written]
  exact typed

end Chain

/-- A result that is kept may stand for its expression. Where a sum or difference follows, or where
the expression has only products and quotients, typing further behind the result is evaluated like
typing it behind the expression, and the reductions agree. -/
theorem continue_from_result {calculator : Calculator} (reachable : Reachable calculator)
    {expression result : List Char}
    (shown : calculator.display = expression ++ [' ', '=', ' '] ++ result) {tokens : Expression}
    (read : tokenize expression = .ok tokens) (sign : Operator) (tail : Chain Literal)
    (closed : tail.IsClosed)
    (whole : sign.isPriority = false ∨
      ∀ other, Token.operator other ∈ tokens → other.isPriority = true) :
    ∃ short long,
      Calculator.evaluate ⟨expression⟩ = .ok calculator ∧ calculator.keepResult = .ok ⟨result⟩ ∧
      Calculator.pressAll ⟨result⟩ (.operator sign :: tail.keys) = .ok short ∧
      Calculator.pressAll ⟨expression⟩ (.operator sign :: tail.keys) = .ok long ∧
      short.EvaluatesLike long ∧
      ∃ kept : Numeral, kept.literal = result ∧
        Expression.reduce (tokens ++ .operator sign :: tail.numerals.tokens) =
          Expression.reduce (.number kept :: .operator sign :: tail.numerals.tokens) := by
  obtain ⟨answer, rfl, rfl, rfl⟩ := reachable.answer_of_mark shown
  let further := (sign, tail.numerals.first) :: tail.numerals.rest
  have drafted := (Draft.number answer.lead answer.last).tokenize_draft
  obtain rfl : tokens = (answer.lead.chain answer.last).tokens := by
    rw [← answer.lead.tokens_chain]
    exact Except.ok.inj (read.symm.trans drafted)
  have reduced := answer.reduced_tokens
  rw [answer.lead.tokens_chain] at reduced
  have found := (Expression.reduce_tokens_eq_value _).symm.trans reduced
  have values := Chain.value_extend found tail.numerals.first tail.numerals.rest
    (whole.imp_right fun priority _ member => priority _ (Chain.operator_mem_tokens member))
  obtain ⟨negative, literal, literalClosed, kept⟩ := answer.exists_literal
  have short : Calculator.pressAll ⟨answer.result.literal⟩ (.operator sign :: tail.keys) =
      .ok ⟨Chain.text Numeral.literal ⟨answer.result, further⟩⟩ := by
    rw [kept, ← Draft.text_single negative literal]
    exact Chain.press_behind (.ofSign negative) literal literalClosed sign tail closed
  have long := Chain.press_behind answer.lead answer.last answer.closed sign tail closed
  refine ⟨_, _, answer.evaluated, answer.keep_result_shown, short, long, ?_, answer.result, rfl, ?_⟩
  · have later : ∀ step ∈ further, step.2.endsWithPoint = false :=
      List.forall_mem_cons.mpr (tail.complete_numerals closed)
    have resultComplete : answer.result.endsWithPoint = false := by
      rw [kept]
      exact literal.complete_numeral negative literalClosed
    apply Calculator.evaluates_like_of_chains
    · exact ⟨resultComplete, later⟩
    · exact Chain.complete_extend (answer.lead.complete_chain answer.last answer.closed) later
    · exact List.cons_ne_nil _ _
    · exact List.append_ne_nil_of_right_ne_nil _ (List.cons_ne_nil _ _)
    · exact (Chain.divides_by_zero_extend
        (Expression.divides_by_zero_of_reduced reduced) answer.result further).symm
    · exact values.symm
  · have long_tokens := Chain.tokens_extend (answer.lead.chain answer.last) further
    have short_tokens := Expression.reduce_tokens_eq_value ⟨answer.result, further⟩
    rw [← values, ← Expression.reduce_tokens_eq_value, long_tokens] at short_tokens
    exact short_tokens.symm

/-- A negative result that was rounded, with a product behind a minus sign. -/
theorem continue_from_result_negative :
    ∃ (calculator : Calculator) (tail : Chain Literal), Reachable calculator ∧ tail.IsClosed ∧
      calculator.display = "1 ÷ 3 - 1 = -0.66667".toList ∧
      Calculator.pressAll ⟨"-0.66667".toList⟩ (.operator .subtract :: tail.keys) =
        .ok ⟨"-0.66667 - 2 x 3".toList⟩ ∧
      Calculator.EvaluatesLike ⟨"-0.66667 - 2 x 3".toList⟩ ⟨"1 ÷ 3 - 1 - 2 x 3".toList⟩ := by
  let one : Literal := ⟨['1'], none, by simp, by simp, by simp⟩
  let two : Literal := ⟨['2'], none, by simp, by simp, by simp⟩
  let three : Literal := ⟨['3'], none, by simp, by simp, by simp⟩
  let chain : Chain Literal := ⟨one, [(.divide, three), (.subtract, one)]⟩
  let tail : Chain Literal := ⟨two, [(.multiply, three)]⟩
  have closed : tail.IsClosed := ⟨by decide, by decide⟩
  have reachable : Reachable ⟨"1 ÷ 3 - 1 = -0.66667".toList⟩ := by
    apply (Reachable.iff_run _).mpr
    exact ⟨[.digits ['1'], .operator .divide, .digits ['3'], .operator .subtract, .digits ['1'],
      .evaluate], by decide +kernel⟩
  have shown : "1 ÷ 3 - 1 = -0.66667".toList =
      "1 ÷ 3 - 1".toList ++ [' ', '=', ' '] ++ "-0.66667".toList := by decide
  have written : chain.numerals.text Numeral.literal = "1 ÷ 3 - 1".toList := by decide
  obtain ⟨short, long, -, -, shortTyped, longTyped, like, -⟩ :=
    continue_from_result reachable shown (written ▸ chain.numerals.tokenize_chain) .subtract tail
      closed (.inl rfl)
  have shortShown : short = ⟨"-0.66667 - 2 x 3".toList⟩ := by
    apply ok_unique shortTyped
    decide +kernel
  have longShown : long = ⟨"1 ÷ 3 - 1 - 2 x 3".toList⟩ := by
    apply ok_unique longTyped
    decide +kernel
  rw [shortShown] at like shortTyped
  rw [longShown] at like
  exact ⟨_, tail, reachable, closed, rfl, shortTyped, like⟩

end Keypad
