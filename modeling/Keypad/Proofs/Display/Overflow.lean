import Keypad.Proofs.Display.Success
import Keypad.Proofs.Reduction.Overflow

/-!
Evaluations of numbers that are too large. Digits can be typed without end, so a number on the
display may have no finite value. An evaluation is refused for it, wherever the number stands,
unless it stands behind a division sign: that quotient is zero and the evaluation goes on.
-/

namespace Keypad

namespace Expression

theorem length_of_ready {tokens : Expression} (ready : tokens.IsReady) : 2 ≤ tokens.length := by
  have enough := ready.enough
  rw [hasEnoughTokens, ready.noResult, Bool.false_or, decide_eq_true_eq,
    minOperationTokens] at enough
  omega

end Expression

/-- An evaluation rests on finite numbers, but for divisors whose quotients are shown as zero; and
an infinite number in any other place stops it behind its checks. -/
theorem evaluation_rests_on_finite {calculator : Calculator} (reachable : Reachable calculator) :
    ∃ tokens, calculator.tokens = .ok tokens ∧
      (∀ after, calculator.evaluate = .ok after → tokens.RestsOnFinite) ∧
      (tokens.IsReady → ¬tokens.FiniteButDivisors →
        calculator.evaluate = .error .operationImpossible) := by
  rcases reachable.exists_tokens with ⟨tokens, read⟩
  refine ⟨tokens, read, fun after evaluated => ?_, fun ready infinite => ?_⟩
  · rcases Calculator.ready_of_evaluated read evaluated with ⟨ready, result, reduced, -⟩
    exact Expression.rests_on_finite reduced (Expression.length_of_ready ready)
  · have evaluation := Calculator.evaluate_of_ready read ready
    rcases reachable.chain_of_ready read ready with ⟨chain, -, shape, -, -, allowed⟩
    rcases chain.value_without_zero_divisor allowed with ⟨outcome, failed⟩ | ⟨result, found⟩
    · rw [evaluation, shape, Expression.reduce_tokens_eq_value, failed]
      rfl
    · rw [← Expression.reduce_tokens_eq_value, ← shape] at found
      exact absurd (Expression.finite_but_divisors found (Expression.length_of_ready ready))
        infinite

def Literal.scaled (digit : Char) (isDigit : digit.isDigit = true) (zeros : Nat) : Literal where
  whole := digit :: List.replicate zeros '0'
  fraction := none
  nonempty := List.cons_ne_nil _ _
  wholeDigits := by
    intro character member
    rcases List.mem_cons.mp member with first | zero
    · exact first ▸ isDigit
    · exact (List.mem_replicate.mp zero).2 ▸ rfl
  fractionDigits := nofun

theorem Literal.literal_scaled (digit : Char) (isDigit : digit.isDigit = true) (zeros : Nat) :
    ((scaled digit isDigit zeros).numeral false).literal = digit :: List.replicate zeros '0' := by
  simp [numeral, minus, text, scaled, pointText]

/-- A literal of three hundred and ten characters is infinite, and adding it to one is refused. -/
theorem evaluation_rests_on_finite_sum :
    ∃ (calculator : Calculator) (tokens : Expression),
      Reachable calculator ∧ calculator.tokens = .ok tokens ∧ tokens.IsReady ∧
      ¬tokens.FiniteButDivisors ∧ calculator.evaluate = .error .operationImpossible := by
  let large := Literal.scaled '1' rfl 309
  let lead : Lead := ⟨false, [(.scaled '1' rfl 0, .add)], List.forall_mem_singleton.mpr nofun⟩
  let draft : Draft := .number lead large
  have ready : draft.tokens.IsReady :=
    ⟨by decide +kernel, by decide +kernel, by decide +kernel, by decide +kernel, by decide +kernel⟩
  have infinite : (large.numeral false).value.isFinite = false := by decide +kernel
  have misplaced : ¬draft.tokens.FiniteButDivisors := by
    intro kept
    have place : (false, large.numeral false) ∈ draft.tokens.placed false :=
      List.mem_cons_of_mem _ (List.mem_singleton_self _)
    have finite := (kept _ place).resolve_right Bool.false_ne_true
    exact Bool.false_ne_true (infinite.symm.trans finite)
  rcases evaluation_rests_on_finite (Reachable.draft draft) with ⟨tokens, read, -, refused⟩
  cases Except.ok.inj (draft.tokenize_draft.symm.trans read)
  exact ⟨draft.shown, draft.tokens, .draft draft, read, ready, misplaced,
    refused ready misplaced⟩

/-- A one with three hundred and eight zeros, divided by its double, is shown as zero. The divisor
has no finite value. -/
theorem infinite_divisor_evaluates :
    ∃ (calculator : Calculator) (tokens : Expression) (left right : Numeral),
      Reachable calculator ∧ calculator.tokens = .ok tokens ∧
      tokens = [.number left, .operator .divide, .number right] ∧
      left.literal = '1' :: List.replicate 308 '0' ∧
      right.literal = '2' :: List.replicate 308 '0' ∧ right.value.isFinite = false ∧
      calculator.evaluate = .ok ⟨calculator.display ++ [' ', '=', ' ', '0']⟩ := by
  let lead : Lead :=
    ⟨false, [(.scaled '1' rfl 308, .divide)], List.forall_mem_singleton.mpr nofun⟩
  let draft : Draft := .number lead (.scaled '2' rfl 308)
  have ready : draft.tokens.IsReady :=
    ⟨by decide +kernel, by decide +kernel, by decide +kernel, by decide +kernel, by decide +kernel⟩
  have reduced : draft.tokens.reduce.toOption.map Numeral.literal = some ['0'] := by
    decide +kernel
  have evaluation : draft.shown.evaluate = _ :=
    Calculator.evaluate_of_ready draft.tokenize_draft ready
  refine ⟨draft.shown, draft.tokens, (Literal.scaled '1' rfl 308).numeral false,
    (Literal.scaled '2' rfl 308).numeral false, .draft draft, draft.tokenize_draft, rfl,
    Literal.literal_scaled .., Literal.literal_scaled .., by decide +kernel, ?_⟩
  cases found : draft.tokens.reduce with
  | error cause =>
      rw [found] at reduced
      cases reduced
  | ok result =>
      rw [found] at reduced evaluation
      rw [evaluation, ← Option.some.inj reduced]
      rfl

end Keypad
