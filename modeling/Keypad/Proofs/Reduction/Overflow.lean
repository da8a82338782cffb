import Keypad.Proofs.Reduction.Divisors
import Keypad.Proofs.Reduction.Finiteness

/-!
Operands beyond the finite values. A literal may be too large for the format, and then its value is
infinite. Every operation on such a value has an outcome that is not finite either, and stops the
reduction, except for one: a quotient by it is zero. So an expression that reduces has no infinite
number but directly behind a division sign.
-/

namespace Keypad

namespace Binary64

theorem finite_neg {value : Binary64} (finite : (-value).isFinite = true) :
    value.isFinite = true := by
  cases value with
  | nan => contradiction
  | infinity negative => contradiction
  | finite negative units representable => rfl

theorem finite_of_add {left right : Binary64} (finite : (left + right).isFinite = true) :
    left.isFinite = true ∧ right.isFinite = true := by
  cases left with
  | nan => contradiction
  | infinity leftNegative =>
      cases right with
      | nan => contradiction
      | infinity rightNegative =>
          change (if leftNegative = rightNegative then infinity leftNegative else nan).isFinite =
            true at finite
          split at finite
          · contradiction
          · contradiction
      | finite rightNegative right representable => contradiction
  | finite leftNegative left representable =>
      cases right with
      | nan => contradiction
      | infinity rightNegative => contradiction
      | finite rightNegative right representable => exact ⟨rfl, rfl⟩

theorem finite_of_sub {left right : Binary64} (finite : (left - right).isFinite = true) :
    left.isFinite = true ∧ right.isFinite = true := by
  have operands : left.isFinite = true ∧ (-right).isFinite = true := finite_of_add finite
  exact ⟨operands.1, finite_neg operands.2⟩

theorem finite_of_mul {left right : Binary64} (finite : (left * right).isFinite = true) :
    left.isFinite = true ∧ right.isFinite = true := by
  cases left with
  | nan => contradiction
  | infinity leftNegative =>
      cases right with
      | nan => contradiction
      | infinity rightNegative => contradiction
      | finite rightNegative right representable =>
          change (if right = 0 then nan else infinity (leftNegative ^^ rightNegative)).isFinite =
            true at finite
          split at finite
          · contradiction
          · contradiction
  | finite leftNegative left representable =>
      cases right with
      | nan => contradiction
      | infinity rightNegative =>
          change (if left = 0 then nan else infinity (leftNegative ^^ rightNegative)).isFinite =
            true at finite
          split at finite
          · contradiction
          · contradiction
      | finite rightNegative right representable => exact ⟨rfl, rfl⟩

/-- A quotient may be finite by an infinite divisor, and is zero then. -/
theorem finite_of_div {left right : Binary64} (finite : (left / right).isFinite = true) :
    left.isFinite = true ∧ (right.isFinite = true ∨ ∃ negative, left / right = zero negative) := by
  cases left with
  | nan => contradiction
  | infinity leftNegative =>
      cases right with
      | nan => contradiction
      | infinity rightNegative => contradiction
      | finite rightNegative right representable => contradiction
  | finite leftNegative left representable =>
      cases right with
      | nan => contradiction
      | infinity rightNegative => exact ⟨rfl, .inr ⟨leftNegative ^^ rightNegative, rfl⟩⟩
      | finite rightNegative right representable => exact ⟨rfl, .inl rfl⟩

theorem displayed_zero (negative : Bool) : (zero negative).displayed = .ok ⟨false, 0, 0⟩ := by
  cases negative with
  | false => exact congrArg Except.ok (by decide +kernel)
  | true => exact congrArg Except.ok (by decide +kernel)

end Binary64

namespace Operator

theorem finite_operands {sign : Operator} {left right : Binary64}
    (finite : (sign.apply left right).isFinite = true) :
    left.isFinite = true ∧
      (right.isFinite = true ∨ sign = .divide ∧ ∃ negative, left / right = .zero negative) := by
  cases sign with
  | add =>
      have operands := Binary64.finite_of_add finite
      exact ⟨operands.1, .inl operands.2⟩
  | subtract =>
      have operands := Binary64.finite_of_sub finite
      exact ⟨operands.1, .inl operands.2⟩
  | multiply =>
      have operands := Binary64.finite_of_mul finite
      exact ⟨operands.1, .inl operands.2⟩
  | divide =>
      have operands := Binary64.finite_of_div finite
      exact ⟨operands.1, operands.2.imp_right fun zero => ⟨rfl, zero⟩⟩

/-- What a finite operation rests on: its result is finite, its left operand is, and its right one
too unless it is a divisor, whose quotient is shown as zero. -/
structure RestsOnFinite (sign : Operator) (first second total : Numeral) : Prop where
  outcome : (sign.apply first.value second.value).isFinite = true
  result : total.value.isFinite = true
  left : first.value.isFinite = true
  right : second.value.isFinite = true ∨ sign = .divide ∧ total.literal = ['0']

theorem rests_on_finite {sign : Operator} {left right result : Numeral}
    (computed : sign.rounded left right = .ok result) : sign.RestsOnFinite left right result := by
  rcases result_of_rounded computed with ⟨number, shown, rfl⟩
  have finite := finite_of_rounded computed
  have operands := finite_operands finite
  refine ⟨finite, Decimal.value_finite_of_displayed shown, operands.1, ?_⟩
  rcases operands.2 with right | ⟨rfl, negative, zero⟩
  · exact .inl right
  · change (left.value / right.value).displayed = .ok number at shown
    rw [zero, Binary64.displayed_zero] at shown
    cases shown
    exact .inr ⟨rfl, by decide +kernel⟩

end Operator

namespace Expression

/-- The numbers of an expression in order, each with whether a division sign stands directly before
it. -/
def placed (divided : Bool) : Expression → List (Bool × Numeral)
  | [] => []
  | .number numeral :: rest => (divided, numeral) :: placed false rest
  | .operator sign :: rest => placed (sign == .divide) rest
  | .resultMark :: rest => placed false rest

def FiniteButDivisors (tokens : Expression) : Prop :=
  ∀ place ∈ tokens.placed false, place.2.value.isFinite = true ∨ place.1 = true

theorem placed_append (start : Expression) (divided : Bool) :
    ∃ behind, ∀ (numeral : Numeral) (rest : Expression),
      placed divided (start ++ .number numeral :: rest) =
        placed divided start ++ (behind, numeral) :: placed false rest := by
  induction start generalizing divided with
  | nil => exact ⟨divided, fun _ _ => rfl⟩
  | cons token start induction =>
      cases token with
      | number first =>
          rcases induction false with ⟨behind, later⟩
          refine ⟨behind, fun numeral rest => ?_⟩
          rw [List.cons_append, placed, placed, later, List.cons_append]
      | operator sign => exact induction (sign == .divide)
      | resultMark => exact induction false

theorem finite_but_divisors_step {tokens shorter : Expression} (stepped : step tokens = .ok shorter)
    (kept : shorter.FiniteButDivisors) : tokens.FiniteButDivisors := by
  rcases step_eq_ok stepped with ⟨start, sign, left, right, rest, result, rfl, rfl, computed, -⟩
  have operands := Operator.rests_on_finite computed
  rcases placed_append start false with ⟨behind, places⟩
  simp only [FiniteButDivisors, places, placed, List.forall_mem_append, List.forall_mem_cons]
    at kept ⊢
  rcases kept with ⟨before, -, after⟩
  have divisor := operands.right.imp_right fun divided => beq_iff_eq.mpr divided.1
  exact ⟨before, .inl operands.left, divisor, after⟩

theorem finite_of_reduced {tokens : Expression} {numeral : Numeral}
    (reduced : reduce tokens = .ok numeral) (operated : 2 ≤ tokens.length) :
    numeral.value.isFinite = true := by
  rcases displayed_of_reduced reduced operated with ⟨value, number, shown, rfl⟩
  exact Decimal.value_finite_of_displayed shown

theorem finite_but_divisors {tokens : Expression} {numeral : Numeral}
    (reduced : reduce tokens = .ok numeral) (operated : 2 ≤ tokens.length) :
    tokens.FiniteButDivisors := by
  have finite := finite_of_reduced reduced operated
  -- A number alone is finite here because it is the result, not because it was typed.
  exact reduce_induction
    (motive := fun tokens numeral => numeral.value.isFinite = true → tokens.FiniteButDivisors)
    (fun numeral finite => by simpa [FiniteButDivisors, placed] using finite)
    (fun _ _ _ stepped _ kept finite => finite_but_divisors_step stepped (kept finite))
    reduced finite

/-- What every step of a reduction rests on, and what the numbers of the expression have to be. -/
structure RestsOnFinite (tokens : Expression) : Prop where
  numbers : tokens.FiniteButDivisors
  steps : ∀ reached shorter, LeadsTo tokens reached → step reached = .ok shorter →
    ∃ start sign left right rest result,
      reached = start ++ .number left :: .operator sign :: .number right :: rest ∧
        shorter = start ++ .number result :: rest ∧ sign.RestsOnFinite left right result

theorem rests_on_finite {tokens : Expression} {numeral : Numeral}
    (reduced : reduce tokens = .ok numeral) (operated : 2 ≤ tokens.length) :
    tokens.RestsOnFinite where
  numbers := finite_but_divisors reduced operated
  steps reached shorter _ stepped := by
    rcases step_eq_ok stepped with
      ⟨start, sign, left, right, rest, result, before, after, computed, -⟩
    exact ⟨start, sign, left, right, rest, result, before, after,
      Operator.rests_on_finite computed⟩

end Expression

end Keypad
