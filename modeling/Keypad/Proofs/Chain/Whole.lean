import Keypad.Proofs.Binary64.Whole
import Keypad.Proofs.Chain.Simulation
import Keypad.Proofs.Chain.Sums

/-!
Expressions of whole numbers. Where the exact evaluation divides only without a remainder and never
leaves the whole numbers up to 2^53, every operation on binary values is exact and every result is
written with all its digits, so the display shows the exact value. The exact evaluation is the same
two-level one as that of numerals, on integers.
-/

namespace Keypad

inductive Inexact where
  | divisionByZero
  | remainder
  | tooLarge
  deriving DecidableEq

def wholeWithin (number : Int) : Except Inexact Int :=
  if number.natAbs ≤ Binary64.wholeLimit then .ok number else .error .tooLarge

/-- The operation on whole numbers, where its result is one too. -/
def Operator.whole (sign : Operator) (left right : Int) : Except Inexact Int :=
  match sign with
  | add => wholeWithin (left + right)
  | subtract => wholeWithin (left - right)
  | multiply => wholeWithin (left * right)
  | divide =>
      if right = 0 then .error .divisionByZero
      else if right ∣ left then wholeWithin (left / right)
      else .error .remainder

theorem of_whole_within {number result : Int} (found : wholeWithin number = .ok result) :
    result = number ∧ number.natAbs ≤ Binary64.wholeLimit := by
  rw [wholeWithin] at found
  split at found
  · rename_i small
    exact ⟨(Except.ok.inj found).symm, small⟩
  · contradiction

namespace Numeral

def Denotes (numeral : Numeral) (number : Int) : Prop := numeral.value.IsWhole number

/-- The numeral is what the display writes for the whole number. -/
structure Writes (numeral : Numeral) (number : Int) : Prop where
  written : numeral = .ofDecimal (.ofInt number)
  small : number.natAbs ≤ Binary64.wholeLimit

theorem Writes.denotes {numeral : Numeral} {number : Int} (writes : numeral.Writes number) :
    numeral.Denotes number := by
  have whole := Decimal.whole_value (decide (number < 0)) writes.small
  rw [Binary64.signed_nat_abs] at whole
  rw [writes.written]
  exact whole

end Numeral

namespace Operator

theorem rounded_of_whole {sign : Operator} {left right : Numeral} {number : Int}
    (whole : (sign.apply left.value right.value).IsWhole number)
    (allowed : ¬(sign = .divide ∧ right.value.isZero)) :
    sign.rounded left right = .ok (.ofDecimal (.ofInt number)) := by
  rw [rounded, if_neg allowed, Binary64.displayed_of_whole whole]

theorem whole_apply {sign : Operator} {left right : Binary64} {first second result : Int}
    (wholeLeft : left.IsWhole first) (wholeRight : right.IsWhole second)
    (found : sign.whole first second = .ok result) :
    (sign.apply left right).IsWhole result ∧ result.natAbs ≤ Binary64.wholeLimit := by
  cases sign with
  | add =>
      rcases of_whole_within found with ⟨rfl, small⟩
      exact ⟨Binary64.whole_add wholeLeft wholeRight small, small⟩
  | subtract =>
      rcases of_whole_within found with ⟨rfl, small⟩
      exact ⟨Binary64.whole_sub wholeLeft wholeRight small, small⟩
  | multiply =>
      rcases of_whole_within found with ⟨rfl, small⟩
      exact ⟨Binary64.whole_mul wholeLeft wholeRight small, small⟩
  | divide =>
      rw [whole] at found
      split at found
      · contradiction
      · rename_i nonzero
        split at found
        · rename_i even
          rcases of_whole_within found with ⟨rfl, small⟩
          rw [← Int.ediv_mul_cancel even] at wholeLeft
          exact ⟨Binary64.whole_div wholeLeft wholeRight nonzero small, small⟩
        · contradiction

theorem nonzero_of_whole {first second result : Int}
    (found : divide.whole first second = .ok result) : second ≠ 0 := by
  rw [whole] at found
  split at found
  · contradiction
  · assumption

theorem simulates_whole : Chain.Simulates Numeral.Denotes Numeral.Writes rounded whole where
  related_of_made := Numeral.Writes.denotes
  operation sign left right first second result denotesLeft denotesRight found := by
    have exact := whole_apply denotesLeft denotesRight found
    refine ⟨_, rounded_of_whole exact.1 ?_, rfl, exact.2⟩
    rintro ⟨rfl, zero⟩
    exact nonzero_of_whole found ((Binary64.is_zero_iff_of_whole denotesRight).mp zero)

end Operator

def Literal.integer (literal : Literal) : Int := Nat.ofDigitChars 10 literal.whole 0

theorem Literal.denotes_integer {literal : Literal} (pointless : literal.fraction = none)
    (small : literal.integer ≤ Binary64.wholeLimit) :
    (literal.numeral false).Denotes literal.integer := by
  have decimal : literal.decimal false = ⟨false, Nat.ofDigitChars 10 literal.whole 0, 0⟩ := by
    simp [Literal.decimal, pointless]
  rw [integer, Nat.cast_le] at small
  change (literal.decimal false).value.IsWhole literal.integer
  rw [decimal]
  exact Decimal.whole_value false small

namespace Chain

/-- Whole numbers up to the limit, without points, with an operation among them. -/
structure IsWhole (chain : Chain Literal) : Prop where
  operated : chain.rest ≠ []
  pointless : ∀ literal ∈ chain.operands, literal.fraction = none
  small : ∀ literal ∈ chain.operands, literal.integer ≤ Binary64.wholeLimit

namespace IsWhole

variable {chain : Chain Literal} (numbers : chain.IsWhole)

include numbers

theorem denotes : Related Numeral.Denotes chain.numerals (chain.map Literal.integer) := by
  have each (literal : Literal) (member : literal ∈ chain.operands) :=
    Literal.denotes_integer (numbers.pointless literal member) (numbers.small literal member)
  apply related_map
  · exact each _ (List.mem_cons_self ..)
  · intro step member
    exact each _ (List.mem_cons_of_mem _ (List.mem_map_of_mem member))

theorem closed : chain.IsClosed := by
  have each (literal : Literal) (member : literal ∈ chain.operands) : literal.IsClosed := by
    rw [Literal.IsClosed, numbers.pointless literal member]
    exact (Option.some_ne_none _).symm
  constructor
  · exact each _ (List.mem_cons_self ..)
  · intro step member
    exact each _ (List.mem_cons_of_mem _ (List.mem_map_of_mem member))

end IsWhole

/-- Typed on a new calculator and evaluated, whole numbers show their exact value, wherever the
exact evaluation stays within the limit and leaves no remainder. -/
theorem evaluate_whole_numbers (chain : Chain Literal) (numbers : chain.IsWhole) (total : Int)
    (exact : (chain.map Literal.integer).byTerms Operator.whole = .ok total) :
    Calculator.new.pressAll chain.keys = .ok ⟨chain.text Literal.text⟩ ∧
      Calculator.evaluate ⟨chain.text Literal.text⟩ =
        .ok ⟨chain.text Literal.text ++ [' ', '=', ' '] ++ (toString total).toList⟩ := by
  have operated := chain.operated_numerals numbers.operated
  rcases Operator.simulates_whole.by_terms numbers.denotes operated exact with
    ⟨result, value, writes⟩
  rw [← value_by_terms] at value
  have reduced := (Expression.reduce_tokens_eq_value chain.numerals).trans value
  have evaluated := Calculator.evaluate_chain chain.numerals
    (chain.complete_numerals numbers.closed) operated
  rw [Expression.divides_by_zero_of_reduced reduced, value, chain.text_numerals,
    writes.written] at evaluated
  refine ⟨Draft.press_chain chain numbers.closed, ?_⟩
  rw [evaluated, List.append_assoc, ← Decimal.text_of_int]
  rfl

/-- A quotient of 2^53 that is multiplied again, a zero, zeros in front of a number, and a negative
total that ends in zeros. -/
theorem evaluate_whole_numbers_limit :
    ∃ (chain : Chain Literal) (total : Int), chain.IsWhole ∧
      (chain.map Literal.integer).byTerms Operator.whole = .ok total ∧
      Calculator.evaluate ⟨"992 - 9007199254740992 ÷ 4096 x 4096 + 0 x 007".toList⟩ =
        .ok ⟨"992 - 9007199254740992 ÷ 4096 x 4096 + 0 x 007 = -9007199254740000".toList⟩ := by
  let first : Literal := ⟨['9', '9', '2'], none, by simp, by simp, by simp⟩
  let limit : Literal := ⟨['9', '0', '0', '7', '1', '9', '9', '2', '5', '4', '7', '4', '0', '9',
    '9', '2'], none, by simp, by simp, by simp⟩
  let power : Literal := ⟨['4', '0', '9', '6'], none, by simp, by simp, by simp⟩
  let zero : Literal := ⟨['0'], none, by simp, by simp, by simp⟩
  let seven : Literal := ⟨['0', '0', '7'], none, by simp, by simp, by simp⟩
  let chain : Chain Literal :=
    ⟨first, [(.subtract, limit), (.divide, power), (.multiply, power), (.add, zero),
      (.multiply, seven)]⟩
  have numbers : chain.IsWhole :=
    ⟨List.cons_ne_nil _ _, by decide +kernel, by decide +kernel⟩
  have exact : (chain.map Literal.integer).byTerms Operator.whole = .ok (-9007199254740000) :=
    ok_of_to_option (by decide +kernel)
  exact ⟨chain, _, numbers, exact, (evaluate_whole_numbers chain numbers _ exact).2⟩

end Chain

end Keypad
