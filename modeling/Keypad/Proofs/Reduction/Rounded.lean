import Keypad.Reduction

/-!
One operation of a reduction, without the detour through text. What the display writes for an
outcome reads back as the same number, so an operation fails only at a division by zero or at an
outcome that is not finite.
-/

namespace Keypad

namespace Numeral

def ofDecimal (number : Decimal) : Numeral :=
  ⟨number.text, number, Decimal.of_literal_text number⟩

theorem read_text_of_decimal (number : Decimal) :
    read number.text = .ok (ofDecimal number) := by
  have found : ofLiteral? number.text = some (ofDecimal number) :=
    of_literal_self (ofDecimal number)
  rw [read, found]

end Numeral

namespace Operator

/-- One operation on two numerals: no division by a value of zero, no outcome beyond the finite
values, and otherwise the numeral that the display writes for the outcome. -/
def rounded (sign : Operator) (left right : Numeral) : Except ReductionError Numeral :=
  if sign = .divide ∧ right.value.isZero then .error .divisionByZero
  else match (sign.apply left.value right.value).displayed with
    | .error value => .error (.nonFinite value)
    | .ok number => .ok (.ofDecimal number)

/-- What an operation writes always reads back, so it has no other way to fail. -/
theorem compute_eq_rounded (sign : Operator) (left right : Numeral) :
    sign.compute left right = sign.rounded left right := by
  unfold compute rounded
  split
  · rfl
  · rw [Binary64.displayText]
    cases shown : (sign.apply left.value right.value).displayed with
    | error value => rfl
    | ok number =>
        change (Numeral.read number.text).mapError _ = _
        rw [Numeral.read_text_of_decimal]
        rfl

theorem result_of_rounded {sign : Operator} {left right result : Numeral}
    (computed : sign.rounded left right = .ok result) :
    ∃ number, (sign.apply left.value right.value).displayed = .ok number ∧
      result = .ofDecimal number := by
  unfold rounded at computed
  split at computed
  · contradiction
  · split at computed
    · contradiction
    · rename_i number shown
      cases computed
      exact ⟨number, shown, rfl⟩

theorem error_of_rounded {sign : Operator} {left right : Numeral} {cause : ReductionError}
    (failed : sign.rounded left right = .error cause) :
    cause = .divisionByZero ∨ ∃ value, cause = .nonFinite value := by
  unfold rounded at failed
  split at failed
  · exact .inl (Except.error.inj failed).symm
  · split at failed
    · rename_i value shown
      exact .inr ⟨value, (Except.error.inj failed).symm⟩
    · contradiction

end Operator

end Keypad
