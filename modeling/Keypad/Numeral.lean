import Keypad.Decimal.Literal
import Keypad.Token.Error

/-!
Numerals: numbers as they are typed. The literal is kept beside the decimal number that it
denotes, so that a point still waiting for its digits, or a zero too many, stays on the
display.
-/

namespace Keypad

structure Numeral where
  literal : List Char
  decimal : Decimal
  reads : Decimal.ofLiteral? literal = some decimal
  deriving DecidableEq

namespace Numeral

def ofLiteral? (literal : List Char) : Option Numeral :=
  match reads : Decimal.ofLiteral? literal with
  | some decimal => some ⟨literal, decimal, reads⟩
  | none => none

def read (literal : List Char) : Except TokenError Numeral :=
  match ofLiteral? literal with
  | some numeral => .ok numeral
  | none => .error (.malformedNumber literal)

def value (numeral : Numeral) : Binary64 := numeral.decimal.value

def hasPoint (numeral : Numeral) : Bool := numeral.literal.contains '.'

def endsWithPoint (numeral : Numeral) : Bool := numeral.literal.getLast? == some '.'

theorem eq_of_literal {left right : Numeral} (same : left.literal = right.literal) :
    left = right := by
  obtain ⟨literal, leftDecimal, leftReads⟩ := left
  obtain ⟨_, rightDecimal, rightReads⟩ := right
  subst same
  obtain rfl : leftDecimal = rightDecimal := Option.some.inj (leftReads.symm.trans rightReads)
  rfl

theorem of_literal_self (numeral : Numeral) : ofLiteral? numeral.literal = some numeral := by
  unfold ofLiteral?
  split
  · rename_i decimal reads
    exact congrArg some (eq_of_literal rfl)
  · rename_i fails
    rw [numeral.reads] at fails
    contradiction

theorem literal_of_literal {literal : List Char} {numeral : Numeral}
    (found : ofLiteral? literal = some numeral) : numeral.literal = literal := by
  unfold ofLiteral? at found
  split at found
  · cases found
    rfl
  · contradiction

end Numeral

end Keypad
