import Keypad.Binary64.Arithmetic
import Keypad.Token.Error

/-!
The four binary operators of the keypad, their signs and their effect on binary values.
-/

namespace Keypad

inductive Operator where
  | add
  | subtract
  | multiply
  | divide
  deriving DecidableEq

namespace Operator

def all : List Operator := [add, subtract, multiply, divide]

def symbol : Operator → Char
  | add => '+'
  | subtract => '-'
  | multiply => 'x'
  | divide => '÷'

def isPriority : Operator → Bool
  | multiply => true
  | divide => true
  | _ => false

def apply (operator : Operator) (left right : Binary64) : Binary64 :=
  match operator with
  | add => left + right
  | subtract => left - right
  | multiply => left * right
  | divide => left / right

def ofText? (text : List Char) : Option Operator :=
  all.find? fun operator => text = [operator.symbol]

def read (text : List Char) : Except TokenError Operator :=
  match ofText? text with
  | some operator => .ok operator
  | none => .error (.unknownOperator text)

theorem of_text_eq_some {text : List Char} {operator : Operator}
    (found : ofText? text = some operator) : text = [operator.symbol] := by
  simpa using List.find?_some found

theorem of_text_eq_none {text : List Char} :
    ofText? text = none ↔ ∀ operator : Operator, text ≠ [operator.symbol] := by
  rw [ofText?, List.find?_eq_none]
  constructor
  · intro none operator same
    exact none operator (by cases operator <;> decide) (decide_eq_true same)
  · intro unknown operator _ same
    exact unknown operator (of_decide_eq_true same)

end Operator

end Keypad
