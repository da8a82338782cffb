import Keypad.Operator

/-!
The keys of the calculator and their names.
-/

namespace Keypad

/-- A digit key adds the decimal digits of its number; the keys of the pad carry 0 to 9. -/
inductive Key where
  | digit (number : Nat)
  | point
  | operator (sign : Operator)
  | equals
  | correction
  | allClear
  | keep
  deriving DecidableEq

namespace Key

def text : Key → List Char
  | digit number => Nat.toDigits 10 number
  | point => ['.']
  | operator sign => [sign.symbol]
  | equals => ['=']
  | correction => ['C']
  | allClear => ['A', 'C']
  | keep => ['K']

def isEntry : Key → Bool
  | digit _ => true
  | point => true
  | operator _ => true
  | _ => false

end Key

end Keypad
