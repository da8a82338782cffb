import Keypad.Key.Basic

/-!
What can be asked of the calculator. Every key asks for one operation; texts of digits and
operator signs typed as text can be asked for as well.
-/

namespace Keypad

inductive Operation where
  | digits (text : List Char)
  | point
  | operator (sign : Operator)
  | symbol (text : List Char)
  | correction
  | clear
  | keep
  | evaluate
  deriving DecidableEq

def Key.operation : Key → Operation
  | digit number => .digits (Nat.toDigits 10 number)
  | point => .point
  | operator sign => .operator sign
  | equals => .evaluate
  | correction => .correction
  | allClear => .clear
  | keep => .keep

end Keypad
