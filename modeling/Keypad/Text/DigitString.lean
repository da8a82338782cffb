/-!
Texts of decimal digits, the only texts that may be added to a number as a whole.
-/

namespace Keypad.Text

inductive DigitStringError where
  | empty
  | notDigits (text : List Char)
  deriving DecidableEq

def DigitStringError.message : DigitStringError → String
  | .empty => "Digit string cannot be empty"
  | .notDigits text => "Digit string must contain only digits: " ++ String.ofList text

def checkDigits (text : List Char) : Except DigitStringError Unit :=
  if text.isEmpty then .error .empty
  else if text.all Char.isDigit then .ok ()
  else .error (.notDigits text)

def isDigitString (text : List Char) : Bool := (checkDigits text).isOk

theorem is_digit_string_iff (text : List Char) :
    isDigitString text = true ↔ text ≠ [] ∧ ∀ character ∈ text, character.isDigit = true := by
  unfold isDigitString checkDigits
  cases text with
  | nil => simp [Except.isOk, Except.toBool]
  | cons first rest =>
      by_cases digits : (first :: rest).all Char.isDigit
      · simp [digits, Except.isOk, Except.toBool]
        simpa using digits
      · simp [digits, Except.isOk, Except.toBool]
        simpa using digits

end Keypad.Text
