/-!
Why a piece of text is not a token.
-/

namespace Keypad

/-- A piece with a digit in it counts as an attempt at a number. -/
inductive TokenError where
  | unknownOperator (piece : List Char)
  | malformedNumber (piece : List Char)
  deriving DecidableEq

def TokenError.message : TokenError → String
  | .unknownOperator piece => "Unknown operator: " ++ String.ofList piece
  | .malformedNumber piece => "Malformed number: " ++ String.ofList piece

end Keypad
