/-!
Why the calculator refuses a key, in the words of its alert.
-/

namespace Keypad

inductive Rejection where
  | operationImpossible
  | operationHasResult
  | wrongOperator
  | divideByZero
  | decimalExists
  | keeping
  | malformed
  deriving DecidableEq

namespace Rejection

def all : List Rejection :=
  [operationImpossible, operationHasResult, wrongOperator, divideByZero, decimalExists, keeping,
    malformed]

def title : Rejection → String
  | operationImpossible => "Error"
  | operationHasResult => "Warning"
  | wrongOperator => "Error"
  | divideByZero => "Error"
  | decimalExists => "Warning"
  | keeping => "Error"
  | malformed => "Correction"

def message : Rejection → String
  | operationImpossible => "This operation is impossible"
  | operationHasResult =>
      "This operation has a result. Press K to keep the last result or AC to clear"
  | wrongOperator => "An operator already exists!"
  | divideByZero => "You tried to divide by 0. This operation is impossible"
  | decimalExists => "A decimal point was already added to this number"
  | keeping => "Nothing to keep"
  | malformed => "Syntax error, you need to correct the operation"

def alert (rejection : Rejection) : String := rejection.title ++ ": " ++ rejection.message

end Rejection

end Keypad
