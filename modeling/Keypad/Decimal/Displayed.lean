import Keypad.Decimal.Literal

/-!
How the display writes a binary value: as the nearest decimal number of five places, a tie to
the even last digit, without the zeros that end a fraction and without a sign on zero. Values
that are not finite have no such text.
-/

namespace Keypad

def maxFractionDigits : Nat := 5

inductive NonFinite where
  | nan
  | infinity (negative : Bool)
  deriving DecidableEq

namespace NonFinite

def text : NonFinite → String
  | .nan => "NaN"
  | .infinity false => "inf"
  | .infinity true => "-inf"

def message (value : NonFinite) : String := "Result is not a finite number: " ++ value.text

end NonFinite

namespace Binary64

def displayedSteps (units : Nat) : Nat :=
  roundDiv (units * 10 ^ maxFractionDigits) unitsPerOne

def displayed : Binary64 → Except NonFinite Decimal
  | .nan => .error .nan
  | .infinity negative => .error (.infinity negative)
  | .finite negative units _ =>
      let steps := displayedSteps units
      .ok (Decimal.trimmed ⟨negative && steps != 0, steps, maxFractionDigits⟩)

def displayText (value : Binary64) : Except NonFinite (List Char) :=
  value.displayed.map Decimal.text

end Binary64

end Keypad
