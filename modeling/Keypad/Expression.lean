import Keypad.Token.Basic

/-!
What an expression, a list of tokens, allows next. These are the facts that the keys of the
calculator ask for before they change it; each looks at the ends of the list, at its length or
at neighbouring tokens, and none of them evaluates.
-/

namespace Keypad.Expression

def minOperationTokens : Nat := 3

def hasResult (tokens : Expression) : Bool := tokens.contains .resultMark

/-- Also of an empty expression, to which an operator cannot be added either. -/
def startsWithOperator (tokens : Expression) : Bool := tokens.head?.all Token.isOperator

def lastIsOperator (tokens : Expression) : Bool := tokens.getLast?.any Token.isOperator

def hasEnoughTokens (tokens : Expression) : Bool :=
  hasResult tokens || decide (minOperationTokens ≤ tokens.length)

def lastNumeral? (tokens : Expression) : Option Numeral := tokens.getLast?.bind Token.numeral?

def lastEndsWithPoint (tokens : Expression) : Bool :=
  (lastNumeral? tokens).any Numeral.endsWithPoint

def lastHasPoint (tokens : Expression) : Bool := (lastNumeral? tokens).any Numeral.hasPoint

/-- Some division sign is directly followed by a number whose value is zero. -/
def dividesByZero : Expression → Bool
  | .operator .divide :: .number divisor :: rest => divisor.value.isZero || dividesByZero rest
  | _ :: rest => dividesByZero rest
  | [] => false

end Keypad.Expression
