import Keypad.Calculator.Operation
import Keypad.Reduction
import Keypad.Text.DigitString

/-!
The calculator: one display, changed by operations. The text on the display is all there is to
remember. Every operation reads it as an expression, compares it with the guards of the
operation in their order, and either changes the display or refuses with the reason of the
first guard that holds; a refused operation leaves the calculator as it was.
-/

namespace Keypad

structure Calculator where
  display : List Char
  deriving DecidableEq

namespace Calculator

def new : Calculator := ⟨[]⟩

def tokens (calculator : Calculator) : Except TokenError Expression :=
  tokenize calculator.display

/-- The expression on the display. A text that is no expression asks for a correction. -/
def expression (calculator : Calculator) : Except Rejection Expression :=
  calculator.tokens.mapError fun _ => .malformed

def hasResult (calculator : Calculator) : Bool :=
  calculator.tokens.toOption.any Expression.hasResult

def isEmpty (calculator : Calculator) : Bool := calculator.display.isEmpty

def guardAll (reasons : List (Bool × Rejection)) : Except Rejection Unit :=
  match reasons.find? Prod.fst with
  | some reason => .error reason.2
  | none => .ok ()

theorem guard_all_nil : guardAll [] = .ok () := rfl

theorem guard_all_cons (holds : Bool) (rejection : Rejection) (reasons : List (Bool × Rejection)) :
    guardAll ((holds, rejection) :: reasons) =
      if holds then .error rejection else guardAll reasons := by
  cases holds <;> rfl

def append (calculator : Calculator) (text : List Char) : Calculator :=
  ⟨calculator.display ++ text⟩

def appendDigits (calculator : Calculator) (digits : List Char) :
    Except Rejection Calculator := do
  let tokens ← calculator.expression
  guardAll [
    (tokens.hasResult, .operationHasResult),
    (!Text.isDigitString digits, .malformed)]
  return calculator.append digits

def appendPoint (calculator : Calculator) : Except Rejection Calculator := do
  let tokens ← calculator.expression
  guardAll [
    (tokens.hasResult, .operationHasResult),
    (tokens.isEmpty, .malformed),
    (tokens.lastHasPoint, .decimalExists),
    (tokens.lastIsOperator, .malformed)]
  return calculator.append ['.']

/-- An operator stands between two spaces, so that it stays a word of its own. -/
def appendOperator (calculator : Calculator) (sign : Operator) :
    Except Rejection Calculator := do
  let tokens ← calculator.expression
  guardAll [
    (tokens.hasResult, .operationHasResult),
    (tokens.startsWithOperator, .operationImpossible),
    (tokens.lastEndsWithPoint, .malformed),
    (tokens.lastIsOperator, .wrongOperator)]
  return calculator.append [' ', sign.symbol, ' ']

def appendSymbol (calculator : Calculator) (symbol : List Char) :
    Except Rejection Calculator :=
  match Operator.ofText? symbol with
  | some sign => calculator.appendOperator sign
  | none => .error .operationImpossible

/-- The number of characters of what was typed last: an operator with its spaces, or one
character of a number. -/
def lastEntryWidth (calculator : Calculator) : Nat :=
  if calculator.display.getLast? = some ' ' then 3 else 1

def correct (calculator : Calculator) : Except Rejection Calculator := do
  let tokens ← calculator.expression
  guardAll [(tokens.hasResult, .operationHasResult)]
  return ⟨calculator.display.take (calculator.display.length - calculator.lastEntryWidth)⟩

def keepResult (calculator : Calculator) : Except Rejection Calculator := do
  let tokens ← calculator.expression
  guardAll [(!tokens.hasResult, .keeping)]
  match tokens.lastNumeral? with
  | some numeral => return ⟨numeral.literal⟩
  | none => throw .keeping

def resultText (numeral : Numeral) : List Char := [' ', '=', ' '] ++ numeral.literal

def evaluate (calculator : Calculator) : Except Rejection Calculator := do
  let tokens ← calculator.expression
  guardAll [
    (!tokens.hasEnoughTokens, .operationImpossible),
    (tokens.lastIsOperator, .operationHasResult),
    (tokens.hasResult, .operationHasResult),
    (tokens.dividesByZero, .divideByZero),
    (tokens.lastEndsWithPoint, .malformed)]
  let numeral ← tokens.reduce.mapError ReductionError.rejection
  return calculator.append (resultText numeral)

def perform (calculator : Calculator) : Operation → Except Rejection Calculator
  | .digits text => calculator.appendDigits text
  | .point => calculator.appendPoint
  | .operator sign => calculator.appendOperator sign
  | .symbol text => calculator.appendSymbol text
  | .correction => calculator.correct
  | .clear => .ok new
  | .keep => calculator.keepResult
  | .evaluate => calculator.evaluate

def press (calculator : Calculator) (key : Key) : Except Rejection Calculator :=
  calculator.perform key.operation

def next (calculator : Calculator) (operation : Operation) : Calculator :=
  (calculator.perform operation).toOption.getD calculator

def run (calculator : Calculator) (operations : List Operation) : Calculator :=
  operations.foldl next calculator

theorem next_of_accepted {calculator after : Calculator} {operation : Operation}
    (accepted : calculator.perform operation = .ok after) : calculator.next operation = after := by
  rw [next, accepted]
  rfl

theorem next_of_refused {calculator : Calculator} {operation : Operation} {reason : Rejection}
    (refused : calculator.perform operation = .error reason) :
    calculator.next operation = calculator := by
  rw [next, refused]
  rfl

theorem run_cons (calculator : Calculator) (operation : Operation) (operations : List Operation) :
    calculator.run (operation :: operations) = (calculator.next operation).run operations := rfl

end Calculator

end Keypad
