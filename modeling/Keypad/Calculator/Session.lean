import Keypad.Calculator.Basic
import Keypad.Key.Sequence

/-!
Pressing a sequence of keys. A session goes on after a refused key and records what every key
did; the evaluation of a text stops at the first refusal and asks for the result itself when
the keys end inside an expression.
-/

namespace Keypad

namespace Calculator

/-- A key with what it did: the reason of its refusal, if any, and the calculator after it. -/
structure Press where
  key : Key
  refusal : Option Rejection
  after : Calculator
  deriving DecidableEq

def pressed (calculator : Calculator) (key : Key) : Press :=
  match calculator.press key with
  | .ok after => ⟨key, none, after⟩
  | .error reason => ⟨key, some reason, calculator⟩

def session (calculator : Calculator) : List Key → List Press
  | [] => []
  | key :: keys =>
      let press := calculator.pressed key
      press :: session press.after keys

/-- Presses keys up to the first that is refused. -/
def pressAll (calculator : Calculator) (keys : List Key) : Except Rejection Calculator :=
  keys.foldlM press calculator

end Calculator

inductive EvaluationError where
  | key (cause : UnknownKey)
  | rejected (reason : Rejection)
  deriving DecidableEq

def EvaluationError.message : EvaluationError → String
  | .key cause => "Key error: " ++ cause.message
  | .rejected reason => reason.alert

/-- The display after keys on a new calculator. Keys that end with an entry are followed by an
evaluation. -/
def evaluateKeys (keys : List Key) : Except Rejection (List Char) := do
  let typed ← Calculator.new.pressAll keys
  let finished ← if keys.getLast?.any Key.isEntry then typed.evaluate else .ok typed
  return finished.display

def evaluateText (text : List Char) : Except EvaluationError (List Char) := do
  let keys ← (parseKeys text).mapError .key
  (evaluateKeys keys).mapError .rejected

end Keypad
