import Keypad.Calculator.Listener
import Keypad.Calculator.Session

/-!
What a run of the program prints, and how it ends. Displays go to the output stream, alerts
and failures to the error stream; the two are kept in one list, in the order of printing.
-/

namespace Keypad.Console

inductive Line where
  | output (text : String)
  | error (text : String)
  deriving DecidableEq

/-- A run ends well, fails, or does not begin because its arguments are wrong. -/
inductive Status where
  | success
  | failure
  | usage
  deriving DecidableEq

def Status.code : Status → Nat
  | success => 0
  | failure => 1
  | usage => 2

structure Transcript where
  lines : List Line
  status : Status
  deriving DecidableEq

inductive Failure where
  | invalidKeys (cause : UnknownKey)
  | notEvaluated (cause : EvaluationError)
  | unreadableInput
  deriving DecidableEq

namespace Failure

/-- The chain of causes, the outermost first. An evaluation error is followed by the error
that it wraps. -/
def message : Failure → String
  | invalidKeys cause => "Invalid key sequence: " ++ cause.message
  | notEvaluated (.key cause) =>
      "Could not evaluate the key sequence: " ++ (EvaluationError.key cause).message ++ ": " ++
        cause.message
  | notEvaluated (.rejected reason) =>
      "Could not evaluate the key sequence: " ++ (EvaluationError.rejected reason).message ++
        ": " ++ reason.message
  | unreadableInput =>
      "Failed to read from standard input: stream did not contain valid UTF-8"

def line (failure : Failure) : Line := .error ("Error: " ++ failure.message)

end Failure

def Line.ofEvent : Event → Line
  | .display text => .output (String.ofList text)
  | .alert title message => .error (title ++ ": " ++ message)

def printer : Listener (List Line) := ⟨fun lines event => lines ++ [.ofEvent event]⟩

end Keypad.Console
