import Keypad.Console.Interactive

/-!
A run of the program with its settings. Key arguments are evaluated first, on a calculator of
their own; only when that succeeds is the input read. A run is the same however its settings were
written on the command line.
-/

namespace Keypad.Console

/-- The level has no effect on what the calculator prints. -/
inductive LogLevel where
  | error
  | warn
  | info
  | debug
  | trace
  deriving DecidableEq

/-- What the command line asks of a run. -/
structure Settings where
  interactive : Bool
  logLevel : Option LogLevel
  keys : List String
  deriving DecidableEq

namespace Settings

def ofKeys (keys : List String) : Settings := ⟨false, none, keys⟩

/-- Keys come from the key arguments, and from the input when it is asked for or when there are
no key arguments. -/
def readsInput (settings : Settings) : Bool := settings.interactive || settings.keys.isEmpty

def keyText (settings : Settings) : List Char :=
  [' '].intercalate (settings.keys.map String.toList)

/-- The lines for the key arguments. All of them are checked before any is pressed. -/
def evaluate (settings : Settings) : Except Failure (List Line) :=
  if settings.keys.isEmpty then .ok []
  else do
    let _ ← (parseKeys settings.keyText).mapError .invalidKeys
    let display ← (evaluateText settings.keyText).mapError .notEvaluated
    return [.output (String.ofList display)]

/-- The run as far as it gets without its input: it has ended, or it waits for the first line. -/
def opening (settings : Settings) : Turn :=
  match settings.evaluate with
  | .error failure => .finish ⟨[failure.line], .failure⟩
  | .ok lines =>
      if settings.readsInput then .goOn (Screen.new lines) else .finish ⟨lines, .success⟩

def execute (settings : Settings) (input : List UInt8) : Transcript :=
  match settings.opening with
  | .goOn screen => interact screen (inputLines input)
  | .finish transcript => transcript

end Settings

end Keypad.Console
