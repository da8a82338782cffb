import Keypad.Console.Transcript

/-!
Interactive use: every line of the input is a sequence of keys for one calculator that lives
as long as the input. A line with a character that is no key is passed over as a whole; a stop
word, or a line that is not UTF-8, ends the run.
-/

namespace Keypad.Console

def stopWords : List (List Char) := ["q".toList, "quit".toList, "exit".toList]

inductive Command where
  | stop
  | press (keys : List Key)
  deriving DecidableEq

def Command.ofText (text : List Char) : Command :=
  let command := Text.trim text
  if stopWords.contains command then .stop
  else match parseKeys command with
    | .ok keys => .press keys
    | .error _ => .press []

def Command.ofLine? (line : List UInt8) : Option Command :=
  (String.fromUTF8? ⟨line.toArray⟩).map fun text => .ofText text.toList

abbrev Screen := Monitored (List Line)

def Screen.new (printed : List Line) : Screen := Monitored.new printed

def Screen.pressAll (screen : Screen) (keys : List Key) : Screen :=
  screen.run printer (keys.map Key.operation)

/-- How far a run has come: it waits for the next line, or it has ended. -/
inductive Turn where
  | goOn (screen : Screen)
  | finish (transcript : Transcript)

def Screen.turn (screen : Screen) (line : List UInt8) : Turn :=
  match Command.ofLine? line with
  | none => .finish ⟨screen.heard ++ [Failure.unreadableInput.line], .failure⟩
  | some .stop => .finish ⟨screen.heard, .success⟩
  | some (.press keys) => .goOn (screen.pressAll keys)

def interact (screen : Screen) : List (List UInt8) → Transcript
  | [] => ⟨screen.heard, .success⟩
  | line :: rest =>
      match screen.turn line with
      | .goOn changed => interact changed rest
      | .finish transcript => transcript

def newline : UInt8 := 10

/-- The lines of the input. The last of them needs no line end. -/
def inputLines (input : List UInt8) : List (List UInt8) :=
  let pieces := input.splitOnP (· == newline)
  if pieces.getLast? = some [] then pieces.dropLast else pieces

end Keypad.Console
