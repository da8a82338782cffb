import Keypad.Console.Program

/-!
The program. It reads the input line by line, so that every line is answered before the next
one is typed.
-/

namespace Keypad.Console

def Line.print : Line → IO Unit
  | .output text => IO.println text
  | .error text => IO.eprintln text

/-- The bytes up to the next line end, or none at the end of the input. -/
partial def readLine (input : IO.FS.Stream) (line : List UInt8) : IO (Option (List UInt8)) := do
  match (← input.read 1).toList with
  | [] => return if line.isEmpty then none else some line.reverse
  | byte :: _ => if byte == newline then return some line.reverse else readLine input (byte :: line)

/-- Prints what there is, and only then reads on. Lines that are printed are dropped. -/
partial def Turn.perform (input : IO.FS.Stream) : Turn → IO Status
  | .finish transcript => do
      transcript.lines.forM Line.print
      return transcript.status
  | .goOn screen => do
      screen.heard.forM Line.print
      match ← readLine input [] with
      | none => return .success
      | some line => (Screen.turn ⟨screen.calculator, []⟩ line).perform input

def runProgram (arguments : List String) : IO Status := do
  match Request.ofArguments arguments with
  | .error cause =>
      IO.eprintln ("error: " ++ cause.message)
      return .usage
  | .ok .help =>
      helpLines.forM Line.print
      return .success
  | .ok .version =>
      versionLine.print
      return .success
  | .ok (.run settings) => settings.opening.perform (← IO.getStdin)

end Keypad.Console

def main (arguments : List String) : IO UInt32 := do
  return (← Keypad.Console.runProgram arguments).code.toUInt32
