import Keypad.Console.Settings

/-!
The arguments of the command line. Options stand in front of the keys; the first argument that
is no option begins the keys, and from there on every argument is a key argument. An option has
a long name after two hyphens, and a letter after one; letters may be put together. Where one
letter is not the letter of an option, the whole argument is keys: so `-5` is keys, although it
begins like an option.
-/

namespace Keypad.Console

def LogLevel.ofName? : String → Option LogLevel
  | "error" => some .error
  | "warn" => some .warn
  | "info" => some .info
  | "debug" => some .debug
  | "trace" => some .trace
  | _ => none

inductive Request where
  | help
  | version
  | run (settings : Settings)
  deriving DecidableEq

inductive UsageError where
  | repeatedOption (name : String)
  | unexpectedValue (name : String)
  | missingLevel
  | unknownLevel (value : String)
  deriving DecidableEq

namespace UsageError

def message : UsageError → String
  | repeatedOption name => "the option " ++ name ++ " cannot be given more than once"
  | unexpectedValue name => "the option " ++ name ++ " takes no value"
  | missingLevel => "the option --log-level needs a value"
  | unknownLevel value => "unknown log level: " ++ value

end UsageError

inductive Letter where
  | interactive
  | level
  | help
  | version
  deriving DecidableEq

namespace Letter

def toChar : Letter → Char
  | interactive => 'i'
  | level => 'l'
  | help => 'h'
  | version => 'V'

def ofChar? : Char → Option Letter
  | 'i' => some interactive
  | 'l' => some level
  | 'h' => some help
  | 'V' => some version
  | _ => none

end Letter

/-- One use of an option. A level without a value is still to be given one. -/
inductive Switch where
  | interactive
  | level (value : Option String)
  | help
  | version
  | misplacedValue (name : String)
  deriving DecidableEq

namespace Switch

/-- Letters are read from the left; those after the letter of the level are its value. -/
def ofLetters : List Letter → List Switch
  | [] => []
  | .interactive :: rest => .interactive :: ofLetters rest
  | [.level] => [.level none]
  | .level :: value => [.level (some (String.ofList (value.map Letter.toChar)))]
  | .help :: rest => .help :: ofLetters rest
  | .version :: rest => .version :: ofLetters rest

def ofLongName? (argument : String) : Option Switch :=
  let name := String.ofList (argument.toList.takeWhile (· ≠ '='))
  match name, argument.toList.dropWhile (· ≠ '=') with
  | "--interactive", [] => some .interactive
  | "--log-level", [] => some (.level none)
  | "--log-level", _ :: value => some (.level (some (String.ofList value)))
  | "--help", [] => some .help
  | "--version", [] => some .version
  | "--interactive", _ => some (.misplacedValue name)
  | "--help", _ => some (.misplacedValue name)
  | "--version", _ => some (.misplacedValue name)
  | _, _ => none

def ofArgument? (argument : String) : Option (List Switch) :=
  match argument.toList with
  | '-' :: '-' :: _ => (ofLongName? argument).map ([·])
  | '-' :: letter :: letters => ((letter :: letters).mapM Letter.ofChar?).map ofLetters
  | _ => none

def awaitsValue : Switch → Bool
  | level none => true
  | _ => false

def withValue (value : String) : Switch → Switch
  | level none => level (some value)
  | switch => switch

end Switch

structure CommandLine where
  switches : List Switch
  keys : List String
  deriving DecidableEq

namespace CommandLine

def prepend (switches : List Switch) (line : CommandLine) : CommandLine :=
  ⟨switches ++ line.switches, line.keys⟩

/-- Two hyphens alone end the options and are no key argument. A level without a value takes the
next argument, whatever that is. -/
def ofArguments : List String → CommandLine
  | [] => ⟨[], []⟩
  | argument :: rest =>
      if argument = "--" then ⟨[], rest⟩
      else match Switch.ofArgument? argument with
        | none => ⟨[], argument :: rest⟩
        | some switches =>
            if switches.any Switch.awaitsValue then
              match rest with
              | [] => ⟨switches, []⟩
              | value :: others =>
                  (ofArguments others).prepend (switches.map (Switch.withValue value))
            else (ofArguments rest).prepend switches

end CommandLine

namespace Settings

def setInteractive (settings : Settings) : Except UsageError Settings :=
  if settings.interactive then .error (.repeatedOption "--interactive")
  else .ok { settings with interactive := true }

def setLevel (settings : Settings) (value : String) : Except UsageError Settings :=
  match LogLevel.ofName? value, settings.logLevel with
  | none, _ => .error (.unknownLevel value)
  | some _, some _ => .error (.repeatedOption "--log-level")
  | some level, none => .ok { settings with logLevel := some level }

end Settings

namespace Request

/-- Options change the settings from the left. The first wrong one ends it, as does a question
for the help or the version. -/
def ofSwitches (settings : Settings) : List Switch → Except UsageError Request
  | [] => .ok (.run settings)
  | .interactive :: rest => settings.setInteractive.bind fun changed => ofSwitches changed rest
  | .level none :: _ => .error .missingLevel
  | .level (some value) :: rest =>
      (settings.setLevel value).bind fun changed => ofSwitches changed rest
  | .help :: _ => .ok .help
  | .version :: _ => .ok .version
  | .misplacedValue name :: _ => .error (.unexpectedValue name)

def ofArguments (arguments : List String) : Except UsageError Request :=
  let line := CommandLine.ofArguments arguments
  ofSwitches (Settings.ofKeys line.keys) line.switches

end Request

end Keypad.Console
