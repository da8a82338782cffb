import Keypad.Console.Arguments

/-!
The program as a function of its arguments and its input. What is said of runs is said of their
settings, and so of any way to read arguments; the one here has the usual forms of options.
-/

namespace Keypad.Console

def versionLine : Line := .output "count-on-me 0.1.0"

def helpLines : List Line :=
  ["Type digits, a decimal point and + - x ÷ like on a keypad, then evaluate with =",
    "",
    "Usage: count-on-me [OPTIONS] [KEYS]...",
    "",
    "Arguments:",
    "  [KEYS]...  Keys to press, e.g. `40 + 6 x 9.3 ÷ 2` or `12+3=`",
    "",
    "Options:",
    "  -i, --interactive            Read key lines from standard input " ++
      "(default when no keys are given)",
    "  -l, --log-level <LOG_LEVEL>  Log level (default: warn) [default: warn] " ++
      "[possible values: error, warn, info, debug, trace]",
    "  -h, --help                   Print help",
    "  -V, --version                Print version"].map .output

def program (arguments : List String) (input : List UInt8) : Transcript :=
  match Request.ofArguments arguments with
  | .error _ => ⟨[], .usage⟩
  | .ok .help => ⟨helpLines, .success⟩
  | .ok .version => ⟨[versionLine], .success⟩
  | .ok (.run settings) => settings.execute input

end Keypad.Console
