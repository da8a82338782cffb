import Keypad.Binary64.Bits
import Keypad.Main
import Keypad.Proofs.Chain.Sums
import Keypad.Proofs.Display.Reachable
import Keypad.Proofs.Binary64.Finite
import Keypad.Proofs.Chain.Continuation
import Keypad.Proofs.Key.Expression
import Keypad.Proofs.Reduction.Finiteness
import Keypad.Proofs.Display.DraftChain
import Keypad.Proofs.Display.Keeping
import Keypad.Proofs.Display.Success
import Keypad.Proofs.Display.Frozen
import Keypad.Proofs.Display.Warning
import Keypad.Proofs.Display.Opening
import Keypad.Proofs.Display.Overflow
import Keypad.Proofs.Chain.Whole
import Keypad.Proofs.Display.Replay
import Keypad.Proofs.Display.Retyping
import Keypad.Proofs.Listener.Evaluation
import Keypad.Proofs.Listener.InPlace
import Keypad.Proofs.Console.Interactive
import Keypad.Proofs.Decimal.Plain
import Keypad.Proofs.Decimal.Stability
import Keypad.Proofs.Display.Correction
import Keypad.Proofs.Console.OneShot
import Keypad.Proofs.Reduction.Grammar
import Keypad.Proofs.Reduction.Origin
import Keypad.Proofs.Decimal.Vanishing
import Keypad.Proofs.Display.ZeroDivisors
import Keypad.Proofs.Reduction.Values
import Keypad.Proofs.Display.Padding
import Keypad.Proofs.Token.Grammar
import Keypad.Proofs.Display.Printing
import Keypad.Proofs.Key.Grammar
import Keypad.Proofs.Display.Strokes
import Keypad.Proofs.Reduction.Rounds
