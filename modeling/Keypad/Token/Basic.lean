import Keypad.Numeral
import Keypad.Operator
import Keypad.Text.Blank

/-!
Tokens: what the words of an expression stand for. A word is the result mark, the sign of an
operator or a numeral, and the first word that is none of them is the error. Writing the
tokens of a text gives its words back.
-/

namespace Keypad

inductive Token where
  | number (numeral : Numeral)
  | operator (sign : Operator)
  | resultMark
  deriving DecidableEq

namespace Token

def text : Token → List Char
  | number numeral => numeral.literal
  | operator sign => [sign.symbol]
  | resultMark => ['=']

def operator? : Token → Option Operator
  | operator sign => some sign
  | _ => none

def isOperator (token : Token) : Bool := token.operator?.isSome

def numeral? : Token → Option Numeral
  | number numeral => some numeral
  | _ => none

/-- A lone minus sign is the operator; a word with a digit in it can only be a numeral. -/
def read (word : List Char) : Except TokenError Token :=
  if word = ['='] then .ok resultMark
  else match Operator.ofText? word with
    | some sign => .ok (operator sign)
    | none =>
        if word.any Char.isDigit then (Numeral.read word).map number
        else .error (.unknownOperator word)

theorem text_of_read {word : List Char} {token : Token} (found : read word = .ok token) :
    token.text = word := by
  unfold read at found
  split at found
  · cases found
    symm
    assumption
  · split at found
    · rename_i sign isSign
      cases found
      exact (Operator.of_text_eq_some isSign).symm
    · split at found
      · unfold Numeral.read at found
        split at found
        · rename_i numeral reads
          cases found
          exact Numeral.literal_of_literal reads
        · contradiction
      · contradiction

theorem read_text (token : Token) : read token.text = .ok token := by
  cases token with
  | resultMark => rfl
  | operator sign => cases sign <;> rfl
  | number numeral =>
      have digit := Decimal.digit_of_of_literal numeral.reads
      have hasDigit : numeral.literal.any Char.isDigit = true := by simpa using digit
      have notMark : numeral.literal ≠ ['='] := by
        intro mark
        simp [mark] at hasDigit
      have notSign : Operator.ofText? numeral.literal = none := by
        apply Operator.of_text_eq_none.mpr
        intro sign same
        rw [same] at hasDigit
        cases sign <;> simp [Operator.symbol] at hasDigit
      simp only [text, read, notMark, notSign, hasDigit, if_false, if_true, Numeral.read,
        Numeral.of_literal_self, Except.map]

end Token

/-- The tokens of a text in order. Nothing says that they make sense together. -/
abbrev Expression := List Token

/-- Reads the words of a text in order, up to the first that is not a token. -/
def tokenize (text : List Char) : Except TokenError Expression :=
  (Text.words text).mapM Token.read

theorem tokenize_append_blank (before after : List Char) (blank : Char)
    (separates : Text.isBlank blank = true) :
    tokenize (before ++ blank :: after) =
      (do return (← tokenize before) ++ (← tokenize after)) := by
  simp [tokenize, Text.words_append_blank _ _ _ separates, List.mapM_append]

end Keypad
