import Keypad.Key.Basic
import Keypad.Text.Blank

/-!
Key presses written as text. A word that names one of the action keys, in ASCII letters of
either case, is that key; every other word is read as one key for each character. Blanks only
end words, so `12+3=` and `12 + 3 =` are the same presses.
-/

namespace Keypad

/-- A character that stands for no key, with the word it was found in. -/
structure UnknownKey where
  key : Char
  word : List Char
  deriving DecidableEq

def UnknownKey.message (cause : UnknownKey) : String :=
  "Unknown key '" ++ String.ofList [cause.key] ++ "' in '" ++ String.ofList cause.word ++ "'"

namespace Key

def ofActionWord? (word : List Char) : Option Key :=
  match word.map Char.toUpper with
  | ['A', 'C'] => some .allClear
  | ['C'] => some .correction
  | ['D', 'E', 'L'] => some .correction
  | ['K', 'E', 'E', 'P'] => some .keep
  | _ => none

def ofChar? (character : Char) : Option Key :=
  if character.isDigit then some (.digit (character.toNat - '0'.toNat))
  else match character with
    | '.' => some .point
    | '+' => some (.operator .add)
    | '-' => some (.operator .subtract)
    | 'x' => some (.operator .multiply)
    | 'X' => some (.operator .multiply)
    | '*' => some (.operator .multiply)
    | '×' => some (.operator .multiply)
    | '÷' => some (.operator .divide)
    | '/' => some (.operator .divide)
    | '=' => some .equals
    | 'k' => some .keep
    | 'K' => some .keep
    | '<' => some .correction
    | _ => none

def ofCharIn (word : List Char) (character : Char) : Except UnknownKey Key :=
  match ofChar? character with
  | some key => .ok key
  | none => .error ⟨character, word⟩

def ofWord (word : List Char) : Except UnknownKey (List Key) :=
  match ofActionWord? word with
  | some key => .ok [key]
  | none => word.mapM (ofCharIn word)

end Key

/-- Reads the keys of a text in order, up to the first character that is not a key. -/
def parseKeys (text : List Char) : Except UnknownKey (List Key) :=
  ((Text.words text).mapM Key.ofWord).map List.flatten

end Keypad
