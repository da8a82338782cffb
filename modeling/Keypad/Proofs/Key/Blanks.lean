import Keypad.Key.Sequence
import Keypad.Proofs.Text.Words

/-!
Blanks in a text of keys. Those at its ends add no word, and one that stands between two texts
leaves the words of both as they are: the two are read one after the other.
-/

namespace Keypad

theorem parse_keys_trim (text : List Char) : parseKeys (Text.trim text) = parseKeys text := by
  rw [parseKeys, Text.words_trim, parseKeys]

section Apart

variable {before after : List Char} {blank : Char} (separates : Text.isBlank blank = true)
include separates

theorem parse_keys_apart {earlier later : List Key} (first : parseKeys before = .ok earlier)
    (second : parseKeys after = .ok later) :
    parseKeys (before ++ blank :: after) = .ok (earlier ++ later) := by
  rcases ok_of_map first with ⟨groups, read, rfl⟩
  rcases ok_of_map second with ⟨others, found, rfl⟩
  rw [parseKeys, Text.words_append_blank before after blank separates, List.mapM_append, read,
    found]
  exact congrArg Except.ok List.flatten_append

theorem parse_keys_blank_end {keys : List Key} (read : parseKeys before = .ok keys) :
    parseKeys (before ++ [blank]) = .ok keys := by
  have nothing : parseKeys [] = .ok [] := rfl
  have apart := parse_keys_apart separates read nothing
  rw [apart, List.append_nil]

end Apart

end Keypad
