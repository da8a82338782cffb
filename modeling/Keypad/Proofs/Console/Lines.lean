import Keypad.Console.Interactive
import Keypad.Proofs.Key.Blanks

/-!
Single lines of the input. A line that is UTF-8 is a stop word, or presses the keys that it spells,
or presses none where one of its characters is no key. Two lines that spell keys spell the keys of
both when they stand on one line with a space between them.
-/

namespace Keypad.Console

def characters? (line : List UInt8) : Option (List Char) :=
  (String.fromUTF8? ⟨line.toArray⟩).map String.toList

def space : UInt8 := 32

def carriageReturn : UInt8 := 13

def IsUnreadable (line : List UInt8) : Prop := characters? line = none

/-- A stop word, with nothing but blanks around it. -/
def IsStop (line : List UInt8) : Prop := ∃ text ∈ characters? line, Text.trim text ∈ stopWords

instance : DecidablePred IsUnreadable :=
  fun line => inferInstanceAs (Decidable (characters? line = none))

instance : DecidablePred IsStop :=
  fun line => inferInstanceAs (Decidable (∃ text ∈ characters? line, Text.trim text ∈ stopWords))

/-- The line is UTF-8, and every character of it belongs to a key. -/
def SpellsKeys (line : List UInt8) (keys : List Key) : Prop :=
  ∃ text, characters? line = some text ∧ parseKeys text = .ok keys

def lineKeys (line : List UInt8) : List Key :=
  match (characters? line).map parseKeys with
  | some (.ok keys) => keys
  | _ => []

theorem characters_eq_some {line : List UInt8} {text : List Char} :
    characters? line = some text ↔ text.utf8Encode = ⟨line.toArray⟩ := by
  constructor
  · intro read
    rcases Option.map_eq_some_iff.mp read with ⟨string, found, rfl⟩
    unfold String.fromUTF8? at found
    split at found
    · cases found
      rw [← String.toByteArray_ofList, String.ofList_toList]
      rfl
    · contradiction
  · intro encoded
    have valid : (ByteArray.mk line.toArray).IsValidUTF8 := ⟨text, encoded.symm⟩
    have same : String.fromUTF8 ⟨line.toArray⟩ valid = String.ofList text := by
      apply String.toByteArray_inj.mp
      rw [String.toByteArray_ofList, encoded]
      rfl
    rw [characters?, String.fromUTF8?, dif_pos valid, same, Option.map_some, String.toList_ofList]

theorem characters_append {line other : List UInt8} {text more : List Char}
    (first : characters? line = some text) (second : characters? other = some more) :
    characters? (line ++ other) = some (text ++ more) := by
  rw [characters_eq_some] at first second ⊢
  rw [List.utf8Encode_append, first, second]
  apply ByteArray.ext
  rw [ByteArray.data_append, List.append_toArray]

namespace SpellsKeys

variable {line other : List UInt8} {keys earlier later : List Key}

theorem line_keys (spelled : SpellsKeys line keys) : lineKeys line = keys := by
  rcases spelled with ⟨text, read, parsed⟩
  rw [lineKeys, read, Option.map_some, parsed]

/-- Every stop word has a letter that is no key. -/
theorem not_stop (spelled : SpellsKeys line keys) : ¬IsStop line := by
  rcases spelled with ⟨text, read, parsed⟩
  rintro ⟨other, found, stops⟩
  cases Option.some.inj (read.symm.trans found)
  -- Without its blanks the text is one of three words, and each of them is tried.
  rw [← parse_keys_trim] at parsed
  have refused : ∀ word ∈ stopWords, (parseKeys word).toOption = none := by decide
  have none_read := refused _ stops
  rw [parsed] at none_read
  contradiction

theorem not_unreadable (spelled : SpellsKeys line keys) : ¬IsUnreadable line := by
  rcases spelled with ⟨text, read, -⟩
  rw [IsUnreadable, read]
  exact Option.some_ne_none text

theorem with_space (first : SpellsKeys line earlier) (second : SpellsKeys other later) :
    SpellsKeys (line ++ space :: other) (earlier ++ later) := by
  rcases first with ⟨text, read, parsed⟩
  rcases second with ⟨more, found, parsedMore⟩
  have blank : characters? [space] = some [' '] := characters_eq_some.mpr (by decide +kernel)
  refine ⟨text ++ ' ' :: more, ?_, parse_keys_apart (by decide) parsed parsedMore⟩
  exact characters_append read (characters_append blank found)

theorem with_return (spelled : SpellsKeys line keys) :
    SpellsKeys (line ++ [carriageReturn]) keys := by
  rcases spelled with ⟨text, read, parsed⟩
  have blank : characters? [carriageReturn] = some ['\r'] :=
    characters_eq_some.mpr (by decide +kernel)
  exact ⟨text ++ ['\r'], characters_append read blank, parse_keys_blank_end (by decide) parsed⟩

end SpellsKeys

theorem Command.of_line_eq (line : List UInt8) :
    Command.ofLine? line = (characters? line).map Command.ofText := by
  rw [Command.ofLine?, characters?, Option.map_map]
  rfl

namespace Screen

variable {line : List UInt8} (screen : Screen)

theorem turn_of_unreadable (unreadable : IsUnreadable line) :
    screen.turn line = .finish ⟨screen.heard ++ [Failure.unreadableInput.line], .failure⟩ := by
  rw [turn, Command.of_line_eq, unreadable]
  rfl

theorem turn_of_stop (stop : IsStop line) : screen.turn line = .finish ⟨screen.heard, .success⟩ := by
  rcases stop with ⟨text, read, word⟩
  rw [turn, Command.of_line_eq, Option.mem_def.mp read, Option.map_some, Command.ofText,
    if_pos (List.contains_iff_mem.mpr word)]

theorem turn_of_keys (readable : ¬IsUnreadable line) (other : ¬IsStop line) :
    screen.turn line = .goOn (screen.pressAll (lineKeys line)) := by
  cases read : characters? line with
  | none => exact absurd read readable
  | some text =>
      have noWord : Text.trim text ∉ stopWords := fun word => other ⟨text, read, word⟩
      rw [turn, Command.of_line_eq, lineKeys, read, Option.map_some, Option.map_some,
        Command.ofText, if_neg (mt List.contains_iff_mem.mp noWord), parse_keys_trim]
      cases parseKeys text with
      | error cause => rfl
      | ok keys => rfl

end Screen

end Keypad.Console
