import Keypad.Proofs.Key.Blanks
import Keypad.Proofs.Key.Spelling

/-!
The grammar of a text of keys. Each of its words names an action key, in ASCII letters of either
case, or is made of characters that are signs of keys. No word is both, and so every word has one
reading. The first word that is neither is the error, with its first character that is no sign.
-/

namespace Keypad

namespace Key

def actionWords : List (List Char × Key) :=
  [(['A', 'C'], .allClear), (['C'], .correction), (['D', 'E', 'L'], .correction),
    (['K', 'E', 'E', 'P'], .keep)]

def IsActionWord (word : List Char) : Prop := ∃ key, (word.map Char.toUpper, key) ∈ actionWords

def IsWord (word : List Char) : Prop := IsActionWord word ∨ ∀ character ∈ word, IsSign character

inductive Spells : List Char → List Key → Prop where
  | action {word : List Char} {key : Key} (named : (word.map Char.toUpper, key) ∈ actionWords) :
      Spells word [key]
  | signs {word : List Char} {keys : List Key}
      (each : List.Forall₂ Marks word keys) : Spells word keys

/-- The first character of the word that is no sign. -/
def FirstUnknown (word : List Char) (character : Char) : Prop :=
  ∃ front rest, word = front ++ character :: rest ∧ (∀ earlier ∈ front, IsSign earlier) ∧
    ¬IsSign character

/-! Names and unknown characters. -/

theorem of_action_word_iff (word : List Char) (key : Key) :
    ofActionWord? word = some key ↔ (word.map Char.toUpper, key) ∈ actionWords := by
  unfold ofActionWord?
  constructor
  · intro found
    split at found
    all_goals cases found
    all_goals
      rename_i upper
      rw [upper]
      decide
  · intro member
    simp only [actionWords, List.mem_cons, Prod.mk.injEq, List.not_mem_nil, or_false] at member
    rcases member with ⟨upper, rfl⟩ | ⟨upper, rfl⟩ | ⟨upper, rfl⟩ | ⟨upper, rfl⟩
    all_goals
      rw [upper]
      rfl

theorem of_char_in_fails (word : List Char) (character : Char) (cause : UnknownKey) :
    ofCharIn word character = .error cause ↔ ¬IsSign character ∧ ⟨character, word⟩ = cause := by
  simp only [IsSign, ← of_char_iff, ofCharIn]
  cases ofChar? character with
  | none => simp
  | some other => simp

/-! Words. -/

section Word

variable (word : List Char)

theorem of_word_eq_ok_iff (keys : List Key) : ofWord word = .ok keys ↔ Spells word keys := by
  constructor
  · intro found
    unfold ofWord at found
    split at found
    · rename_i key named
      cases found
      exact .action ((of_action_word_iff word key).mp named)
    · exact .signs ((of_chars_in_iff word word keys).mp found)
  · intro spelled
    cases spelled with
    | action named =>
        rw [← of_action_word_iff] at named
        rw [ofWord, named]
    | signs each => exact of_word_of_marks each

theorem exists_of_word_iff : (∃ keys, ofWord word = .ok keys) ↔ IsWord word := by
  simp only [of_word_eq_ok_iff]
  constructor
  · rintro ⟨keys, spelled⟩
    cases spelled with
    | action named => exact .inl ⟨_, named⟩
    | signs each => exact .inr ((exists_marks_iff word).mp ⟨keys, each⟩)
  · rintro (⟨key, named⟩ | signed)
    · exact ⟨[key], .action named⟩
    · rcases (exists_marks_iff word).mpr signed with ⟨keys, each⟩
      exact ⟨keys, .signs each⟩

theorem of_word_fails (cause : UnknownKey) :
    ofWord word = .error cause ↔
      ¬IsWord word ∧ cause.word = word ∧ FirstUnknown word cause.key := by
  constructor
  · intro failed
    have outside : ¬IsWord word := by
      rw [← exists_of_word_iff, failed]
      exact nofun
    unfold ofWord at failed
    split at failed
    · contradiction
    · rcases (error_of_first word cause).mp failed with
        ⟨front, character, rest, shape, succeeded, failing⟩
      rcases (of_char_in_fails word character cause).mp failing with ⟨unknown, rfl⟩
      refine ⟨outside, rfl, front, rest, shape, ?_, unknown⟩
      intro earlier member
      rcases succeeded earlier member with ⟨key, found⟩
      exact ⟨key, (of_char_in_iff word earlier key).mp found⟩
  · rintro ⟨outside, same, front, rest, shape, signed, unknown⟩
    have unnamed : ofActionWord? word = none := by
      rw [Option.eq_none_iff_forall_ne_some]
      intro key named
      exact outside (.inl ⟨key, (of_action_word_iff word key).mp named⟩)
    simp only [ofWord, unnamed]
    apply (error_of_first word cause).mpr
    refine ⟨front, cause.key, rest, shape, ?_, ?_⟩
    · intro earlier member
      rcases signed earlier member with ⟨key, marked⟩
      exact ⟨key, (of_char_in_iff word earlier key).mpr marked⟩
    · exact (of_char_in_fails word cause.key cause).mpr ⟨unknown, by rw [← same]⟩

end Word

end Key

/-! Texts. -/

theorem parse_keys_eq_ok_iff (text : List Char) (keys : List Key) :
    parseKeys text = .ok keys ↔
      ∃ groups, List.Forall₂ Key.Spells (Text.words text) groups ∧ keys = groups.flatten := by
  constructor
  · intro read
    rcases ok_of_map read with ⟨groups, found, rfl⟩
    rw [ok_of_each] at found
    simp only [Key.of_word_eq_ok_iff] at found
    exact ⟨groups, found, rfl⟩
  · rintro ⟨groups, spelled, rfl⟩
    have found : (Text.words text).mapM Key.ofWord = .ok groups := by
      rw [ok_of_each]
      simp only [Key.of_word_eq_ok_iff]
      exact spelled
    rw [parseKeys, found]
    rfl

theorem exists_parse_keys_iff (text : List Char) :
    (∃ keys, parseKeys text = .ok keys) ↔
      ∀ before word after, Text.IsRun text before word after → Key.IsWord word := by
  rw [← Text.read_words_succeeds Key.exists_of_word_iff, parseKeys]
  cases (Text.words text).mapM Key.ofWord with
  | error cause => simp [Except.map]
  | ok groups => simp [Except.map]

theorem parse_keys_fails (text : List Char) (cause : UnknownKey) :
    parseKeys text = .error cause ↔
      Text.FirstOutside Key.IsWord text cause.word ∧ Key.FirstUnknown cause.word cause.key := by
  have unmapped : parseKeys text = .error cause ↔
      (Text.words text).mapM Key.ofWord = .error cause := by
    rw [parseKeys]
    cases (Text.words text).mapM Key.ofWord with
    | error cause => simp [Except.map]
    | ok groups => simp [Except.map]
  rw [unmapped, Text.read_words_fails Key.exists_of_word_iff]
  constructor
  · rintro ⟨word, first, failed⟩
    rcases (Key.of_word_fails word cause).mp failed with ⟨-, rfl, unknown⟩
    exact ⟨first, unknown⟩
  · rintro ⟨first, unknown⟩
    rcases first with ⟨before, after, run, within, outside⟩
    exact ⟨cause.word, ⟨before, after, run, within, outside⟩,
      (Key.of_word_fails cause.word cause).mpr ⟨outside, rfl, unknown⟩⟩

theorem parse_keys_of_signs {text : List Char}
    (signed : ∀ character ∈ text, Text.isBlank character = true ∨ Key.IsSign character) :
    ∃ keys, List.Forall₂ Key.Marks (Text.solid text) keys ∧
      ∀ other, Text.solid other = Text.solid text → parseKeys other = .ok keys := by
  have solid : ∀ character ∈ Text.solid text, Key.IsSign character := by
    intro character member
    rcases List.mem_filter.mp member with ⟨inside, dense⟩
    exact (signed character inside).resolve_left (by simpa using dense)
  rcases (Key.exists_marks_iff _).mpr solid with ⟨keys, each⟩
  refine ⟨keys, each, ?_⟩
  intro other same
  rw [← same] at each
  exact parse_keys_of_marks each

/-- A text is read as keys if all of its words are of the grammar, and the first word that is not is
the error, with its first character that stands for no key. Blanks mean nothing between signs, and a
text behind a blank is read on its own. -/
theorem parse_keys_by_grammar (text : List Char) :
    ((∃ keys, parseKeys text = .ok keys) ↔
      ∀ before word after, Text.IsRun text before word after → Key.IsWord word) ∧
    (∀ keys, parseKeys text = .ok keys ↔
      ∃ groups, List.Forall₂ Key.Spells (Text.words text) groups ∧ keys = groups.flatten) ∧
    (∀ cause, parseKeys text = .error cause ↔
      Text.FirstOutside Key.IsWord text cause.word ∧ Key.FirstUnknown cause.word cause.key) ∧
    ((∀ character ∈ text, Text.isBlank character = true ∨ Key.IsSign character) →
      ∃ keys, List.Forall₂ Key.Marks (Text.solid text) keys ∧
        ∀ other, Text.solid other = Text.solid text → parseKeys other = .ok keys) ∧
    (∀ other earlier later, parseKeys text = .ok earlier → parseKeys other = .ok later →
      parseKeys (text ++ ' ' :: other) = .ok (earlier ++ later)) :=
  ⟨exists_parse_keys_iff text, parse_keys_eq_ok_iff text, parse_keys_fails text,
    parse_keys_of_signs, fun _ _ _ => parse_keys_apart (by decide)⟩

/-- Blanks inside a number and at the ends of the text, and a name behind it. -/
theorem parse_keys_of_spread_signs :
    (∃ keys, parseKeys "1 2k".toList = .ok keys ∧ parseKeys "\t12\u2003k ".toList = .ok keys) ∧
    parseKeys ("1 2k".toList ++ ' ' :: "keEp".toList) =
      .ok ([.digit 1, .digit 2, .keep] ++ [.keep]) := by
  constructor
  · have signed : ∀ character ∈ "1 2k".toList,
        Text.isBlank character = true ∨ Key.IsSign character := by
      intro character member
      change character ∈ ['1', ' ', '2', 'k'] at member
      simp only [List.mem_cons, List.not_mem_nil, or_false] at member
      rcases member with rfl | rfl | rfl | rfl
      all_goals decide
    rcases (parse_keys_by_grammar "1 2k".toList).2.2.2.1 signed with ⟨keys, -, read⟩
    exact ⟨keys, read _ rfl, read _ rfl⟩
  · exact (parse_keys_by_grammar "1 2k".toList).2.2.2.2 _ _ _ rfl rfl

/-- The letters of a name mean nothing inside another word. -/
example : parseKeys "12 AC KC".toList = .error ⟨'C', "KC".toList⟩ := rfl

end Keypad
