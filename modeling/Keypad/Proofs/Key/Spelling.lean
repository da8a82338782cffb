import Keypad.Key.Sequence
import Keypad.Proofs.Decimal.Digits
import Keypad.Proofs.Outcome

/-!
Texts that spell keys sign by sign. A word for an action key has a letter in it that is the sign of
no key, so among such texts a word never means anything but its characters; the blanks then mean
nothing at all, wherever they stand.
-/

namespace Keypad

namespace Text

/-- What is left of a text when its words are put together again. -/
def solid (text : List Char) : List Char := text.filter (!isBlank ·)

theorem flatten_words (text : List Char) : (words text).flatten = solid text := by
  rw [words, List.flatten_filter_not_isEmpty]
  induction text with
  | nil => rfl
  | cons character rest induction =>
      rw [List.splitOnP_cons_eq_if_modifyHead]
      by_cases blank : isBlank character = true
      · rw [if_pos blank, List.flatten_cons, List.nil_append, induction]
        simp [solid, blank]
      · rw [if_neg blank]
        cases pieces : rest.splitOnP isBlank with
        | nil => exact absurd pieces (List.splitOnP_ne_nil isBlank rest)
        | cons head tail =>
            rw [pieces] at induction
            have kept : solid (character :: rest) = character :: solid rest :=
              List.filter_cons_of_pos (by simp [blank])
            rw [kept, ← induction]
            rfl

end Text

namespace Key

def signs : List (Char × Key) :=
  (List.range 10).map (fun number => (Nat.digitChar number, .digit number)) ++
    [('.', .point), ('+', .operator .add), ('-', .operator .subtract), ('x', .operator .multiply),
      ('X', .operator .multiply), ('*', .operator .multiply), ('×', .operator .multiply),
      ('÷', .operator .divide), ('/', .operator .divide), ('=', .equals), ('k', .keep),
      ('K', .keep), ('<', .correction)]

def Marks (character : Char) (key : Key) : Prop := (character, key) ∈ signs

instance (character : Char) (key : Key) : Decidable (Marks character key) :=
  inferInstanceAs (Decidable (_ ∈ _))

def IsSign (character : Char) : Prop := ∃ key, Marks character key

instance (character : Char) : Decidable (IsSign character) :=
  decidable_of_iff (∃ pair ∈ signs, pair.1 = character)
    ⟨fun ⟨pair, member, same⟩ => ⟨pair.2, same ▸ member⟩, fun ⟨_, member⟩ => ⟨_, member, rfl⟩⟩

theorem of_char_iff (character : Char) (key : Key) :
    ofChar? character = some key ↔ Marks character key := by
  constructor
  · intro found
    unfold ofChar? at found
    split at found
    · rename_i digit
      cases found
      apply List.mem_append_left
      have value := List.mem_range.mpr (Decimal.digit_value_lt_ten digit)
      exact List.mem_map.mpr ⟨_, value, congrArg (·, _) (Decimal.digit_char_of_digit digit)⟩
    · split at found
      all_goals cases found
      all_goals decide
  · intro member
    have table : ∀ pair ∈ signs, ofChar? pair.1 = some pair.2 := by decide
    exact table (character, key) member

theorem marks_unique : Relator.RightUnique Marks := by
  intro character key other marked marks
  rw [← of_char_iff] at marked marks
  exact Option.some.inj (marked.symm.trans marks)

section Word

variable (word : List Char)

theorem of_char_in_iff (character : Char) (key : Key) :
    ofCharIn word character = .ok key ↔ Marks character key := by
  rw [← of_char_iff, ofCharIn]
  cases ofChar? character with
  | none => simp
  | some other => simp

theorem of_chars_in_iff (characters : List Char) (keys : List Key) :
    characters.mapM (ofCharIn word) = .ok keys ↔ List.Forall₂ Marks characters keys := by
  simp only [ok_of_each, of_char_in_iff]

/-- The word in which a character is read only tells where an unknown one was found, so any word will
do here. -/
theorem exists_marks_iff (characters : List Char) :
    (∃ keys, List.Forall₂ Marks characters keys) ↔ ∀ character ∈ characters, IsSign character := by
  simp only [← of_chars_in_iff [], exists_ok_of_all, of_char_in_iff, IsSign]

variable {word}

/-- The capital letters of every action word include one of these two. -/
theorem upper_of_sign {character : Char} (sign : IsSign character) :
    character.toUpper ≠ 'C' ∧ character.toUpper ≠ 'E' := by
  rcases sign with ⟨key, marked⟩
  have table : ∀ pair ∈ signs, pair.1.toUpper ≠ 'C' ∧ pair.1.toUpper ≠ 'E' := by decide
  exact table (character, key) marked

theorem of_action_word_of_signs (signed : ∀ character ∈ word, IsSign character) :
    ofActionWord? word = none := by
  have absent : 'C' ∉ word.map Char.toUpper ∧ 'E' ∉ word.map Char.toUpper := by
    constructor
    · intro member
      obtain ⟨character, inside, upper⟩ := List.mem_map.mp member
      exact (upper_of_sign (signed character inside)).1 upper
    · intro member
      obtain ⟨character, inside, upper⟩ := List.mem_map.mp member
      exact (upper_of_sign (signed character inside)).2 upper
  unfold ofActionWord?
  split
  all_goals simp_all

theorem of_word_of_signs (signed : ∀ character ∈ word, IsSign character) :
    ofWord word = word.mapM (ofCharIn word) := by
  rw [ofWord, of_action_word_of_signs signed]

theorem of_word_of_marks {keys : List Key} (marked : List.Forall₂ Marks word keys) :
    ofWord word = .ok keys := by
  have signed := (exists_marks_iff word).mp ⟨keys, marked⟩
  rw [of_word_of_signs signed]
  exact (of_chars_in_iff word word keys).mpr marked

end Word

end Key

/-- Wherever the blanks stand, a text of signs is read sign by sign. Each of its words has keys of
its own, and these are the keys of the signs because no sign has two. -/
theorem parse_keys_of_marks {text : List Char} {keys : List Key}
    (marked : List.Forall₂ Key.Marks (Text.solid text) keys) : parseKeys text = .ok keys := by
  rw [← Text.flatten_words] at marked
  have solid := (Key.exists_marks_iff _).mp ⟨keys, marked⟩
  have signed : ∀ word ∈ Text.words text, ∀ character ∈ word, Key.IsSign character :=
    fun word member character inside => solid character (List.mem_flatten_of_mem member inside)
  have readable : ∀ word ∈ Text.words text, ∃ group, Key.ofWord word = .ok group := by
    intro word member
    rcases (Key.exists_marks_iff word).mpr (signed word member) with ⟨group, each⟩
    exact ⟨group, Key.of_word_of_marks each⟩
  rcases (exists_ok_of_all _).mpr readable with ⟨groups, read⟩
  have grouped : List.Forall₂ (List.Forall₂ Key.Marks) (Text.words text) groups := by
    refine ((List.forall₂_and_left _ _).mpr ⟨signed, (ok_of_each _ _).mp read⟩).imp ?_
    rintro word group ⟨signs, found⟩
    rw [Key.of_word_of_signs signs] at found
    exact (Key.of_chars_in_iff word word group).mp found
  have same : groups.flatten = keys :=
    List.right_unique_forall₂' Key.marks_unique (List.rel_flatten grouped) marked
  rw [parseKeys, read, ← same]
  rfl

end Keypad
