import Mathlib.Data.List.Forall2
import Keypad.Proofs.Outcome
import Keypad.Text.Blank

/-!
The words of a text are its maximal runs of characters that are not blank, in their order, and a
text that is put together of words with blanks between them has these words and no others. A reader
that goes over the words reads all of them, or stops at the first one that it does not accept.
-/

namespace Keypad.Text

/-! Blanks between words. -/

theorem words_cons_blank {blank : Char} (separates : isBlank blank = true) (text : List Char) :
    words (blank :: text) = words text :=
  words_append_blank [] text blank separates

theorem words_drop_blanks (text : List Char) : words (text.dropWhile isBlank) = words text := by
  induction text with
  | nil => rfl
  | cons character rest induction =>
      cases separates : isBlank character with
      | true =>
          rw [List.dropWhile_cons_of_pos separates, induction, words_cons_blank separates]
      | false => rw [List.dropWhile_cons_of_neg (Bool.eq_false_iff.mp separates)]

/-- Blanks at the end. The induction is over the characters from the last one on. -/
theorem words_drop_last_blanks (reversed : List Char) :
    words (reversed.dropWhile isBlank).reverse = words reversed.reverse := by
  induction reversed with
  | nil => rfl
  | cons character rest induction =>
      cases separates : isBlank character with
      | true =>
          have apart := words_append_blank rest.reverse [] character separates
          rw [List.dropWhile_cons_of_pos separates, induction, List.reverse_cons, apart, words_nil,
            List.append_nil]
      | false => rw [List.dropWhile_cons_of_neg (Bool.eq_false_iff.mp separates)]

theorem words_trim (text : List Char) : words (trim text) = words text := by
  rw [trim, words_drop_last_blanks, List.reverse_reverse, words_drop_blanks]

theorem words_gap_append {gap : List Char} (blanks : ∀ character ∈ gap, isBlank character = true)
    (text : List Char) : words (gap ++ text) = words text := by
  rw [← words_drop_blanks (gap ++ text), List.dropWhile_append_of_pos blanks, words_drop_blanks]

/-! Words as runs of a text. -/

/-- A maximal run of characters that are not blank, between what stands before and after it. -/
structure IsRun (text before word after : List Char) : Prop where
  split : text = before ++ word ++ after
  nonempty : word ≠ []
  solid : ∀ character ∈ word, isBlank character = false
  opened : ∀ character, before.getLast? = some character → isBlank character = true
  closed : ∀ character, after.head? = some character → isBlank character = true

theorem words_of_run {text before word after : List Char} (run : IsRun text before word after) :
    words text = words before ++ word :: words after := by
  have single := words_of_word word run.nonempty run.solid
  have behind : words (word ++ after) = word :: words after := by
    cases after with
    | nil => rw [List.append_nil, single, words_nil]
    | cons blank rest =>
        have separates := run.closed blank rfl
        rw [words_append_blank word rest blank separates, single, words_cons_blank separates]
        rfl
  rw [run.split, List.append_assoc]
  rcases List.eq_nil_or_concat' before with rfl | ⟨front, blank, rfl⟩
  · exact behind
  · have separates := run.opened blank List.getLast?_concat
    rw [List.append_assoc, List.singleton_append, words_append_blank _ _ blank separates, behind,
      words_append_blank _ _ blank separates, words_nil, List.append_nil]

theorem IsRun.cons_blank {text before word after : List Char} (run : IsRun text before word after)
    {blank : Char} (separates : isBlank blank = true) :
    IsRun (blank :: text) (blank :: before) word after where
  split := by rw [run.split]; rfl
  nonempty := run.nonempty
  solid := run.solid
  opened character last := by
    rw [List.getLast?_cons] at last
    cases found : before.getLast? with
    | none =>
        rw [found] at last
        exact Option.some.inj last ▸ separates
    | some final =>
        rw [found] at last
        exact Option.some.inj last ▸ run.opened final found
  closed := run.closed

/-- A run of what is behind a run. Between the two there is something, or they would be one. -/
theorem IsRun.next {text before word after between other rest : List Char}
    (run : IsRun text before word after) (later : IsRun after between other rest) :
    IsRun text (before ++ word ++ between) other rest ∧
      IsRun (before ++ word ++ between) before word between := by
  have apart : between ≠ [] := by
    rintro rfl
    cases other with
    | nil => exact later.nonempty rfl
    | cons first others =>
        have blank := run.closed first (by rw [later.split]; rfl)
        rw [later.solid first (List.mem_cons_self ..)] at blank
        contradiction
  constructor
  · exact {
      split := by rw [run.split, later.split]; simp only [List.append_assoc]
      nonempty := later.nonempty
      solid := later.solid
      opened := by
        intro character last
        rw [List.getLast?_append_of_ne_nil _ apart] at last
        exact later.opened character last
      closed := later.closed }
  · exact {
      split := rfl
      nonempty := run.nonempty
      solid := run.solid
      opened := run.opened
      closed := by
        intro character first
        apply run.closed character
        rw [later.split, List.append_assoc, List.head?_append, first]
        rfl }

theorem exists_first_run {text word : List Char} {later : List (List Char)}
    (found : words text = word :: later) :
    ∃ before after, IsRun text before word after ∧ words before = [] ∧ words after = later := by
  induction text with
  | nil => contradiction
  | cons character rest induction =>
      cases separates : isBlank character with
      | true =>
          rw [words_cons_blank separates] at found
          rcases induction found with ⟨before, after, run, none, behind⟩
          exact ⟨character :: before, after, run.cons_blank separates,
            (words_cons_blank separates before).trans none, behind⟩
      | false =>
          let solid (character : Char) : Bool := !isBlank character
          have run : IsRun (character :: rest) [] ((character :: rest).takeWhile solid)
              ((character :: rest).dropWhile solid) := {
            split := List.takeWhile_append_dropWhile.symm
            nonempty := by simp [solid, separates]
            solid := by
              intro inside member
              simpa [solid] using List.all_eq_true.mp List.all_takeWhile inside member
            opened := nofun
            closed := by
              intro next first
              have stopped := List.head?_dropWhile_not solid (character :: rest)
              rw [first] at stopped
              simpa [solid] using stopped }
          have read := words_of_run run
          rw [found, words_nil, List.nil_append] at read
          cases (List.cons.inj read).1
          exact ⟨[], _, run, rfl, (List.cons.inj read).2.symm⟩

/-- Every word of a text is a run, with the words before it on its left and those after it on its
right. The induction is over the words before it. -/
theorem exists_run {text word : List Char} {earlier later : List (List Char)}
    (found : words text = earlier ++ word :: later) :
    ∃ before after, IsRun text before word after ∧ words before = earlier ∧
      words after = later := by
  induction earlier generalizing text with
  | nil => exact exists_first_run found
  | cons first others induction =>
      rcases exists_first_run found with ⟨blanks, behind, run, none, read⟩
      rcases induction read with ⟨between, after, inner, left, right⟩
      have further := run.next inner
      refine ⟨blanks ++ first ++ between, after, further.1, ?_, right⟩
      rw [words_of_run further.2, none, left, List.nil_append]

theorem mem_words_iff {text word : List Char} :
    word ∈ words text ↔ ∃ before after, IsRun text before word after := by
  constructor
  · intro member
    rcases List.append_of_mem member with ⟨earlier, later, found⟩
    rcases exists_run found with ⟨before, after, run, -, -⟩
    exact ⟨before, after, run⟩
  · rintro ⟨before, after, run⟩
    rw [words_of_run run]
    exact List.mem_append_right _ (List.mem_cons_self ..)

/-! Readers of words. -/

/-- The first word of the text that is not allowed. -/
def FirstOutside (allowed : List Char → Prop) (text word : List Char) : Prop :=
  ∃ before after, IsRun text before word after ∧ (∀ earlier ∈ words before, allowed earlier) ∧
    ¬allowed word

section Readers

variable {Failure Value : Type} {read : List Char → Except Failure Value}
  {allowed : List Char → Prop} (accepts : ∀ word, (∃ value, read word = .ok value) ↔ allowed word)

include accepts

theorem read_words_succeeds (text : List Char) :
    (∃ values, (words text).mapM read = .ok values) ↔
      ∀ before word after, IsRun text before word after → allowed word := by
  simp only [exists_ok_of_all, accepts, mem_words_iff]
  exact ⟨fun all before word after run => all word ⟨before, after, run⟩,
    fun all word ⟨before, after, run⟩ => all before word after run⟩

theorem read_words_fails (text : List Char) (cause : Failure) :
    (words text).mapM read = .error cause ↔
      ∃ word, FirstOutside allowed text word ∧ read word = .error cause := by
  rw [error_of_first]
  constructor
  · rintro ⟨earlier, word, later, found, succeeded, failed⟩
    rcases exists_run found with ⟨before, after, run, rfl, -⟩
    refine ⟨word, ⟨before, after, run, ?_, ?_⟩, failed⟩
    · exact fun other member => (accepts other).mp (succeeded other member)
    · rw [← accepts, failed]
      exact nofun
  · rintro ⟨word, ⟨before, after, run, within, -⟩, failed⟩
    exact ⟨words before, word, words after, words_of_run run,
      fun other member => (accepts other).mpr (within other member), failed⟩

end Readers

/-! Words that are put together. -/

/-- Words in their order, with one or more blanks between each two of them. -/
inductive Joined : List (List Char) → List Char → Prop where
  | nil : Joined [] []
  | single (word : List Char) : Joined [word] word
  | cons (word gap : List Char) (present : gap ≠ [])
      (blanks : ∀ character ∈ gap, isBlank character = true) {next : List Char}
      {later : List (List Char)} {text : List Char} (rest : Joined (next :: later) text) :
      Joined (word :: next :: later) (word ++ gap ++ text)

theorem words_joined {parts : List (List Char)} {text : List Char} (joined : Joined parts text)
    (valid : ∀ word ∈ parts, word ≠ [] ∧ ∀ character ∈ word, isBlank character = false) :
    words text = parts := by
  induction joined with
  | nil => rfl
  | single word =>
      have own := valid word (List.mem_singleton_self word)
      exact words_of_word word own.1 own.2
  | cons word gap present blanks rest induction =>
      rename_i next later text
      have valid := List.forall_mem_cons.mp valid
      have run : IsRun (word ++ gap ++ text) [] word (gap ++ text) := {
        split := by rw [List.nil_append, List.append_assoc]
        nonempty := valid.1.1
        solid := valid.1.2
        opened := nofun
        closed := by
          intro character first
          rw [List.head?_append_of_ne_nil _ present] at first
          exact blanks character (List.mem_of_head? first) }
      rw [words_of_run run, words_nil, words_gap_append blanks, induction valid.2]
      rfl

theorem read_joined {Item Failure Value : Type} {write : Item → List Char}
    {read : List Char → Except Failure Value} {result : Item → Value}
    (valid : ∀ item, write item ≠ [] ∧ ∀ character ∈ write item, isBlank character = false)
    (reads : ∀ item, read (write item) = .ok (result item)) {items : List Item} {text : List Char}
    (joined : Joined (items.map write) text) :
    (words text).mapM read = .ok (items.map result) := by
  have words : words text = items.map write := by
    apply words_joined joined
    intro word member
    rcases List.mem_map.mp member with ⟨item, -, rfl⟩
    exact valid item
  rw [words, ok_of_each, List.forall₂_map_left_iff, List.forall₂_map_right_iff]
  exact List.forall₂_same.mpr fun item _ => reads item

end Keypad.Text
