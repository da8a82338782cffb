import Keypad.Proofs.Binary64.Reader
import Keypad.Proofs.Text.Words

/-!
The grammar of an expression's words. A word is the result mark, the sign of an operator, or a
numeral: digits with at most one point, behind at most one minus sign. A text is read if all of its
words are of this grammar, each as the token that it is the text of, and the first one that is not
is the error. Numerals are told from other words by counting; what passes the count can always be
read as a binary value.
-/

namespace Keypad

namespace Numeral

/-- Digits, one at the least, with at most one point among them or at either end. -/
structure IsUnsigned (text : List Char) : Prop where
  characters : ∀ character ∈ text, character.isDigit = true ∨ character = '.'
  points : text.count '.' ≤ 1
  digit : ∃ character ∈ text, character.isDigit = true

/-- A numeral may have one minus sign in front. -/
def IsWritten (word : List Char) : Prop :=
  ∃ text, IsUnsigned text ∧ (word = text ∨ word = '-' :: text)

def unsigned : List Char → List Char
  | '-' :: text => text
  | text => text

theorem unsigned_of_unmarked {word : List Char} (unmarked : ∀ text, word = '-' :: text → False) :
    unsigned word = word := by
  unfold unsigned
  split
  · rename_i text
    exact absurd rfl (unmarked text)
  · rfl

/-- The check by counting: behind the sign there is a digit and at most one point, and the digits and
points account for all bytes of the text in UTF-8. -/
def PassesCount (word : List Char) : Prop :=
  (unsigned word).countP Char.isDigit ≠ 0 ∧ (unsigned word).count '.' ≤ 1 ∧
    (unsigned word).countP Char.isDigit + (unsigned word).count '.' =
      (String.ofList (unsigned word)).utf8ByteSize

/-! The count. -/

def share (character : Char) : Nat :=
  (if character.isDigit then 1 else 0) + if character == '.' then 1 else 0

theorem share_eq_size (character : Char) :
    share character = character.utf8Size ↔ character.isDigit = true ∨ character = '.' := by
  have present := character.utf8Size_pos
  by_cases digit : character.isDigit = true
  · have bounds := Char.isDigit_iff_toNat.mp digit
    have short : character.utf8Size = 1 := by
      rw [Char.utf8Size_eq_one_iff, UInt32.le_iff_toNat_le]
      exact Nat.le_trans bounds.2 (by decide)
    have noPoint : character ≠ '.' := by
      rintro rfl
      contradiction
    simp [share, digit, noPoint, short]
  · by_cases point : character = '.'
    · subst point
      decide
    · simp only [share, digit, point, beq_iff_eq, Bool.false_eq_true, if_false, or_self, iff_false]
      omega

theorem share_le_size (character : Char) : share character ≤ character.utf8Size := by
  by_cases counted : character.isDigit = true ∨ character = '.'
  · exact Nat.le_of_eq ((share_eq_size character).mpr counted)
  · rw [not_or] at counted
    simp [share, counted.1, counted.2]

theorem byte_size_cons (character : Char) (rest : List Char) :
    (String.ofList (character :: rest)).utf8ByteSize =
      character.utf8Size + (String.ofList rest).utf8ByteSize := by
  have split : character :: rest = [character] ++ rest := rfl
  rw [split, String.ofList_append, String.utf8ByteSize_append, ← String.singleton_eq_ofList,
    String.utf8ByteSize_singleton]

theorem counted_cons (character : Char) (rest : List Char) :
    (character :: rest).countP Char.isDigit + (character :: rest).count '.' =
      share character + (rest.countP Char.isDigit + rest.count '.') := by
  rw [List.countP_cons, List.count_cons, share]
  omega

theorem counted_le_bytes (text : List Char) :
    text.countP Char.isDigit + text.count '.' ≤ (String.ofList text).utf8ByteSize := by
  induction text with
  | nil => exact Nat.le_refl 0
  | cons character rest induction =>
      rw [counted_cons, byte_size_cons]
      exact Nat.add_le_add (share_le_size character) induction

theorem counts_all_iff (text : List Char) :
    text.countP Char.isDigit + text.count '.' = (String.ofList text).utf8ByteSize ↔
      ∀ character ∈ text, character.isDigit = true ∨ character = '.' := by
  induction text with
  | nil => exact iff_of_true rfl nofun
  | cons character rest induction =>
      have first := share_le_size character
      have others := counted_le_bytes rest
      rw [List.forall_mem_cons, ← induction, ← share_eq_size, counted_cons, byte_size_cons]
      omega

theorem counted_iff (text : List Char) :
    IsUnsigned text ↔ text.countP Char.isDigit ≠ 0 ∧ text.count '.' ≤ 1 ∧
      text.countP Char.isDigit + text.count '.' = (String.ofList text).utf8ByteSize := by
  rw [counts_all_iff, ← Nat.pos_iff_ne_zero, List.countP_pos_iff]
  exact ⟨fun shape => ⟨shape.digit, shape.points, shape.characters⟩,
    fun counted => ⟨counted.2.2, counted.2.1, counted.1⟩⟩

theorem written_iff (word : List Char) : IsWritten word ↔ IsUnsigned (unsigned word) := by
  constructor
  · rintro ⟨text, shape, rfl | rfl⟩
    · unfold unsigned
      split
      · rename_i rest
        have inside := shape.characters '-' (List.mem_cons_self ..)
        simp at inside
      · exact shape
    · exact shape
  · intro shape
    refine ⟨unsigned word, shape, ?_⟩
    unfold unsigned
    split
    · exact .inr rfl
    · exact .inl rfl

theorem passes_count_iff (word : List Char) : PassesCount word ↔ IsWritten word := by
  rw [written_iff, counted_iff, PassesCount]

/-! Reading. -/

theorem of_unsigned_iff (negative : Bool) (text : List Char) :
    (∃ number, Decimal.ofUnsigned? negative text = some number) ↔ IsUnsigned text := by
  constructor
  · rintro ⟨number, found⟩
    refine ⟨Decimal.characters_of_of_unsigned found, ?_, Decimal.digit_of_of_unsigned found⟩
    rcases Decimal.of_unsigned_eq_some found with ⟨whole, fraction, -, digits, shape, -⟩
    have absent : (whole ++ fraction).count '.' = 0 := by
      rw [List.count_eq_zero]
      intro member
      exact absurd (digits '.' member) (by decide)
    rw [List.count_append] at absent
    rcases shape with rfl | rfl
    · rw [List.count_append, absent]
      exact Nat.zero_le 1
    · rw [List.count_append, List.count_cons_self]
      omega
  · intro shape
    by_cases present : '.' ∈ text
    · rcases List.eq_append_cons_of_mem present with ⟨whole, fraction, rfl, absent⟩
      have single := shape.points
      rw [List.count_append, List.count_cons_self] at single
      have absentBehind : '.' ∉ fraction := List.count_eq_zero.mp (by omega)
      have wholeDigits : ∀ character ∈ whole, character.isDigit = true := by
        intro character member
        have allowed := shape.characters character (List.mem_append_left _ member)
        exact allowed.resolve_right fun point => absent (point ▸ member)
      have fractionDigits : ∀ character ∈ fraction, character.isDigit = true := by
        intro character member
        have inside := List.mem_append_right whole (List.mem_cons_of_mem '.' member)
        exact (shape.characters character inside).resolve_right
          fun point => absentBehind (point ▸ member)
      have nonempty : whole ++ fraction ≠ [] := by
        rintro nothing
        rcases List.append_eq_nil_iff.mp nothing with ⟨rfl, rfl⟩
        simpa using shape.digit
      exact ⟨_, Decimal.of_unsigned_point negative whole fraction nonempty wholeDigits
        fractionDigits⟩
    · have digits : ∀ character ∈ text, character.isDigit = true := by
        intro character member
        exact (shape.characters character member).resolve_right
          fun point => present (point ▸ member)
      rcases shape.digit with ⟨character, member, -⟩
      exact ⟨_, Decimal.of_unsigned_digits negative text (List.ne_nil_of_mem member) digits⟩

theorem of_literal_iff (word : List Char) :
    (∃ number, Decimal.ofLiteral? word = some number) ↔ IsWritten word := by
  rw [written_iff]
  unfold Decimal.ofLiteral?
  split
  · exact of_unsigned_iff true _
  · rename_i unmarked
    rw [unsigned_of_unmarked unmarked]
    exact of_unsigned_iff false word

theorem written_literal (numeral : Numeral) : IsWritten numeral.literal :=
  (of_literal_iff numeral.literal).mp ⟨numeral.decimal, numeral.reads⟩

theorem read_of_written {word : List Char} (written : IsWritten word) :
    ∃ numeral, read word = .ok numeral ∧ numeral.literal = word := by
  rcases (of_literal_iff word).mpr written with ⟨number, found⟩
  let numeral : Numeral := ⟨word, number, found⟩
  have same : ofLiteral? word = some numeral := numeral.of_literal_self
  exact ⟨numeral, by rw [read, same], rfl⟩

theorem read_of_unwritten {word : List Char} (unwritten : ¬IsWritten word) :
    read word = .error (.malformedNumber word) := by
  unfold read
  split
  · rename_i numeral found
    have written := numeral.written_literal
    rw [literal_of_literal found] at written
    contradiction
  · rfl

end Numeral

def IsTokenWord (word : List Char) : Prop :=
  word = ['='] ∨ (∃ sign : Operator, word = [sign.symbol]) ∨ Numeral.IsWritten word

namespace Token

/-- The token of a word. A numeral keeps the word as its literal. -/
inductive Reads : List Char → Token → Prop where
  | mark : Reads ['='] .resultMark
  | sign (sign : Operator) : Reads [sign.symbol] (.operator sign)
  | numeral (numeral : Numeral) (written : Numeral.IsWritten numeral.literal) :
      Reads numeral.literal (.number numeral)

theorem read_eq_ok_iff (word : List Char) (token : Token) :
    read word = .ok token ↔ Reads word token := by
  constructor
  · intro found
    rw [← text_of_read found]
    cases token with
    | resultMark => exact .mark
    | operator sign => exact .sign sign
    | number numeral => exact .numeral numeral numeral.written_literal
  · intro reads
    cases reads with
    | mark => exact read_text .resultMark
    | sign sign => exact read_text (.operator sign)
    | numeral numeral written => exact read_text (.number numeral)

theorem exists_read_iff (word : List Char) :
    (∃ token, read word = .ok token) ↔ IsTokenWord word := by
  simp only [read_eq_ok_iff]
  constructor
  · rintro ⟨token, reads⟩
    cases reads with
    | mark => exact .inl rfl
    | sign sign => exact .inr (.inl ⟨sign, rfl⟩)
    | numeral numeral written => exact .inr (.inr written)
  · rintro (rfl | ⟨sign, rfl⟩ | written)
    · exact ⟨_, .mark⟩
    · exact ⟨_, .sign sign⟩
    · rcases Numeral.read_of_written written with ⟨numeral, -, rfl⟩
      exact ⟨_, .numeral numeral written⟩

end Token

/-- The error for a word outside of the grammar: with a digit in it, it was to be a number. -/
def TokenError.ofWord (word : List Char) : TokenError :=
  if word.any Char.isDigit then .malformedNumber word else .unknownOperator word

theorem Token.read_of_outside {word : List Char} (outside : ¬IsTokenWord word) :
    read word = .error (.ofWord word) := by
  simp only [IsTokenWord, not_or, not_exists] at outside
  rcases outside with ⟨noMark, noSign, unwritten⟩
  rw [read, if_neg noMark, Operator.of_text_eq_none.mpr noSign, TokenError.ofWord]
  simp only [Numeral.read_of_unwritten unwritten]
  split
  · rfl
  · rfl

/-- A text is read as tokens if all of its words are of the grammar. The tokens are then those of the
words in order; otherwise the first word outside of the grammar is the error. A word passes as a
numeral by its count, and then it has a binary value. -/
theorem tokenize_by_grammar (text : List Char) :
    ((∃ tokens, tokenize text = .ok tokens) ↔
      ∀ before word after, Text.IsRun text before word after → IsTokenWord word) ∧
    (∀ tokens, tokenize text = .ok tokens ↔
      List.Forall₂ Token.Reads (Text.words text) tokens) ∧
    (∀ cause, tokenize text = .error cause ↔
      ∃ word, Text.FirstOutside IsTokenWord text word ∧ cause = .ofWord word) ∧
    (∀ word, (Numeral.PassesCount word ↔ Numeral.IsWritten word) ∧
      (Numeral.PassesCount word → ∃ numeral, Numeral.read word = .ok numeral ∧
        numeral.literal = word ∧ Binary64.ofText? word = some numeral.value) ∧
      (¬Numeral.PassesCount word → Numeral.read word = .error (.malformedNumber word))) := by
  refine ⟨Text.read_words_succeeds Token.exists_read_iff text, fun tokens => ?_, fun cause => ?_,
    fun word => ⟨Numeral.passes_count_iff word, fun passes => ?_, fun fails => ?_⟩⟩
  · rw [tokenize, ok_of_each]
    simp only [Token.read_eq_ok_iff]
  · rw [tokenize, Text.read_words_fails Token.exists_read_iff]
    constructor
    · rintro ⟨word, first, failed⟩
      rcases first with ⟨before, after, run, within, outside⟩
      rw [Token.read_of_outside outside] at failed
      exact ⟨word, ⟨before, after, run, within, outside⟩, (Except.error.inj failed).symm⟩
    · rintro ⟨word, ⟨before, after, run, within, outside⟩, rfl⟩
      exact ⟨word, ⟨before, after, run, within, outside⟩, Token.read_of_outside outside⟩
  · have written := (Numeral.passes_count_iff word).mp passes
    rcases Numeral.read_of_written written with ⟨numeral, found, rfl⟩
    exact ⟨numeral, found, rfl, Binary64.of_text_of_literal numeral.reads⟩
  · exact Numeral.read_of_unwritten (mt (Numeral.passes_count_iff word).mpr fails)

/-- A point needs no digit in front of it. -/
theorem tokenize_by_grammar_half :
    Numeral.PassesCount "-.5".toList ∧ ∃ numeral, Numeral.read "-.5".toList = .ok numeral ∧
      numeral.literal = "-.5".toList ∧ Binary64.ofText? "-.5".toList = some numeral.value := by
  have passes : Numeral.PassesCount "-.5".toList := ⟨by decide, by decide, by decide⟩
  exact ⟨passes, ((tokenize_by_grammar []).2.2.2 "-.5".toList).2.1 passes⟩

/-- An exponent is read by the general grammar alone, so here the fourth word is the first one
outside. -/
example : tokenize "1 x -.5 1e5 ?".toList = .error (.malformedNumber "1e5".toList) := rfl

end Keypad
