import Keypad.Token.Basic

/-!
Tokens between blanks. The text of a token is one word, so a text that is built of such words and
blanks reads as the tokens that it was built of.
-/

namespace Keypad

namespace Decimal

theorem characters_of_of_unsigned {negative : Bool} {unsigned : List Char} {number : Decimal}
    (found : ofUnsigned? negative unsigned = some number) :
    ∀ character ∈ unsigned, character.isDigit = true ∨ character = '.' := by
  obtain ⟨whole, fraction, _, digits, shape, _⟩ := of_unsigned_eq_some found
  obtain ⟨wholeDigits, fractionDigits⟩ := List.forall_mem_append.mp digits
  intro character member
  rcases shape with rfl | rfl
  · exact .inl (digits character member)
  · rcases List.mem_append.mp member with inWhole | behind
    · exact .inl (wholeDigits character inWhole)
    · rcases List.mem_cons.mp behind with rfl | inFraction
      · exact .inr rfl
      · exact .inl (fractionDigits character inFraction)

theorem characters_of_of_literal {literal : List Char} {number : Decimal}
    (found : ofLiteral? literal = some number) :
    ∀ character ∈ literal, character.isDigit = true ∨ character = '.' ∨ character = '-' := by
  unfold ofLiteral? at found
  intro character member
  split at found
  · rcases List.mem_cons.mp member with rfl | unsigned
    · exact .inr (.inr rfl)
    · exact (characters_of_of_unsigned found character unsigned).imp_right .inl
  · exact (characters_of_of_unsigned found character member).imp_right .inl

end Decimal

namespace Text

theorem digit_is_not_blank (character : Char) (digit : character.isDigit = true) :
    isBlank character = false := by
  simp only [Char.isDigit, Bool.and_eq_true, decide_eq_true_eq] at digit
  have low : 48 ≤ character.toNat := digit.1
  have high : character.toNat ≤ 57 := digit.2
  simp only [isBlank, blankRanges, List.any_cons, List.any_nil, Bool.or_false,
    Bool.or_eq_false_iff, Bool.and_eq_false_iff, decide_eq_false_iff_not]
  omega

end Text

namespace Token

theorem text_ne_nil (token : Token) : token.text ≠ [] := by
  cases token with
  | number numeral =>
      obtain ⟨character, member, _⟩ := Decimal.digit_of_of_literal numeral.reads
      exact List.ne_nil_of_mem member
  | operator sign => simp [text]
  | resultMark => simp [text]

theorem text_solid (token : Token) :
    ∀ character ∈ token.text, Text.isBlank character = false := by
  intro character member
  cases token with
  | number numeral =>
      rcases Decimal.characters_of_of_literal numeral.reads character member with
        digit | rfl | rfl
      · exact Text.digit_is_not_blank character digit
      · decide
      · decide
  | operator sign =>
      rw [List.mem_singleton.mp member]
      cases sign <;> decide
  | resultMark =>
      rw [List.mem_singleton.mp member]
      decide

end Token

theorem tokenize_text (token : Token) : tokenize token.text = .ok [token] := by
  rw [tokenize, Text.words_of_word _ token.text_ne_nil token.text_solid, List.mapM_cons,
    Token.read_text]
  rfl

theorem tokenize_text_append (token : Token) (blank : Char) (rest : List Char)
    (separates : Text.isBlank blank = true) :
    tokenize (token.text ++ blank :: rest) = (tokenize rest).map (token :: ·) := by
  rw [tokenize_append_blank _ _ _ separates, tokenize_text]
  cases tokenize rest <;> rfl

theorem tokenize_operand (numeral : Numeral) (sign : Operator) (rest : List Char) :
    tokenize (numeral.literal ++ ' ' :: sign.symbol :: ' ' :: rest) =
      (tokenize rest).map fun tokens => .number numeral :: .operator sign :: tokens := by
  have first := tokenize_text_append (.number numeral) ' ' (sign.symbol :: ' ' :: rest) (by decide)
  have second := tokenize_text_append (.operator sign) ' ' rest (by decide)
  apply first.trans
  apply (congrArg (Except.map _) second).trans
  cases tokenize rest <;> rfl

end Keypad
