import Keypad.Proofs.Display.Reachable
import Keypad.Proofs.Text.Words

/-!
Tokens written out again. The text of a token is one word that reads as the token, so it does not
matter which blanks stand between the texts of tokens. With single spaces between them they are the
display itself, which has one more space only behind an operator that is still without its second
number.
-/

namespace Keypad

/-- The tokens of a text come back from their own texts, whatever blanks are put between these. -/
theorem tokenize_joined {tokens : Expression} {text : List Char}
    (joined : Text.Joined (tokens.map Token.text) text) : tokenize text = .ok tokens := by
  have valid (token : Token) :
      token.text ≠ [] ∧ ∀ character ∈ token.text, Text.isBlank character = false :=
    ⟨token.text_ne_nil, token.text_solid⟩
  have read := Text.read_joined valid Token.read_text joined
  rw [List.map_id'] at read
  exact read

namespace Expression

/-- The texts of the tokens with single spaces between them. -/
def print (tokens : Expression) : List Char := [' '].intercalate (tokens.map Token.text)

def spaced (tokens : Expression) : List Char := tokens.flatMap fun token => token.text ++ [' ']

theorem print_singleton (token : Token) : print [token] = token.text := List.intercalate_singleton

theorem print_cons (token : Token) {tokens : Expression} (present : tokens ≠ []) :
    print (token :: tokens) = token.text ++ [' '] ++ print tokens := by
  cases tokens with
  | nil => contradiction
  | cons next others => exact List.intercalate_cons_cons

theorem print_append (front : Expression) {back : Expression} (present : back ≠ []) :
    print (front ++ back) = spaced front ++ print back := by
  induction front with
  | nil => rfl
  | cons token front induction =>
      have more : front ++ back ≠ [] := List.append_ne_nil_of_right_ne_nil front present
      rw [List.cons_append, print_cons token more, induction, ← List.append_assoc]
      rfl

theorem spaced_concat (front : Expression) (last : Token) :
    spaced (front ++ [last]) = print (front ++ [last]) ++ [' '] := by
  rw [print_append front (List.cons_ne_nil _ _), print_singleton, List.append_assoc]
  unfold spaced
  rw [List.flatMap_append, List.flatMap_singleton]

theorem last_print_ne_space (tokens : Expression) : (print tokens).getLast? ≠ some ' ' := by
  rcases List.eq_nil_or_concat' tokens with rfl | ⟨front, token, rfl⟩
  · exact nofun
  · rw [print_append front (List.cons_ne_nil _ _), print_singleton,
      List.getLast?_append_of_ne_nil _ token.text_ne_nil]
    intro last
    have solid := token.text_solid ' ' (List.mem_of_getLast? last)
    contradiction

end Expression

namespace Text

/-- The text without one space at its end, if it has one there. -/
def dropLastSpace (text : List Char) : List Char :=
  if text.getLast? = some ' ' then text.dropLast else text

theorem drop_last_space_self {text : List Char} (solid : text.getLast? ≠ some ' ') :
    dropLastSpace text = text := if_neg solid

theorem drop_last_space_append (text : List Char) : dropLastSpace (text ++ [' ']) = text := by
  rw [dropLastSpace, if_pos List.getLast?_concat, List.dropLast_concat]

end Text

open Expression

theorem Lead.plain_spaced (steps : List (Literal × Operator)) :
    steps.flatMap stepText = spaced (plainTokens steps) := by
  induction steps with
  | nil => rfl
  | cons step steps induction =>
      have split : spaced (plainTokens (step :: steps)) =
          stepText step ++ spaced (plainTokens steps) := by
        simp [plainTokens, spaced, stepText, Token.text, Literal.numeral, Literal.minus]
      rw [List.flatMap_cons, induction, split]

/-- The sign is left over where there is no number for it. -/
theorem Lead.text_spaced (lead : Lead) :
    lead.text = spaced lead.tokens ++ Literal.minus lead.signsNext := by
  rcases lead with ⟨negative, steps, closed⟩
  cases steps with
  | nil => simp [text, tokens, signsNext, spaced]
  | cons step steps =>
      have split : spaced (tokens ⟨negative, step :: steps, closed⟩) =
          Literal.minus negative ++ stepText step ++ spaced (plainTokens steps) := by
        simp [tokens, spaced, stepText, Token.text, Literal.numeral]
      rw [text, List.flatMap_cons, plain_spaced, split]
      simp [signsNext, Literal.minus]

namespace Draft

theorem print_number (lead : Lead) (last : Literal) :
    print (number lead last).tokens = (number lead last).text := by
  rw [tokens, print_append _ (List.cons_ne_nil _ _), print_singleton, text, lead.text_spaced,
    List.append_assoc]
  rfl

theorem print_operator (lead : Lead) (last : Literal) (closed : last.IsClosed) (sign : Operator) :
    print (operator lead last closed sign).tokens ++ [' '] =
      (operator lead last closed sign).text := by
  rw [tokens, print_append _ (List.cons_ne_nil _ _), print_cons _ (List.cons_ne_nil _ _),
    print_singleton, text, lead.text_spaced]
  simp [Token.text, Literal.numeral]

theorem print_tokens (draft : Draft) : print draft.tokens = Text.dropLastSpace draft.text := by
  have solid := last_print_ne_space draft.tokens
  cases draft with
  | blank => rfl
  | minus => rfl
  | number lead last =>
      rw [print_number] at solid
      rw [print_number, Text.drop_last_space_self solid]
  | operator lead last closed sign => rw [← print_operator, Text.drop_last_space_append]

end Draft

theorem Answer.print_tokens (answer : Answer) : print answer.tokens = answer.text := by
  have before := Draft.print_number answer.lead answer.last
  rw [Draft.tokens] at before
  rw [tokens, Draft.tokens, print_append _ (List.cons_ne_nil _ _), spaced_concat, before,
    print_cons _ (List.cons_ne_nil _ _), print_singleton, text, Draft.text]
  simp [Token.text]

/-- Writing the tokens of a text gives the text up to its blanks. -/
theorem tokens_written_again :
    (∀ text tokens joined, tokenize text = .ok tokens →
      Text.Joined (tokens.map Token.text) joined → tokenize joined = .ok tokens) ∧
    (∀ calculator, Reachable calculator → ∃ tokens, calculator.tokens = .ok tokens ∧
      print tokens = Text.dropLastSpace calculator.display) := by
  constructor
  · intro text tokens joined _ written
    exact tokenize_joined written
  · intro calculator reachable
    cases reachable.displayable with
    | draft draft => exact ⟨draft.tokens, draft.tokenize_draft, draft.print_tokens⟩
    | answer answer =>
        have solid := last_print_ne_space answer.tokens
        rw [answer.print_tokens] at solid
        have kept := Text.drop_last_space_self solid
        exact ⟨answer.tokens, answer.tokenize_answer, answer.print_tokens.trans kept.symm⟩

/-- A sign that belongs to a number stays with it, also behind other blanks, and a sign that is still
without its second number loses its space. -/
theorem negative_written_again :
    (∃ tokens, tokenize " -.5\t- ".toList = .ok tokens ∧
      tokenize "-.5\n\u2003-".toList = .ok tokens) ∧
    ∃ tokens, (Calculator.mk "-1 - ".toList).tokens = .ok tokens ∧
      print tokens = "-1 -".toList := by
  constructor
  · let half : Numeral := ⟨"-.5".toList, ⟨true, 5, 1⟩, rfl⟩
    have joined : Text.Joined [half.literal, ['-']] "-.5\n\u2003-".toList :=
      .cons half.literal "\n\u2003".toList (List.cons_ne_nil _ _) (List.all_eq_true.mp rfl)
        (.single ['-'])
    have read : tokenize " -.5\t- ".toList = .ok [.number half, .operator .subtract] := rfl
    exact ⟨_, read, tokens_written_again.1 _ _ _ read joined⟩
  · have reachable : Reachable ⟨"-1 - ".toList⟩ := by
      apply (Reachable.iff_run _).mpr
      exact ⟨[.digits ['0'], .operator .subtract, .digits ['1'], .evaluate, .keep,
        .operator .subtract], by decide +kernel⟩
    exact tokens_written_again.2 _ reachable

end Keypad
