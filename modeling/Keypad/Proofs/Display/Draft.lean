import Keypad.Expression
import Keypad.Proofs.Display.Literal
import Keypad.Proofs.Token.Spacing

/-!
What the display holds before there is a result: nothing, a minus sign alone, or numbers with an
operator behind each of them, the last of which may be the number that is being typed. A minus
sign can stand in front of the first number only. Such a text always reads as tokens.
-/

namespace Keypad

/-- Numbers with the operator typed behind each, and the sign in front of all of them. -/
structure Lead where
  negative : Bool
  steps : List (Literal × Operator)
  closed : ∀ step ∈ steps, step.1.IsClosed

namespace Lead

def ofSign (negative : Bool) : Lead := ⟨negative, [], List.forall_mem_nil _⟩

def stepText (step : Literal × Operator) : List Char :=
  step.1.text ++ [' ', step.2.symbol, ' ']

def text (lead : Lead) : List Char :=
  Literal.minus lead.negative ++ lead.steps.flatMap stepText

/-- Whether the sign belongs to the number that comes next. -/
def signsNext (lead : Lead) : Bool := lead.negative && lead.steps.isEmpty

def plainTokens (steps : List (Literal × Operator)) : Expression :=
  steps.flatMap fun step => [.number (step.1.numeral false), .operator step.2]

def tokens (lead : Lead) : Expression :=
  match lead.steps with
  | [] => []
  | (first, sign) :: steps =>
      .number (first.numeral lead.negative) :: .operator sign :: plainTokens steps

def push (lead : Lead) (literal : Literal) (closed : literal.IsClosed) (sign : Operator) : Lead :=
  ⟨lead.negative, lead.steps ++ [(literal, sign)], by
    intro step member
    rcases List.mem_append.mp member with earlier | last
    · exact lead.closed step earlier
    · rw [List.mem_singleton.mp last]
      exact closed⟩

theorem text_push (lead : Lead) (literal : Literal) (closed : literal.IsClosed)
    (sign : Operator) :
    (lead.push literal closed sign).text =
      lead.text ++ literal.text ++ [' ', sign.symbol, ' '] := by
  simp [push, text, stepText, List.flatMap_append]

theorem tokenize_plain (steps : List (Literal × Operator)) (rest : List Char) :
    tokenize (steps.flatMap stepText ++ rest) =
      (tokenize rest).map (plainTokens steps ++ ·) := by
  induction steps with
  | nil => cases read : tokenize rest <;> simp [plainTokens, read, Except.map]
  | cons step steps induction =>
      obtain ⟨literal, sign⟩ := step
      have first := tokenize_operand (literal.numeral false) sign
        (steps.flatMap stepText ++ rest)
      rw [induction] at first
      have regrouped : ((literal, sign) :: steps).flatMap stepText ++ rest =
          (literal.numeral false).literal ++
            ' ' :: sign.symbol :: ' ' :: (steps.flatMap stepText ++ rest) := by
        simp [stepText, Literal.numeral, Literal.minus]
      rw [regrouped, first]
      cases tokenize rest <;> rfl

/-- The tokens of a lead stand in front of those of the text behind it. The sign goes to that
text where the lead has no number for it. -/
theorem tokenize_lead (lead : Lead) (rest : List Char) :
    tokenize (lead.text ++ rest) =
      (tokenize (Literal.minus lead.signsNext ++ rest)).map (lead.tokens ++ ·) := by
  obtain ⟨negative, steps, closed⟩ := lead
  cases steps with
  | nil =>
      simp only [text, signsNext, tokens, List.flatMap_nil, List.append_nil, List.isEmpty_nil,
        Bool.and_true, List.nil_append]
      cases tokenize (Literal.minus negative ++ rest) <;> rfl
  | cons step steps =>
      obtain ⟨literal, sign⟩ := step
      have first := tokenize_operand (literal.numeral negative) sign
        (steps.flatMap stepText ++ rest)
      rw [tokenize_plain] at first
      have regrouped : text ⟨negative, (literal, sign) :: steps, closed⟩ ++ rest =
          (literal.numeral negative).literal ++
            ' ' :: sign.symbol :: ' ' :: (steps.flatMap stepText ++ rest) := by
        simp [text, stepText, Literal.numeral]
      rw [regrouped, first]
      simp only [signsNext, tokens, List.isEmpty_cons, Bool.and_false, Literal.minus,
        Bool.false_eq_true, if_false, List.nil_append]
      cases tokenize rest <;> rfl

theorem length_plain_tokens (steps : List (Literal × Operator)) :
    (plainTokens steps).length = 2 * steps.length := by
  induction steps with
  | nil => rfl
  | cons step steps induction =>
      have next : (plainTokens (step :: steps)).length = (plainTokens steps).length + 2 := rfl
      rw [next, induction, List.length_cons, Nat.mul_add]

theorem length_tokens (lead : Lead) : lead.tokens.length = 2 * lead.steps.length := by
  obtain ⟨negative, steps, closed⟩ := lead
  cases steps with
  | nil => rfl
  | cons step steps =>
      simp only [tokens, List.length_cons, length_plain_tokens]
      omega

theorem no_result_in_lead (lead : Lead) : Token.resultMark ∉ lead.tokens := by
  obtain ⟨negative, steps, closed⟩ := lead
  cases steps with
  | nil => simp [tokens]
  | cons step steps => simp [tokens, plainTokens]

theorem head_tokens (lead : Lead) (next : Numeral) (rest : Expression) :
    ∃ first, (lead.tokens ++ .number next :: rest).head? = some (.number first) := by
  obtain ⟨negative, steps, closed⟩ := lead
  cases steps with
  | nil => exact ⟨next, rfl⟩
  | cons step steps => exact ⟨step.1.numeral negative, rfl⟩

end Lead

/-- A display without a result. -/
inductive Draft where
  | blank
  | minus
  | number (lead : Lead) (last : Literal)
  | operator (lead : Lead) (last : Literal) (closed : last.IsClosed) (sign : Operator)

namespace Draft

def text : Draft → List Char
  | blank => []
  | minus => ['-']
  | number lead last => lead.text ++ last.text
  | operator lead last _ sign => lead.text ++ last.text ++ [' ', sign.symbol, ' ']

def tokens : Draft → Expression
  | blank => []
  | minus => [.operator .subtract]
  | number lead last => lead.tokens ++ [.number (last.numeral lead.signsNext)]
  | operator lead last _ sign =>
      lead.tokens ++ [.number (last.numeral lead.signsNext), .operator sign]

theorem text_single (negative : Bool) (literal : Literal) :
    (number (.ofSign negative) literal).text = (literal.numeral negative).literal := by
  simp [text, Lead.text, Lead.ofSign, Literal.numeral]

theorem tokenize_draft (draft : Draft) : tokenize draft.text = .ok draft.tokens := by
  cases draft with
  | blank => rfl
  | minus => exact tokenize_text (.operator .subtract)
  | number lead last =>
      have read := tokenize_text (.number (last.numeral lead.signsNext))
      apply (lead.tokenize_lead last.text).trans
      exact congrArg (Except.map (lead.tokens ++ ·)) read
  | operator lead last closed sign =>
      have read := tokenize_operand (last.numeral lead.signsNext) sign []
      rw [text, List.append_assoc, lead.tokenize_lead, ← List.append_assoc]
      exact congrArg (Except.map (lead.tokens ++ ·)) read

theorem no_result (draft : Draft) : Expression.hasResult draft.tokens = false := by
  rw [Expression.hasResult, ← Bool.not_eq_true, List.contains_iff_mem]
  cases draft with
  | blank => simp [tokens]
  | minus => simp [tokens]
  | number lead last => simp [tokens, lead.no_result_in_lead]
  | operator lead last closed sign => simp [tokens, lead.no_result_in_lead]

/-! Editing. -/

theorem exists_of_lead (lead : Lead) : ∃ draft : Draft, draft.text = lead.text := by
  obtain ⟨negative, steps, closed⟩ := lead
  rcases List.eq_nil_or_concat steps with rfl | ⟨earlier, last, rfl⟩
  · cases negative with
    | false => exact ⟨blank, rfl⟩
    | true => exact ⟨minus, rfl⟩
  · refine ⟨operator ⟨negative, earlier, fun step member => closed step (by simp [member])⟩ last.1
      (closed last (by simp)) last.2, ?_⟩
    simp [text, Lead.text, Lead.stepText, List.flatMap_append]

theorem exists_append_digits (draft : Draft) (digits : List Char) (nonempty : digits ≠ [])
    (valid : ∀ character ∈ digits, character.isDigit = true) :
    ∃ longer : Draft, longer.text = draft.text ++ digits := by
  have typed := Literal.text_of_digits digits nonempty valid
  cases draft with
  | blank => exact ⟨number (.ofSign false) (.ofDigits digits nonempty valid), typed⟩
  | minus =>
      exact ⟨number (.ofSign true) (.ofDigits digits nonempty valid),
        congrArg (['-'] ++ ·) typed⟩
  | number lead last =>
      obtain ⟨longer, appended⟩ := last.exists_append_digits digits valid
      exact ⟨number lead longer, by simp [text, appended]⟩
  | operator lead last closed sign =>
      refine ⟨number (lead.push last closed sign) (.ofDigits digits nonempty valid), ?_⟩
      rw [text, lead.text_push, typed, text]

theorem exists_dropped_character (lead : Lead) (last : Literal) :
    ∃ shorter : Draft, shorter.text = (lead.text ++ last.text).dropLast := by
  rw [List.dropLast_append_of_ne_nil last.text_ne_nil]
  rcases last.exists_shorter with single | ⟨shorter, dropped⟩
  · obtain ⟨draft, same⟩ := exists_of_lead lead
    have empty : last.text.dropLast = [] :=
      List.eq_nil_of_length_eq_zero (by rw [List.length_dropLast]; omega)
    exact ⟨draft, by rw [same, empty, List.append_nil]⟩
  · exact ⟨number lead shorter, by rw [text, dropped]⟩

end Draft

end Keypad
