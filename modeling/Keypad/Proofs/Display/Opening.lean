import Keypad.Proofs.Display.Reachable

/-!
What a display opens with. Operators are typed between two spaces and behind a number, so the first
token of a display is a number. One display is the exception: of a negative result that was kept,
corrections leave the minus sign last, and a minus sign alone reads as the operator.
-/

namespace Keypad

/-- At this place of a text the sign of the operator is a word of its own. -/
structure Operator.StandsIn (sign : Operator) (text before after : List Char) : Prop where
  split : text = before ++ sign.symbol :: after
  opened : ∀ character, before.getLast? = some character → Text.isBlank character = true
  closed : ∀ character, after.head? = some character → Text.isBlank character = true

/-- A number comes first, if anything does, and every operator has a space on both sides. -/
structure Calculator.OpensWithNumber (calculator : Calculator) (tokens : Expression) : Prop where
  first : ∀ token, tokens.head? = some token → ∃ numeral, token = .number numeral
  spaced : ∀ (sign : Operator) (before after : List Char),
    sign.StandsIn calculator.display before after →
      before.getLast? = some ' ' ∧ after.head? = some ' '
  starts : tokens.startsWithOperator = true ↔ calculator.display = []

/-! The blanks of a display. -/

def IsSpaceOrSolid (character : Char) : Prop :=
  character = ' ' ∨ Text.isBlank character = false

theorem Numeral.solid (numeral : Numeral) :
    ∀ character ∈ numeral.literal, IsSpaceOrSolid character := by
  intro character member
  exact .inr ((Token.number numeral).text_solid character member)

theorem Literal.solid (literal : Literal) :
    ∀ character ∈ literal.text, IsSpaceOrSolid character :=
  (literal.numeral false).solid

theorem Operator.solid_between_spaces (sign : Operator) :
    ∀ character ∈ [' ', sign.symbol, ' '], IsSpaceOrSolid character := by
  intro character member
  simp only [List.mem_cons, List.not_mem_nil, or_false] at member
  rcases member with space | symbol | space
  · exact .inl space
  · exact .inr ((Token.operator sign).text_solid character (List.mem_singleton.mpr symbol))
  · exact .inl space

theorem Lead.solid (lead : Lead) : ∀ character ∈ lead.text, IsSpaceOrSolid character := by
  intro character member
  rcases List.mem_append.mp member with sign | later
  · cases negative : lead.negative with
    | true =>
        have minus : character = '-' := by simpa [negative, Literal.minus] using sign
        exact .inr (minus ▸ by decide)
    | false => simp [negative, Literal.minus] at sign
  · have inside := List.mem_flatMap.mp later
    rcases inside with ⟨step, -, inStep⟩
    rcases List.mem_append.mp inStep with literal | operator
    · exact step.1.solid character literal
    · exact step.2.solid_between_spaces character operator

theorem Draft.solid (draft : Draft) : ∀ character ∈ draft.text, IsSpaceOrSolid character := by
  cases draft with
  | blank => simp [text]
  | minus =>
      intro character member
      exact .inr (List.mem_singleton.mp member ▸ by decide)
  | number lead last => exact List.forall_mem_append.mpr ⟨lead.solid, last.solid⟩
  | operator lead last closed sign =>
      have before := List.forall_mem_append.mpr ⟨lead.solid, last.solid⟩
      exact List.forall_mem_append.mpr ⟨before, sign.solid_between_spaces⟩

theorem Answer.solid (answer : Answer) : ∀ character ∈ answer.text, IsSpaceOrSolid character := by
  have expression := (Draft.number answer.lead answer.last).solid
  have mark : ∀ character ∈ [' ', '=', ' '], IsSpaceOrSolid character := by
    intro character member
    simp only [List.mem_cons, List.not_mem_nil, or_false] at member
    rcases member with space | mark | space
    · exact .inl space
    · exact .inr (mark ▸ by decide)
    · exact .inl space
  have behind := List.forall_mem_append.mpr ⟨mark, answer.result.solid⟩
  exact List.forall_mem_append.mpr ⟨expression, behind⟩

/-! The ends of a display. -/

theorem Operator.symbol_not_in_literal (sign : Operator) {character : Char}
    (inside : character.isDigit = true ∨ character = '.') : character ≠ sign.symbol := by
  intro same
  rw [same] at inside
  cases sign <;> simp [symbol] at inside

theorem Literal.exists_last (literal : Literal) :
    ∃ last, literal.text.getLast? = some last ∧ ∀ sign : Operator, last ≠ sign.symbol := by
  have present := Option.isSome_iff_exists.mp (List.getLast?_isSome.mpr literal.text_ne_nil)
  rcases present with ⟨last, found⟩
  have inside := Decimal.characters_of_of_unsigned (literal.of_unsigned_text false) last
    (List.mem_of_getLast? found)
  exact ⟨last, found, fun sign => sign.symbol_not_in_literal inside⟩

/-- The first token is a number, and the last character is not the sign of an operator. -/
structure Calculator.EndsOnNoSign (calculator : Calculator) (tokens : Expression) : Prop where
  head : ∃ numeral, tokens.head? = some (.number numeral)
  last : ∃ character, calculator.display.getLast? = some character ∧
    ∀ sign : Operator, character ≠ sign.symbol

theorem Draft.ends_number (lead : Lead) (last : Literal) :
    (number lead last).shown.EndsOnNoSign (number lead last).tokens where
  head := lead.head_tokens (last.numeral lead.signsNext) []
  last := by
    rcases last.exists_last with ⟨character, found, distinct⟩
    refine ⟨character, ?_, distinct⟩
    rw [shown, text, List.getLast?_append, found, Option.some_or]

theorem Draft.ends_operator (lead : Lead) (last : Literal) (closed : last.IsClosed)
    (sign : Operator) : (operator lead last closed sign).shown.EndsOnNoSign
      (operator lead last closed sign).tokens where
  head := lead.head_tokens (last.numeral lead.signsNext) [.operator sign]
  last := ⟨' ', by simp [shown, text], fun sign => by cases sign <;> decide⟩

theorem Answer.ends (answer : Answer) : answer.shown.EndsOnNoSign answer.tokens where
  head := by
    rcases (Draft.ends_number answer.lead answer.last).head with ⟨numeral, found⟩
    exact ⟨numeral, by rw [tokens, List.head?_append, found, Option.some_or]⟩
  last := by
    rcases answer.exists_literal with ⟨negative, literal, -, same⟩
    rcases literal.exists_last with ⟨character, found, distinct⟩
    refine ⟨character, ?_, distinct⟩
    rw [shown, text, same, Literal.numeral]
    simp only [List.getLast?_append, found, Option.some_or]

inductive Calculator.Opening (calculator : Calculator) (tokens : Expression) : Prop where
  | empty (display : calculator.display = []) (none : tokens = [])
  | sign (display : calculator.display = ['-']) (alone : tokens = [.operator .subtract])
  | number (ends : calculator.EndsOnNoSign tokens)

namespace Reachable

variable {calculator : Calculator} (reachable : Reachable calculator) {tokens : Expression}
  (read : calculator.tokens = .ok tokens)

include reachable

theorem solid : ∀ character ∈ calculator.display, IsSpaceOrSolid character := by
  cases reachable.displayable with
  | draft draft => exact draft.solid
  | answer answer => exact answer.solid

include read

theorem opening : calculator.Opening tokens := by
  cases reachable.displayable with
  | answer answer =>
      cases Except.ok.inj (answer.tokenize_answer.symm.trans read)
      exact .number answer.ends
  | draft draft =>
      cases Except.ok.inj (draft.tokenize_draft.symm.trans read)
      cases draft with
      | blank => exact .empty rfl rfl
      | minus => exact .sign rfl rfl
      | number lead last => exact .number (Draft.ends_number lead last)
      | operator lead last closed sign => exact .number (Draft.ends_operator lead last closed sign)

/-- Blanks are spaces here, so it remains that no sign is at either end of the display: at the left
end it would be the first token, and the right end holds no sign. -/
theorem spaced (ends : calculator.EndsOnNoSign tokens) (sign : Operator) (before after : List Char)
    (stands : sign.StandsIn calculator.display before after) :
    before.getLast? = some ' ' ∧ after.head? = some ' ' := by
  have space (character : Char) (member : character ∈ calculator.display)
      (blank : Text.isBlank character = true) : character = ' ' := by
    rcases reachable.solid character member with space | solid
    · exact space
    · rw [blank] at solid
      contradiction
  have closed : after.head? = some ' ' := by
    cases after with
    | nil =>
        rcases ends.last with ⟨character, found, distinct⟩
        rw [stands.split, List.getLast?_concat] at found
        exact absurd (Option.some.inj found).symm (distinct sign)
    | cons next rest =>
        have inside : next ∈ calculator.display := by simp [stands.split]
        rw [List.head?_cons, space next inside (stands.closed next rfl)]
  refine ⟨?_, closed⟩
  cases final : before.getLast? with
  | some character =>
      have inside : character ∈ calculator.display := by
        simp [stands.split, List.mem_of_getLast? final]
      rw [space character inside (stands.opened character final)]
  | none =>
      obtain rfl := List.getLast?_eq_none_iff.mp final
      rcases List.head?_eq_some_iff.mp closed with ⟨rest, rfl⟩
      have first := tokenize_text_append (.operator sign) ' ' rest (by decide)
      change tokenize (sign.symbol :: ' ' :: rest) = _ at first
      rw [Calculator.tokens, stands.split, List.nil_append, first] at read
      rcases ok_of_map read with ⟨later, -, rfl⟩
      rcases ends.head with ⟨numeral, number⟩
      simp at number

end Reachable

namespace Calculator

theorem opens_of_empty {calculator : Calculator} (empty : calculator.display = []) :
    calculator.OpensWithNumber [] where
  first token found := by contradiction
  spaced sign before after stands := by
    have nothing := stands.split
    rw [empty] at nothing
    simp at nothing
  starts := by simp [empty, Expression.startsWithOperator]

theorem EndsOnNoSign.display_ne {calculator : Calculator} {tokens : Expression}
    (ends : calculator.EndsOnNoSign tokens) :
    calculator.display ≠ [] ∧ calculator.display ≠ ['-'] := by
  rcases ends.last with ⟨character, found, distinct⟩
  constructor
  · intro nothing
    rw [nothing] at found
    contradiction
  · intro minus
    rw [minus] at found
    exact distinct .subtract (Option.some.inj found).symm

end Calculator

theorem Reachable.opens_of_ends {calculator : Calculator} (reachable : Reachable calculator)
    {tokens : Expression} (read : calculator.tokens = .ok tokens)
    (ends : calculator.EndsOnNoSign tokens) : calculator.OpensWithNumber tokens where
  first token found := by
    rcases ends.head with ⟨numeral, head⟩
    exact ⟨numeral, Option.some.inj (found.symm.trans head)⟩
  spaced := reachable.spaced read ends
  starts := by
    rcases ends.head with ⟨numeral, head⟩
    simp [Expression.starts_with_operator_number head, ends.display_ne.1]

/-- A number comes first on every display but one, and all operators stand between spaces there. The
exception is a minus sign alone, which is the operator with nothing on either side. -/
theorem opens_with_number_iff {calculator : Calculator} (reachable : Reachable calculator) :
    ∃ tokens, calculator.tokens = .ok tokens ∧
      (calculator.OpensWithNumber tokens ↔ calculator.display ≠ ['-']) ∧
      (calculator.display = ['-'] → tokens = [.operator .subtract]) := by
  rcases reachable.exists_tokens with ⟨tokens, read⟩
  refine ⟨tokens, read, ?_⟩
  cases reachable.opening read with
  | empty display none =>
      have noMinus : calculator.display ≠ ['-'] := by simp [display]
      rw [none]
      exact ⟨iff_of_true (Calculator.opens_of_empty display) noMinus,
        fun minus => absurd minus noMinus⟩
  | sign display alone =>
      refine ⟨iff_of_false (fun opens => ?_) (fun other => other display), fun _ => alone⟩
      rcases opens.first (.operator .subtract) (by simp [alone]) with ⟨numeral, number⟩
      contradiction
  | number ends =>
      have noMinus := ends.display_ne.2
      exact ⟨iff_of_true (reachable.opens_of_ends read ends) noMinus,
        fun minus => absurd minus noMinus⟩

/-- A negative result that was kept is a number, and the operator typed behind it has its spaces. -/
theorem opens_with_number_kept :
    ∃ tokens, Reachable ⟨"-1 x ".toList⟩ ∧ Calculator.tokens ⟨"-1 x ".toList⟩ = .ok tokens ∧
      Calculator.OpensWithNumber ⟨"-1 x ".toList⟩ tokens := by
  have reachable : Reachable ⟨"-1 x ".toList⟩ := by
    apply (Reachable.iff_run _).mpr
    exact ⟨[.digits ['0'], .operator .subtract, .digits ['1'], .evaluate, .keep,
      .operator .multiply], by decide +kernel⟩
  rcases opens_with_number_iff reachable with ⟨tokens, read, opens, -⟩
  exact ⟨tokens, reachable, read, opens.mpr (by decide)⟩

/-- A correction leaves a minus sign alone of a negative result that was kept. It is an operator, it
is the first token, and it has no space on either side. -/
theorem lone_sign_opens :
    ∃ operations : List Operation, Calculator.new.run operations = ⟨['-']⟩ ∧
      Calculator.tokens ⟨['-']⟩ = .ok [.operator .subtract] ∧
      Operator.subtract.StandsIn ['-'] [] [] ∧
      Expression.startsWithOperator [.operator .subtract] = true ∧
      ¬Calculator.OpensWithNumber ⟨['-']⟩ [.operator .subtract] := by
  refine ⟨[.digits ['0'], .operator .subtract, .digits ['1'], .evaluate, .keep, .correction],
    by decide +kernel, Draft.minus.tokenize_draft, ⟨rfl, nofun, nofun⟩, rfl, fun opens => ?_⟩
  rcases opens.first _ rfl with ⟨numeral, number⟩
  contradiction

end Keypad
