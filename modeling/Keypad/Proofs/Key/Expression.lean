import Keypad.Proofs.Display.Evaluation
import Keypad.Proofs.Key.Spelling

/-!
Texts that spell an expression. Numbers stand as they will on the display, an operator under any
of its signs, and blanks anywhere, also inside a number. From such a text the keys of the chain are
read, the keys are typed without a refusal, and what is then evaluated is the chain.
-/

namespace Keypad

/-- All signs that are read as the operator. -/
def Operator.spellings : Operator → List Char
  | add => ['+']
  | subtract => ['-']
  | multiply => ['x', 'X', '*', '×']
  | divide => ['÷', '/']

theorem Key.marks_spelling {sign : Operator} {spelling : Char}
    (spelled : spelling ∈ sign.spellings) : Marks spelling (.operator sign) := by
  have table : sign.spellings.all (Marks · (.operator sign)) = true := by
    cases sign with
    | _ => rfl
  exact of_decide_eq_true (List.all_eq_true.mp table spelling spelled)

theorem Key.marks_digit {digit : Char} (isDigit : digit.isDigit = true) :
    Marks digit (ofDigit digit) := by
  rw [← of_char_iff, ofDigit]
  unfold ofChar?
  rw [if_pos isDigit]

theorem Key.marks_digits {digits : List Char}
    (valid : ∀ character ∈ digits, character.isDigit = true) :
    List.Forall₂ Marks digits (digits.map ofDigit) := by
  rw [List.forall₂_map_right_iff]
  exact List.forall₂_same.mpr fun digit member => marks_digit (valid digit member)

theorem Literal.keys_spelled (literal : Literal) :
    List.Forall₂ Key.Marks literal.text literal.keys := by
  obtain ⟨whole, fraction, nonempty, wholeDigits, fractionDigits⟩ := literal
  refine List.rel_append (Key.marks_digits wholeDigits) ?_
  cases fraction with
  | none => exact .nil
  | some digits => exact .cons (by decide) (Key.marks_digits fractionDigits)

namespace Chain

inductive SpelledRest : List (Operator × Literal) → List Char → Prop where
  | nil : SpelledRest [] []
  | cons (sign : Operator) (spelling : Char) (operand : Literal)
      (rest : List (Operator × Literal)) (text : List Char)
      (sign_spelled : spelling ∈ sign.spellings) (rest_spelled : SpelledRest rest text) :
      SpelledRest ((sign, operand) :: rest) (spelling :: (operand.text ++ text))

/-- The text without its blanks spells the chain. -/
def Spelled (chain : Chain Literal) (text : List Char) : Prop :=
  ∃ rest, SpelledRest chain.rest rest ∧ Text.solid text = chain.first.text ++ rest

theorem keys_rest_spelled {rest : List (Operator × Literal)} {text : List Char}
    (spelled : SpelledRest rest text) : List.Forall₂ Key.Marks text (keysRest rest) := by
  induction spelled with
  | nil => exact .nil
  | cons sign spelling operand rest text sign_spelled rest_spelled induction =>
      exact .cons (Key.marks_spelling sign_spelled) (List.rel_append operand.keys_spelled induction)

theorem parse_keys_spelled {chain : Chain Literal} {text : List Char}
    (spelled : chain.Spelled text) : parseKeys text = .ok chain.keys := by
  obtain ⟨rest, rest_spelled, solid⟩ := spelled
  apply parse_keys_of_marks
  rw [solid]
  exact List.rel_append chain.first.keys_spelled (keys_rest_spelled rest_spelled)

theorem entry_keys_literal (literal : Literal) : ∀ key ∈ literal.keys, key.isEntry = true := by
  obtain ⟨whole, fraction, nonempty, wholeDigits, fractionDigits⟩ := literal
  have digits (characters : List Char) :
      ∀ key ∈ characters.map Key.ofDigit, key.isEntry = true := by
    intro key member
    obtain ⟨character, -, rfl⟩ := List.mem_map.mp member
    rfl
  intro key member
  rcases List.mem_append.mp member with before | behind
  · exact digits whole key before
  · cases fraction with
    | none => exact absurd behind List.not_mem_nil
    | some characters =>
        rcases List.mem_cons.mp behind with rfl | behind
        · rfl
        · exact digits characters key behind

theorem entry_keys (chain : Chain Literal) : ∀ key ∈ chain.keys, key.isEntry = true := by
  intro key member
  rcases List.mem_append.mp member with first | later
  · exact entry_keys_literal chain.first key first
  · obtain ⟨step, -, inside⟩ := List.mem_flatMap.mp later
    rcases List.mem_cons.mp inside with rfl | operand
    · rfl
    · exact entry_keys_literal step.2 key operand

theorem keys_ne_nil (chain : Chain Literal) : chain.keys ≠ [] := by
  simp [keys, Literal.keys, chain.first.nonempty]

/-- The keys of a chain end inside an expression, so they are followed by an evaluation. -/
theorem evaluate_keys_chain (chain : Chain Literal) (closed : chain.IsClosed) :
    evaluateKeys chain.keys =
      (Calculator.evaluate ⟨chain.text Literal.text⟩).map Calculator.display := by
  have last : chain.keys.getLast?.any Key.isEntry = true := by
    obtain ⟨key, found⟩ := Option.isSome_iff_exists.mp
      (List.getLast?_isSome.mpr chain.keys_ne_nil)
    rw [found]
    exact chain.entry_keys key (List.mem_of_getLast? found)
  rw [evaluateKeys, Draft.press_chain chain closed]
  simp only [last, if_true]
  rfl

theorem evaluate_text_spelled {chain : Chain Literal} {text : List Char} (closed : chain.IsClosed)
    (spelled : chain.Spelled text) :
    evaluateText text = ((Calculator.evaluate
      ⟨chain.numerals.text Numeral.literal⟩).map Calculator.display).mapError .rejected := by
  rw [evaluateText, parse_keys_spelled spelled, chain.text_numerals,
    ← chain.evaluate_keys_chain closed]
  rfl

end Chain

/-- What becomes of a text that spells a chain. A division by a zero of the chain is refused;
otherwise an operation with an outcome that is not finite is, and where there is none, the chain
comes back as the display writes it, with its value behind an equals sign. -/
theorem evaluate_text_of_spelled (text : List Char) (chain : Chain Literal)
    (closed : chain.IsClosed) (operated : chain.rest ≠ []) (spelled : chain.Spelled text) :
    (chain.numerals.HasZeroDivisor → evaluateText text = .error (.rejected .divideByZero)) ∧
    (¬chain.numerals.HasZeroDivisor →
      (∃ outcome, chain.numerals.value = .error (.nonFinite outcome) ∧
        evaluateText text = .error (.rejected .operationImpossible)) ∨
      (∃ result, chain.numerals.value = .ok (.ofDecimal result) ∧
        evaluateText text = .ok (chain.text Literal.text ++ [' ', '=', ' '] ++ result.text))) := by
  have further := chain.operated_numerals operated
  rw [Chain.evaluate_text_spelled closed spelled,
    Calculator.evaluate_chain chain.numerals (chain.complete_numerals closed) further]
  constructor
  · intro zero
    rw [if_pos (chain.numerals.divides_by_zero_tokens.mpr zero)]
    rfl
  · intro allowed
    rw [if_neg (mt chain.numerals.divides_by_zero_tokens.mp allowed)]
    rcases chain.numerals.value_without_zero_divisor allowed with
      ⟨outcome, failed⟩ | ⟨result, found⟩
    · left
      rw [failed]
      exact ⟨outcome, rfl, rfl⟩
    · right
      obtain ⟨number, rfl⟩ := Chain.result_of_value further found
      refine ⟨number, found, ?_⟩
      rw [found, chain.text_numerals, List.append_assoc]
      rfl

/-- Tabs and wide spaces, a star and a slash. -/
theorem evaluate_text_of_spelled_blanks :
    ∃ chain : Chain Literal, chain.IsClosed ∧ chain.rest ≠ [] ∧
      chain.Spelled "1\t2.5*3\u3000/0 4-5".toList ∧ ¬chain.numerals.HasZeroDivisor ∧
      evaluateText "1\t2.5*3\u3000/0 4-5".toList = .ok "12.5 x 3 ÷ 04 - 5 = 4.375".toList := by
  let chain : Chain Literal :=
    ⟨⟨['1', '2'], some ['5'], by simp, by simp, by simp⟩,
      [(.multiply, ⟨['3'], none, by simp, by simp, by simp⟩),
        (.divide, ⟨['0', '4'], none, by simp, by simp, by simp⟩),
        (.subtract, ⟨['5'], none, by simp, by simp, by simp⟩)]⟩
  have closed : chain.IsClosed := ⟨by decide, by decide⟩
  have spelled : chain.Spelled "1\t2.5*3\u3000/0 4-5".toList :=
    ⟨_, .cons .multiply '*' _ _ _ (by decide) (.cons .divide '/' _ _ _ (by decide)
      (.cons .subtract '-' _ _ _ (by decide) .nil)), by decide +kernel⟩
  have value : chain.numerals.value.toOption = some (.ofDecimal ⟨false, 4375, 3⟩) := by
    decide +kernel
  have allowed : ¬chain.numerals.HasZeroDivisor := by
    rw [← Chain.divides_by_zero_tokens]
    decide +kernel
  refine ⟨chain, closed, by decide, spelled, allowed, ?_⟩
  rcases (evaluate_text_of_spelled _ chain closed (by decide) spelled).2 allowed with
    ⟨outcome, failed, -⟩ | ⟨result, found, evaluated⟩
  · rw [failed] at value
    cases value
  · rw [found] at value
    have same : result = ⟨false, 4375, 3⟩ := congrArg Numeral.decimal (Option.some.inj value)
    rw [evaluated, same]
    exact congrArg Except.ok (by decide +kernel)

end Keypad
