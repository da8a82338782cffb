import Keypad.Proofs.Display.Frozen
import Keypad.Proofs.Key.Expression

/-!
Typing a display again. What a display shows of its expression is itself a text of keys, one for
each character that is not a space, however it came about. On a new calculator these keys write the
display again, unless it begins with the minus sign of a kept result, which no key can type.
-/

namespace Keypad

namespace Text

theorem solid_append (before after : List Char) :
    solid (before ++ after) = solid before ++ solid after := List.filter_append ..

theorem solid_eq_self {text : List Char} (unbroken : ∀ character ∈ text, isBlank character = false) :
    solid text = text := by
  apply List.filter_eq_self.mpr
  intro character member
  rw [unbroken character member]
  rfl

end Text

/-- Without its blanks the text spells the keys, one by one. -/
def Key.Spelled (keys : List Key) (text : List Char) : Prop :=
  List.Forall₂ Key.Marks (Text.solid text) keys

namespace Key

theorem Spelled.append {keys more : List Key} {text further : List Char}
    (spelled : Spelled keys text) (behind : Spelled more further) :
    Spelled (keys ++ more) (text ++ further) := by
  rw [Spelled, Text.solid_append]
  exact List.rel_append spelled behind

theorem spelled_literal (literal : Literal) : Spelled literal.keys literal.text := by
  have unbroken : ∀ character ∈ literal.text, Text.isBlank character = false :=
    (Token.number (literal.numeral false)).text_solid
  rw [Spelled, Text.solid_eq_self unbroken]
  exact literal.keys_spelled

theorem spelled_operator (sign : Operator) :
    Spelled [.operator sign] [' ', sign.symbol, ' '] := by
  cases sign with
  | _ => exact .cons (by decide) .nil

theorem spelled_minus (negative : Bool) :
    Spelled (if negative then [.operator .subtract] else []) (Literal.minus negative) := by
  cases negative with
  | false => exact .nil
  | true => exact .cons (by decide) .nil

end Key

namespace Lead

/-- The sign in front would be the key of the operator. -/
def keys (lead : Lead) : List Key :=
  (if lead.negative then [.operator .subtract] else []) ++ lead.steps.flatMap stepKeys

theorem spelled_steps (steps : List (Literal × Operator)) :
    Key.Spelled (steps.flatMap stepKeys) (steps.flatMap stepText) := by
  induction steps with
  | nil => exact .nil
  | cons step steps induction =>
      have first := (Key.spelled_literal step.1).append (Key.spelled_operator step.2)
      exact first.append induction

theorem spelled (lead : Lead) : Key.Spelled lead.keys lead.text :=
  (Key.spelled_minus lead.negative).append (spelled_steps lead.steps)

theorem press_keys (lead : Lead) (unsigned : lead.negative = false) :
    Calculator.new.pressAll lead.keys = .ok ⟨lead.text⟩ := by
  obtain ⟨negative, steps, closed⟩ := lead
  obtain rfl : negative = false := unsigned
  exact press_steps (.ofSign false) steps closed

theorem keys_of_sign (lead : Lead) (signed : lead.negative = true) :
    lead.keys = .operator .subtract :: lead.steps.flatMap stepKeys := by
  rw [keys, signed]
  rfl

theorem head_text_number (lead : Lead) (last : Literal) (rest : List Char) :
    (lead.text ++ last.text ++ rest).head? = some '-' ↔ lead.negative = true := by
  obtain ⟨negative, steps, closed⟩ := lead
  cases negative with
  | true => simp [text, Literal.minus]
  | false =>
      have digit (literal : Literal) (behind : List Char) :
          (literal.text ++ behind).head? ≠ some '-' := by
        rcases literal.head_text with ⟨first, others, shape, isDigit⟩
        rw [shape, List.cons_append, List.head?_cons]
        intro same
        cases same
        contradiction
      refine iff_of_false ?_ Bool.false_ne_true
      cases steps with
      | nil =>
          rw [text, List.flatMap_nil, List.append_nil, List.append_assoc]
          exact digit last rest
      | cons step steps =>
          rw [text, List.flatMap_cons, stepText, List.append_assoc, List.append_assoc,
            List.append_assoc, List.append_assoc]
          exact digit step.1 _

end Lead

namespace Draft

def keys : Draft → List Key
  | blank => []
  | minus => [.operator .subtract]
  | number lead last => lead.keys ++ last.keys
  | operator lead last _ sign => lead.keys ++ last.keys ++ [.operator sign]

theorem spelled (draft : Draft) : Key.Spelled draft.keys draft.text := by
  cases draft with
  | blank => exact .nil
  | minus => exact .cons (by decide) .nil
  | number lead last => exact lead.spelled.append (Key.spelled_literal last)
  | operator lead last closed sign =>
      have numbers := lead.spelled.append (Key.spelled_literal last)
      exact numbers.append (Key.spelled_operator sign)

/-- The sign of a kept result stands in front. -/
def opensWithSign : Draft → Bool
  | blank => false
  | minus => true
  | number lead _ => lead.negative
  | operator lead _ _ _ => lead.negative

theorem head_text (draft : Draft) : draft.text.head? = some '-' ↔ draft.opensWithSign = true := by
  cases draft with
  | blank => simp [text, opensWithSign]
  | minus => simp [text, opensWithSign]
  | number lead last =>
      have head := lead.head_text_number last []
      rw [List.append_nil] at head
      exact head
  | operator lead last closed sign => exact lead.head_text_number last [' ', sign.symbol, ' ']

theorem press_number (lead : Lead) (last : Literal) (unsigned : lead.negative = false) :
    Calculator.new.pressAll (lead.keys ++ last.keys) = .ok ⟨lead.text ++ last.text⟩ := by
  rw [Calculator.press_all_append, lead.press_keys unsigned]
  exact press_literal lead last

theorem press_keys (draft : Draft) (unsigned : draft.opensWithSign = false) :
    Calculator.new.pressAll draft.keys = .ok draft.shown := by
  cases draft with
  | blank => rfl
  | minus => contradiction
  | number lead last => exact press_number lead last unsigned
  | operator lead last closed sign =>
      have operator := press_operator lead last closed sign
      rw [lead.text_push] at operator
      rw [keys, Calculator.press_all_append, press_number lead last unsigned, ok_bind]
      apply (Calculator.press_all_cons _ _ _).trans
      exact congrArg (· >>= _) operator

/-- The key of a sign in front is the first to be pressed, and it is refused. -/
theorem refused_of_sign (draft : Draft) (signed : draft.opensWithSign = true) (more : List Key) :
    Calculator.new.pressAll (draft.keys ++ more) = .error .operationImpossible := by
  have first (rest : List Key) :
      Calculator.new.pressAll (.operator .subtract :: rest) = .error .operationImpossible := by
    rw [Calculator.press_all_cons]
    rfl
  cases draft with
  | blank => contradiction
  | minus => exact first more
  | number before last =>
      rw [keys, before.keys_of_sign signed]
      exact first _
  | operator before last closed sign =>
      rw [keys, before.keys_of_sign signed]
      exact first _

end Draft

namespace Calculator

def beforeMark : List Char → List Char
  | ' ' :: '=' :: ' ' :: _ => []
  | character :: rest => character :: beforeMark rest
  | [] => []

theorem before_mark_append (expression result : List Char) (absent : '=' ∉ expression) :
    beforeMark (expression ++ [' ', '=', ' '] ++ result) = expression := by
  induction expression with
  | nil => rfl
  | cons character rest induction =>
      have later := induction (fun member => absent (List.mem_cons_of_mem _ member))
      have unmarked : ∀ others, rest ++ [' ', '=', ' '] ++ result ≠ '=' :: ' ' :: others := by
        intro others same
        cases rest with
        | nil => simp at same
        | cons next rest =>
            have mark : next = '=' := (List.cons.inj same).1
            simp [mark] at absent
      rw [List.cons_append, List.cons_append, beforeMark, later]
      intro others space same
      exact unmarked others same

/-- What was typed: the display, or the part of it before the result. -/
def entered (calculator : Calculator) : List Char :=
  if calculator.hasResult then beforeMark calculator.display else calculator.display

/-- The keys that are pressed after those of what was typed. -/
def endingKeys (calculator : Calculator) : List Key :=
  if calculator.hasResult then [.equals] else []

end Calculator

namespace Draft

theorem entered_shown (draft : Draft) : draft.shown.entered = draft.text :=
  if_neg (by rw [draft.has_result_shown]; exact Bool.false_ne_true)

theorem ending_shown (draft : Draft) : draft.shown.endingKeys = [] :=
  if_neg (by rw [draft.has_result_shown]; exact Bool.false_ne_true)

end Draft

namespace Answer

def draft (answer : Answer) : Draft := .number answer.lead answer.last

theorem entered_shown (answer : Answer) : answer.shown.entered = answer.draft.text := by
  have cut := Calculator.before_mark_append answer.draft.text answer.result.literal
    answer.draft.mark_not_mem
  rw [Calculator.entered, if_pos answer.has_result_shown, answer.display_shown]
  exact cut

theorem ending_shown (answer : Answer) : answer.shown.endingKeys = [.equals] :=
  if_pos answer.has_result_shown

theorem head_display (answer : Answer) :
    answer.shown.display.head? = some '-' ↔ answer.draft.opensWithSign = true := by
  rw [answer.display_shown, List.append_assoc]
  exact answer.lead.head_text_number answer.last _

end Answer

/-- Every display without a sign in front can be typed again. What it shows of its expression reads
as keys, and on a new calculator these keys, with the equals sign after them where there is a
result, are all accepted and lead to the same display. Behind a sign in front the first of the keys
is refused. -/
theorem display_typed_again {calculator : Calculator} (reachable : Reachable calculator) :
    ∃ keys, parseKeys calculator.entered = .ok keys ∧
      (calculator.display.head? ≠ some '-' →
        Calculator.new.pressAll (keys ++ calculator.endingKeys) = .ok calculator) ∧
      (calculator.display.head? = some '-' →
        Calculator.new.pressAll (keys ++ calculator.endingKeys) =
          .error .operationImpossible) := by
  cases reachable.displayable with
  | draft draft =>
      rw [draft.entered_shown, draft.ending_shown]
      refine ⟨draft.keys, parse_keys_of_marks draft.spelled, fun other => ?_, fun sign => ?_⟩
      · rw [List.append_nil]
        exact draft.press_keys (Bool.eq_false_iff.mpr (mt draft.head_text.mpr other))
      · exact draft.refused_of_sign (draft.head_text.mp sign) []
  | answer answer =>
      rw [answer.entered_shown, answer.ending_shown]
      refine ⟨answer.draft.keys, parse_keys_of_marks answer.draft.spelled, fun other => ?_,
        fun sign => answer.draft.refused_of_sign (answer.head_display.mp sign) [.equals]⟩
      have typed := answer.draft.press_keys
        (Bool.eq_false_iff.mpr (mt answer.head_display.mpr other))
      have evaluated : answer.draft.shown.press .equals = .ok answer.shown := answer.evaluated
      rw [Calculator.press_all_append, typed, ok_bind, Calculator.press_all_cons, evaluated]
      rfl

/-- A quotient that was kept, a digit and an operator that were taken back, and two digits added at
once. -/
theorem display_typed_again_kept :
    ∃ (calculator : Calculator) (keys : List Key), Reachable calculator ∧
      calculator.display = "0.5 x 12 = 6".toList ∧ parseKeys "0.5 x 12".toList = .ok keys ∧
      Calculator.new.pressAll (keys ++ [.equals]) = .ok calculator := by
  have reachable : Reachable ⟨"0.5 x 12 = 6".toList⟩ := by
    apply (Reachable.iff_run _).mpr
    exact ⟨[.digits ['7'], .clear, .digits ['1'], .operator .divide, .digits ['2'], .evaluate, .keep,
      .digits ['3'], .correction, .operator .add, .correction, .operator .multiply,
      .digits ['1', '2'], .evaluate], by decide +kernel⟩
  rcases display_typed_again reachable with ⟨keys, read, typed, -⟩
  have entered : Calculator.entered ⟨"0.5 x 12 = 6".toList⟩ = "0.5 x 12".toList := by
    decide +kernel
  have ending : Calculator.endingKeys ⟨"0.5 x 12 = 6".toList⟩ = [.equals] := by decide +kernel
  rw [entered] at read
  rw [ending] at typed
  exact ⟨_, keys, reachable, rfl, read, typed (by decide)⟩

end Keypad
