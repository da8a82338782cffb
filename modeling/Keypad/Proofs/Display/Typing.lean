import Keypad.Calculator.Session
import Keypad.Proofs.Chain.Basic
import Keypad.Proofs.Decimal.Digits
import Keypad.Proofs.Display.Operations

/-!
Typing. The keys of a number, pressed where a number may begin, write its text, and those of a
chain write the whole chain on a new calculator: no key is refused on the way, because what
stands before it is always a draft.
-/

namespace Keypad

namespace Key

def ofDigit (digit : Char) : Key := .digit (digit.toNat - '0'.toNat)

theorem operation_of_digit {digit : Char} (isDigit : digit.isDigit = true) :
    (ofDigit digit).operation = .digits [digit] := by
  rw [ofDigit, operation, Nat.toDigits_of_lt_base (Decimal.digit_value_lt_ten isDigit),
    Decimal.digit_char_of_digit isDigit]

end Key

namespace Literal

def pointKeys : Option (List Char) → List Key
  | none => []
  | some digits => .point :: digits.map Key.ofDigit

def keys (literal : Literal) : List Key :=
  literal.whole.map Key.ofDigit ++ pointKeys literal.fraction

end Literal

namespace Chain

variable {Operand : Type}

def textRest (write : Operand → List Char) (rest : List (Operator × Operand)) : List Char :=
  rest.flatMap fun step => ' ' :: step.1.symbol :: ' ' :: write step.2

def text (write : Operand → List Char) (chain : Chain Operand) : List Char :=
  write chain.first ++ textRest write chain.rest

def keysRest (rest : List (Operator × Literal)) : List Key :=
  rest.flatMap fun step => .operator step.1 :: step.2.keys

def keys (chain : Chain Literal) : List Key := chain.first.keys ++ keysRest chain.rest

def IsClosed (chain : Chain Literal) : Prop :=
  chain.first.IsClosed ∧ ∀ step ∈ chain.rest, step.2.IsClosed

def numerals (chain : Chain Literal) : Chain Numeral := chain.map (Literal.numeral false)

theorem operated_numerals (chain : Chain Literal) (operated : chain.rest ≠ []) :
    chain.numerals.rest ≠ [] := by
  simpa [numerals, map] using operated

theorem text_numerals (chain : Chain Literal) :
    chain.numerals.text Numeral.literal = chain.text Literal.text := by
  simp [numerals, map, text, textRest, Literal.numeral, Literal.minus, List.flatMap_map]

theorem tokenize_chain (chain : Chain Numeral) :
    tokenize (chain.text Numeral.literal) = .ok chain.tokens := by
  obtain ⟨first, rest⟩ := chain
  induction rest generalizing first with
  | nil =>
      have read := tokenize_text (.number first)
      rw [text, textRest, List.flatMap_nil, List.append_nil]
      exact read
  | cons step rest induction =>
      obtain ⟨sign, operand⟩ := step
      have read := tokenize_operand first sign (text Numeral.literal ⟨operand, rest⟩)
      rw [induction operand] at read
      exact read

end Chain

namespace Calculator

theorem press_all_append (calculator : Calculator) (earlier later : List Key) :
    calculator.pressAll (earlier ++ later) =
      calculator.pressAll earlier >>= fun typed => typed.pressAll later := by
  simp [pressAll, List.foldlM_append]

theorem press_all_cons (calculator : Calculator) (key : Key) (keys : List Key) :
    calculator.pressAll (key :: keys) =
      calculator.press key >>= fun typed => typed.pressAll keys := by
  simp [pressAll]

end Calculator

namespace Draft

theorem press_digits (draft : Draft) (digits : List Char)
    (valid : ∀ character ∈ digits, character.isDigit = true) :
    draft.shown.pressAll (digits.map Key.ofDigit) = .ok ⟨draft.text ++ digits⟩ := by
  induction digits generalizing draft with
  | nil =>
      rw [List.append_nil]
      rfl
  | cons digit digits induction =>
      have isDigit := valid digit (List.mem_cons_self ..)
      have later : ∀ character ∈ digits, character.isDigit = true := by
        intro character member
        apply valid
        exact List.mem_cons_of_mem _ member
      have alone : ∀ character ∈ [digit], character.isDigit = true := by simp [isDigit]
      have accepted : Text.isDigitString [digit] = true :=
        (Text.is_digit_string_iff [digit]).mpr ⟨by simp, alone⟩
      obtain ⟨longer, appended⟩ := draft.exists_append_digits [digit] (by simp) alone
      have pressed : draft.shown.press (Key.ofDigit digit) = .ok longer.shown := by
        rw [Calculator.press, Key.operation_of_digit isDigit, Calculator.perform,
          append_digits_shown, if_pos accepted, shown, appended]
      rw [List.map_cons, Calculator.press_all_cons, pressed]
      apply (induction longer later).trans
      rw [appended, List.append_assoc]
      rfl

theorem press_literal (lead : Lead) (literal : Literal) :
    Calculator.pressAll ⟨lead.text⟩ literal.keys = .ok ⟨lead.text ++ literal.text⟩ := by
  obtain ⟨whole, fraction, nonempty, wholeDigits, fractionDigits⟩ := literal
  obtain ⟨before, same⟩ := exists_of_lead lead
  have typed := before.press_digits whole wholeDigits
  rw [shown, same] at typed
  rw [Literal.keys, Calculator.press_all_append, typed]
  cases fraction with
  | none =>
      simp only [Literal.pointKeys, Literal.text, Literal.pointText, List.append_nil]
      rfl
  | some digits =>
      let integer : Literal := ⟨whole, none, nonempty, wholeDigits, by simp⟩
      let dangling : Literal := ⟨whole, some [], nonempty, wholeDigits, by simp⟩
      have written : (number lead integer).text = lead.text ++ whole := by
        simp [text, integer, Literal.text, Literal.pointText]
      have pointed : (number lead integer).text ++ ['.'] = (number lead dangling).text := by
        simp [text, integer, dangling, Literal.text, Literal.pointText]
      have point : (number lead integer).shown.press .point = .ok (number lead dangling).shown := by
        apply (append_point_shown (number lead integer)).trans
        exact congrArg (fun display => Except.ok (Calculator.mk display)) pointed
      have rest := (number lead dangling).press_digits digits fractionDigits
      change Calculator.pressAll ⟨lead.text ++ whole⟩ (.point :: digits.map Key.ofDigit) = _
      rw [Calculator.press_all_cons, ← written]
      apply (congrArg (· >>= _) point).trans
      apply rest.trans
      simp [text, dangling, Literal.text, Literal.pointText]

theorem press_operator (lead : Lead) (last : Literal) (closed : last.IsClosed)
    (sign : Operator) :
    Calculator.press ⟨lead.text ++ last.text⟩ (.operator sign) =
      .ok ⟨(lead.push last closed sign).text⟩ := by
  apply (append_operator_shown (number lead last) sign).trans
  rw [lead.text_push last closed sign]
  exact if_pos closed

end Draft

namespace Lead

def stepKeys (step : Literal × Operator) : List Key := step.1.keys ++ [.operator step.2]

theorem press_steps (lead : Lead) (steps : List (Literal × Operator))
    (closed : ∀ step ∈ steps, step.1.IsClosed) :
    Calculator.pressAll ⟨lead.text⟩ (steps.flatMap stepKeys) =
      .ok ⟨lead.text ++ steps.flatMap stepText⟩ := by
  induction steps generalizing lead with
  | nil =>
      rw [List.flatMap_nil, List.flatMap_nil, List.append_nil]
      rfl
  | cons step steps induction =>
      rcases List.forall_mem_cons.mp closed with ⟨complete, later⟩
      have literal := Draft.press_literal lead step.1
      have operator := Draft.press_operator lead step.1 complete step.2
      have rest := induction (lead.push step.1 complete step.2) later
      rw [List.flatMap_cons, stepKeys, List.append_assoc, Calculator.press_all_append, literal]
      apply (Calculator.press_all_cons _ _ _).trans
      rw [operator]
      apply rest.trans
      simp [lead.text_push, stepText]

end Lead

namespace Draft

theorem press_rest (rest : List (Operator × Literal)) (lead : Lead) (last : Literal)
    (closed : last.IsClosed) (later : ∀ step ∈ rest, step.2.IsClosed) :
    Calculator.pressAll ⟨lead.text ++ last.text⟩ (Chain.keysRest rest) =
      .ok ⟨lead.text ++ last.text ++ Chain.textRest Literal.text rest⟩ := by
  induction rest generalizing lead last with
  | nil =>
      rw [Chain.textRest, List.flatMap_nil, List.append_nil]
      rfl
  | cons step rest induction =>
      obtain ⟨sign, operand⟩ := step
      have operator := press_operator lead last closed sign
      have typed := press_literal (lead.push last closed sign) operand
      obtain ⟨complete, later⟩ := List.forall_mem_cons.mp later
      have tail := induction (lead.push last closed sign) operand complete later
      change Calculator.pressAll _ (.operator sign :: (operand.keys ++ Chain.keysRest rest)) = _
      rw [Calculator.press_all_cons, operator]
      apply (Calculator.press_all_append _ operand.keys _).trans
      rw [typed]
      apply tail.trans
      simp [lead.text_push, Chain.textRest]

theorem press_chain (chain : Chain Literal) (closed : chain.IsClosed) :
    Calculator.new.pressAll chain.keys = .ok ⟨chain.text Literal.text⟩ := by
  let lead : Lead := .ofSign false
  have first := press_literal lead chain.first
  have rest := press_rest chain.rest lead chain.first closed.1 closed.2
  rw [Chain.keys, Calculator.press_all_append]
  apply (congrArg (· >>= _) first).trans
  exact rest

end Draft

end Keypad
