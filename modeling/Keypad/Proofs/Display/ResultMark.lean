import Keypad.Proofs.Display.Reachable

/-!
Where the result begins. The equals sign stands only before a result, and only once, so a display
with a result falls into an expression and a result in one way.
-/

namespace Keypad

theorem Numeral.mark_not_mem (numeral : Numeral) : '=' ∉ numeral.literal := by
  intro member
  rcases Decimal.characters_of_of_literal numeral.reads '=' member with digit | point | minus
  · contradiction
  · contradiction
  · contradiction

theorem Literal.mark_not_mem (literal : Literal) : '=' ∉ literal.text :=
  (literal.numeral false).mark_not_mem

theorem Operator.mark_ne_symbol (sign : Operator) : '=' ≠ sign.symbol := by
  cases sign <;> decide

theorem Lead.mark_not_mem (lead : Lead) : '=' ∉ lead.text := by
  intro member
  rcases List.mem_append.mp member with sign | later
  · cases negative : lead.negative with
    | true => simp [negative, Literal.minus] at sign
    | false => simp [negative, Literal.minus] at sign
  · obtain ⟨step, -, inside⟩ := List.mem_flatMap.mp later
    rcases List.mem_append.mp inside with literal | operator
    · exact step.1.mark_not_mem literal
    · simp [step.2.mark_ne_symbol] at operator

theorem Draft.mark_not_mem (draft : Draft) : '=' ∉ draft.text := by
  cases draft with
  | blank => simp [text]
  | minus => simp [text]
  | number lead last => simp [text, lead.mark_not_mem, last.mark_not_mem]
  | operator lead last closed sign =>
      simp [text, lead.mark_not_mem, last.mark_not_mem, sign.mark_ne_symbol]

theorem cut_at_mark {before after otherBefore otherAfter : List Char}
    (absentBefore : '=' ∉ before) (absentAfter : '=' ∉ after)
    (same : before ++ [' ', '=', ' '] ++ after = otherBefore ++ [' ', '=', ' '] ++ otherAfter) :
    otherBefore = before ∧ otherAfter = after := by
  rw [List.append_assoc, List.append_assoc] at same
  rcases List.append_eq_append_iff.mp same with ⟨more, longer, rest⟩ | ⟨more, longer, rest⟩
  · match more with
    | [] => exact ⟨by simp [longer], by simpa using rest.symm⟩
    | [space] => simp at rest
    | space :: mark :: others =>
        have behind : ' ' :: after = others ++ ([' ', '=', ' '] ++ otherAfter) :=
          (List.cons.inj (List.cons.inj rest).2).2
        have inside : '=' ∈ ' ' :: after := by simp [behind]
        simp [absentAfter] at inside
  · match more with
    | [] => exact ⟨by simp [longer], by simpa using rest⟩
    | [space] => simp at rest
    | space :: mark :: others =>
        obtain rfl : '=' = mark := (List.cons.inj (List.cons.inj rest).2).1
        simp [longer] at absentBefore

theorem Answer.display_shown (answer : Answer) :
    answer.shown.display =
      answer.lead.text ++ answer.last.text ++ [' ', '=', ' '] ++ answer.result.literal := by
  rw [List.append_assoc _ [' ', '=', ' ']]
  rfl

/-- A display with an equals sign on it is an answer, cut at the sign. -/
theorem Reachable.answer_of_mark {calculator : Calculator} (reachable : Reachable calculator)
    {expression result : List Char}
    (shown : calculator.display = expression ++ [' ', '=', ' '] ++ result) :
    ∃ answer : Answer, calculator = answer.shown ∧
      expression = answer.lead.text ++ answer.last.text ∧ result = answer.result.literal := by
  cases reachable.displayable with
  | draft draft =>
      have absent := draft.mark_not_mem
      change draft.text = _ at shown
      rw [shown] at absent
      simp at absent
  | answer answer =>
      have absent := (Draft.number answer.lead answer.last).mark_not_mem
      have same := answer.display_shown.symm.trans shown
      obtain ⟨before, after⟩ := cut_at_mark absent answer.result.mark_not_mem same
      exact ⟨answer, rfl, before, after⟩

end Keypad
