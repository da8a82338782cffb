import Keypad.Proofs.Display.Frozen

/-!
Corrections undo what was typed. On every display without a result a correction takes back one
operator with its spaces or one character of a number, never a part of an operator: only operators
end in a space. So corrections lead back through drafts, each shorter than the one before, to the
empty display.
-/

namespace Keypad

namespace Calculator

/-- Corrections one after the other, each of which has to be accepted. -/
def takeBack (calculator : Calculator) (count : Nat) : Except Rejection Calculator :=
  calculator.pressAll (List.replicate count .correction)

theorem take_back_succ (calculator : Calculator) (count : Nat) :
    calculator.takeBack (count + 1) =
      calculator.correct >>= fun shorter => shorter.takeBack count := by
  rw [takeBack, List.replicate_succ, press_all_cons]
  rfl

end Calculator

namespace Draft

theorem exists_taken_back (draft : Draft) (count : Nat) :
    ∃ left : Draft, draft.shown.takeBack count = .ok left.shown ∧
      left.text.length ≤ draft.text.length - count := by
  induction count generalizing draft with
  | zero => exact ⟨draft, rfl, Nat.le_refl _⟩
  | succ count induction =>
      obtain ⟨shorter, corrected, fewer⟩ := draft.exists_corrected
      obtain ⟨left, taken, bounded⟩ := induction shorter
      refine ⟨left, ?_, by omega⟩
      rw [Calculator.take_back_succ, corrected, ok_bind, taken]

/-- A character that is not the space behind an operator is taken back alone. -/
theorem correct_appended {draft : Draft} {before : List Char} {last : Char}
    (typed : draft.text = before ++ [last]) (visible : last ≠ ' ') :
    draft.shown.correct = .ok ⟨before⟩ := by
  have dropped : draft.text.dropLast = before := by rw [typed, List.dropLast_concat]
  rw [draft.correct_shown]
  cases draft with
  | blank => exact congrArg (Except.ok ∘ Calculator.mk) dropped
  | minus => exact congrArg (Except.ok ∘ Calculator.mk) dropped
  | number lead last => exact congrArg (Except.ok ∘ Calculator.mk) dropped
  | operator lead literal closed sign =>
      have ends := congrArg List.getLast? typed
      rw [List.getLast?_concat, text, List.getLast?_append] at ends
      exact absurd (Option.some.inj ends).symm visible

theorem correct_after_operator (draft : Draft) (sign : Operator) {after : Calculator}
    (accepted : draft.shown.appendOperator sign = .ok after) : after.correct = .ok draft.shown := by
  obtain ⟨lead, last, closed, rfl, rfl⟩ := draft.operator_accepted accepted
  exact (operator lead last closed sign).correct_shown

theorem correct_after_point (draft : Draft) {after : Calculator}
    (accepted : draft.shown.appendPoint = .ok after) : after.correct = .ok draft.shown := by
  obtain ⟨longer, rfl, typed⟩ := draft.point_accepted accepted
  exact correct_appended typed (by decide)

theorem take_back_digits (draft : Draft) (digits : List Char)
    (valid : ∀ character ∈ digits, character.isDigit = true) :
    Calculator.takeBack ⟨draft.text ++ digits⟩ digits.length = .ok draft.shown := by
  induction digits using List.reverseRecOn with
  | nil =>
      rw [List.append_nil]
      rfl
  | append_singleton front last induction =>
      obtain ⟨earlier, final⟩ := List.forall_mem_append.mp valid
      obtain ⟨longer, appended⟩ :=
        draft.exists_append_digits (front ++ [last]) (by simp) valid
      have typed : longer.text = (draft.text ++ front) ++ [last] := by
        rw [appended, List.append_assoc]
      have visible : last ≠ ' ' := by
        rintro rfl
        exact absurd (final ' ' (List.mem_singleton_self _)) (by decide)
      have corrected := correct_appended typed visible
      rw [shown, appended] at corrected
      rw [List.length_append, List.length_singleton, Calculator.take_back_succ, corrected, ok_bind]
      exact induction earlier

theorem take_back_after_digits (draft : Draft) (digits : List Char) {after : Calculator}
    (accepted : draft.shown.appendDigits digits = .ok after) :
    after.takeBack digits.length = .ok draft.shown := by
  obtain ⟨valid, longer, rfl, typed⟩ := draft.digits_accepted accepted
  rw [shown, typed]
  exact draft.take_back_digits digits valid

end Draft

/-- Where there is no result, a correction restores the display from before an operator or a point,
and as many corrections as there are digits restore that from before digits. However many there have
been, the display reads as tokens and a further correction is accepted, which takes something if
there is anything; so corrections end in the empty display. -/
theorem correction_undoes_entry {calculator : Calculator} (reachable : Reachable calculator)
    (unanswered : calculator.hasResult = false) :
    (∀ sign after, calculator.appendOperator sign = .ok after → after.correct = .ok calculator) ∧
    (∀ after, calculator.appendPoint = .ok after → after.correct = .ok calculator) ∧
    (∀ digits after, calculator.appendDigits digits = .ok after →
      after.takeBack digits.length = .ok calculator) ∧
    (∀ count, ∃ left tokens shorter, calculator.takeBack count = .ok left ∧
      left.tokens = .ok tokens ∧ left.hasResult = false ∧ left.correct = .ok shorter ∧
      (left.display ≠ [] → shorter.display.length < left.display.length)) ∧
    ∃ count ≤ calculator.display.length, calculator.takeBack count = .ok Calculator.new := by
  cases reachable.displayable with
  | answer answer => exact absurd (unanswered.symm.trans answer.has_result_shown) Bool.false_ne_true
  | draft draft =>
      refine ⟨fun sign _ => draft.correct_after_operator sign, fun _ => draft.correct_after_point,
        fun digits _ => draft.take_back_after_digits digits, fun count => ?_, ?_⟩
      · obtain ⟨left, taken, -⟩ := draft.exists_taken_back count
        obtain ⟨shorter, corrected, fewer⟩ := left.exists_corrected
        refine ⟨left.shown, left.tokens, shorter.shown, taken, left.tokenize_draft,
          left.has_result_shown, corrected, fun nonempty => ?_⟩
        have positive : 0 < left.text.length := List.length_pos_iff.mpr nonempty
        exact Nat.lt_of_le_of_lt fewer (Nat.sub_lt positive Nat.one_pos)
      · obtain ⟨left, taken, bounded⟩ := draft.exists_taken_back draft.text.length
        rw [Nat.sub_self, Nat.le_zero, List.length_eq_zero_iff] at bounded
        refine ⟨draft.text.length, Nat.le_refl _, ?_⟩
        rw [taken, Draft.shown, bounded]
        rfl

/-- Entries behind a negative result that was kept. -/
theorem correction_undoes_entry_kept :
    ∃ calculator, Reachable calculator ∧ calculator.hasResult = false ∧
      calculator.display = "-1".toList ∧
      Calculator.correct ⟨"-1 ÷ ".toList⟩ = .ok calculator ∧
      Calculator.correct ⟨"-1.".toList⟩ = .ok calculator ∧
      Calculator.takeBack ⟨"-125".toList⟩ 2 = .ok calculator := by
  have reachable : Reachable ⟨"-1".toList⟩ := by
    apply (Reachable.iff_run _).mpr
    exact ⟨[.digits ['0'], .operator .subtract, .digits ['1'], .evaluate, .keep],
      by decide +kernel⟩
  have unanswered : Calculator.hasResult ⟨"-1".toList⟩ = false := by decide +kernel
  obtain ⟨operator, point, digits, -⟩ := correction_undoes_entry reachable unanswered
  exact ⟨_, reachable, unanswered, rfl, operator .divide _ (by decide +kernel),
    point _ (by decide +kernel), digits ['2', '5'] _ (by decide +kernel)⟩

end Keypad
