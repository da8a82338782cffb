import Keypad.Proofs.Reduction.Passage

/-!
Divisions by zero. Whether a division sign stands before a zero is read off the expression as it
was typed, and no step changes the answer: the right operand of a pivot with priority was never
the result of an earlier step.
-/

namespace Keypad.Expression

/-- A division sign stands directly before the numeral. -/
def HasDivisor (tokens : Expression) (divisor : Numeral) : Prop :=
  [.operator .divide, .number divisor] <:+: tokens

theorem has_divisor_cons (token : Token) (rest : Expression) (divisor : Numeral) :
    HasDivisor (token :: rest) divisor ↔
      (token = .operator .divide ∧ rest.head? = some (.number divisor)) ∨
        HasDivisor rest divisor := by
  rw [HasDivisor, List.infix_cons_iff, List.cons_prefix_cons,
    List.singleton_prefix_iff_head?_eq_some, eq_comm, HasDivisor]

theorem divides_by_zero_iff (tokens : Expression) :
    tokens.dividesByZero = true ↔
      ∃ divisor, tokens.HasDivisor divisor ∧ divisor.value.isZero = true := by
  fun_induction dividesByZero tokens with
  | case1 divisor rest induction =>
      simp [has_divisor_cons, induction, or_and_right, exists_or]
  | case2 token rest others induction =>
      have passed (divisor : Numeral) :
          HasDivisor (token :: rest) divisor ↔ HasDivisor rest divisor := by
        rw [has_divisor_cons, or_iff_right]
        rintro ⟨division, divided⟩
        obtain ⟨later, rfl⟩ := List.head?_eq_some_iff.mp divided
        exact others divisor later division rfl
      simp only [passed, induction]
  | case3 => simp [HasDivisor]

theorem divides_by_zero_append (before after : Expression)
    (passed : ∀ token ∈ before, token.Passed Operator.isPriority) :
    dividesByZero (before ++ after) = dividesByZero after := by
  induction before with
  | nil => rfl
  | cons token rest induction =>
      have later : dividesByZero (rest ++ after) = dividesByZero after := by
        apply induction
        intro other member
        exact passed other (List.mem_cons_of_mem _ member)
      cases token with
      | number numeral => exact later
      | resultMark => exact later
      | operator sign =>
          have plain := passed (.operator sign) (List.mem_cons_self ..) sign rfl
          cases sign with
          | add => exact later
          | subtract => exact later
          | multiply => contradiction
          | divide => contradiction

theorem divides_by_zero_pivot (sign : Operator) (right : Numeral) (rest : Expression) :
    dividesByZero (.operator sign :: .number right :: rest) =
      ((sign == .divide && right.value.isZero) || dividesByZero rest) := by
  cases sign with
  | add => rfl
  | subtract => rfl
  | multiply => rfl
  | divide => simp [dividesByZero]

theorem divides_by_zero_rewritten {start rest : Expression} {sign : Operator}
    {left right : Numeral} (result : Numeral)
    (chosen : Chosen (start ++ [.number left]) sign (.number right :: rest)) :
    dividesByZero (start ++ .number left :: .operator sign :: .number right :: rest) =
      ((sign == .divide && right.value.isZero) ||
        dividesByZero (start ++ .number result :: rest)) := by
  have before : ∀ token ∈ start, token.Passed Operator.isPriority :=
    fun token member => chosen.priority_passed token (List.mem_append_left _ member)
  cases chosen with
  | priority priority passed =>
      have whole := divides_by_zero_append _ (.operator sign :: .number right :: rest) passed
      rw [List.append_assoc] at whole
      apply whole.trans
      rw [divides_by_zero_pivot, divides_by_zero_append start (.number result :: rest) before]
      rfl
  | plain plain passed later =>
      rw [divides_by_zero_append start _ before, divides_by_zero_append start _ before]
      have rewritten := divides_by_zero_pivot sign right rest
      cases sign with
      | add => exact rewritten
      | subtract => exact rewritten
      | multiply => contradiction
      | divide => contradiction

theorem divides_by_zero_step {tokens shorter : Expression} (stepped : step tokens = .ok shorter) :
    dividesByZero tokens = dividesByZero shorter := by
  obtain ⟨start, sign, left, right, rest, result, rfl, rfl, computed, chosen⟩ := step_eq_ok stepped
  rw [divides_by_zero_rewritten result chosen]
  have nonzero : (sign == .divide && right.value.isZero) = false := by
    rw [Operator.rounded] at computed
    split at computed
    · contradiction
    · rename_i allowed
      simpa using allowed
  rw [nonzero, Bool.false_or]

theorem divides_by_zero_of_reduced {tokens : Expression} {numeral : Numeral}
    (reduced : reduce tokens = .ok numeral) : dividesByZero tokens = false :=
  reduce_induction (motive := fun tokens _ => dividesByZero tokens = false) (fun _ => rfl)
    (fun _ _ _ stepped _ kept => (divides_by_zero_step stepped).trans kept) reduced

/-- A step that divides by zero divides by a zero of the expression. -/
theorem divides_by_zero_of_step {tokens : Expression}
    (failed : step tokens = .error .divisionByZero) : dividesByZero tokens = true := by
  cases step_eq_error failed with
  | @operation start rest sign left right _ found divided =>
      have shape := Pivot.of_expression_eq_some found
      rw [List.append_assoc] at shape
      rw [shape]
      apply (divides_by_zero_rewritten left (chosen_of_pivot found)).trans
      rw [Operator.rounded] at divided
      split at divided
      · rename_i zero
        simp [zero.1, zero.2]
      · split at divided
        · simp at divided
        · contradiction

theorem LeadsTo.divides_by_zero {tokens reached : Expression} (passage : LeadsTo tokens reached) :
    dividesByZero tokens = dividesByZero reached := by
  induction passage with
  | refl tokens => rfl
  | step stepped later induction => exact (divides_by_zero_step stepped).trans induction

theorem divides_by_zero_of_reduction {tokens : Expression}
    (failed : reduce tokens = .error .divisionByZero) : dividesByZero tokens = true := by
  obtain ⟨reached, passage, inStep | stuck⟩ := exists_failure failed
  · rw [passage.divides_by_zero]
    exact divides_by_zero_of_step inStep
  · cases stuck

theorem displayed_of_reduced {tokens : Expression} {numeral : Numeral}
    (reduced : reduce tokens = .ok numeral) (operated : 2 ≤ tokens.length) :
    ∃ (value : Binary64) (number : Decimal),
      value.displayed = .ok number ∧ numeral = .ofDecimal number := by
  have either := reduce_induction
    (motive := fun tokens numeral => tokens = [.number numeral] ∨
      ∃ (value : Binary64) (number : Decimal),
        value.displayed = .ok number ∧ numeral = .ofDecimal number)
    (fun _ => .inl rfl) (fun tokens shorter numeral stepped _ kept => ?_) reduced
  · rcases either with single | shown
    · simp [single] at operated
    · exact shown
  · obtain ⟨start, sign, left, right, rest, result, -, rfl, computed, -⟩ := step_eq_ok stepped
    right
    rcases kept with single | shown
    · obtain ⟨number, displayed, written⟩ := Operator.result_of_rounded computed
      refine ⟨_, number, displayed, ?_⟩
      cases start with
      | nil =>
          cases single
          exact written
      | cons token others => simp at single
    · exact shown

end Keypad.Expression
