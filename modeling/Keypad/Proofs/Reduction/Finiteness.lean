import Keypad.Proofs.Binary64.Finite
import Keypad.Proofs.Reduction.Passage

/-!
Outcomes beyond the finite values. The display cannot write them, so an expression reduces only
where no operation on the way has such an outcome; and where none has, the reduction does not fail
for that reason.
-/

namespace Keypad

namespace Operator

variable {sign : Operator} {left right : Numeral}

theorem finite_of_rounded {result : Numeral} (computed : sign.rounded left right = .ok result) :
    (sign.apply left.value right.value).isFinite = true := by
  obtain ⟨number, shown, -⟩ := result_of_rounded computed
  exact (Binary64.is_finite_iff _).mpr ⟨number, shown⟩

theorem not_finite_of_rounded {outcome : NonFinite}
    (failed : sign.rounded left right = .error (.nonFinite outcome)) :
    ¬(sign.apply left.value right.value).isFinite = true := by
  rw [Binary64.is_finite_iff]
  rintro ⟨number, shown⟩
  rw [rounded, shown] at failed
  split at failed
  · simp at failed
  · contradiction

end Operator

namespace Expression

/-- Every operation that the reduction comes to has a finite outcome, before it is rounded. -/
def StaysFinite (tokens : Expression) : Prop :=
  ∀ reached, LeadsTo tokens reached → ∀ before sign left right after,
    Pivot.ofExpression? reached =
        some ⟨before ++ [.number left], sign, .number right :: after⟩ →
      (sign.apply left.value right.value).isFinite = true

theorem stays_finite_of_reduced {tokens : Expression} {result : Numeral}
    (reduced : reduce tokens = .ok result) : StaysFinite tokens := by
  intro reached passage before sign left right after found
  have operated : 2 ≤ reached.length := by
    rw [Pivot.of_expression_eq_some found]
    simp
    omega
  rw [passage.reduce_eq, reduce_of_step operated, step_of_pivot found] at reduced
  obtain ⟨shorter, stepped, -⟩ := ok_of_bind reduced
  obtain ⟨numeral, computed, -⟩ := ok_of_map stepped
  exact Operator.finite_of_rounded computed

theorem finite_reduction {tokens : Expression} (finite : StaysFinite tokens)
    (outcome : NonFinite) : reduce tokens ≠ .error (.nonFinite outcome) := by
  intro failed
  obtain ⟨reached, passage, inStep | stuck⟩ := exists_failure failed
  · cases step_eq_error inStep with
    | operation found computed =>
        exact Operator.not_finite_of_rounded computed
          (finite reached passage _ _ _ _ _ found)
  · cases stuck

end Expression

end Keypad
