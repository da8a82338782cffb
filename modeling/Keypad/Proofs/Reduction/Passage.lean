import Keypad.Proofs.Reduction.Step

/-!
The expressions that a reduction passes through, from the first to the one that it ends with. They
all reduce to the same outcome, and a reduction that fails does so at the last of them: in its
step, or because a single token is left that is not a number.
-/

namespace Keypad.Expression

inductive LeadsTo : Expression → Expression → Prop where
  | refl (tokens : Expression) : LeadsTo tokens tokens
  | step {tokens shorter reached : Expression} (stepped : step tokens = .ok shorter)
      (later : LeadsTo shorter reached) : LeadsTo tokens reached

theorem reduce_of_stepped {tokens shorter : Expression} (stepped : step tokens = .ok shorter) :
    reduce tokens = reduce shorter := by
  have length := step_length stepped
  rw [reduce_of_step (by omega), stepped]
  rfl

theorem LeadsTo.reduce_eq {tokens reached : Expression} (passage : LeadsTo tokens reached) :
    reduce tokens = reduce reached := by
  induction passage with
  | refl tokens => rfl
  | step stepped later induction => rw [reduce_of_stepped stepped, induction]

theorem LeadsTo.concat {tokens reached shorter : Expression} (passage : LeadsTo tokens reached)
    (stepped : Expression.step reached = .ok shorter) : LeadsTo tokens shorter := by
  induction passage with
  | refl tokens => exact .step stepped (.refl shorter)
  | step first later induction => exact .step first (induction stepped)

/-- At most one token is left, and it is no number. -/
inductive Stuck : Expression → ReductionError → Prop where
  | empty : Stuck [] (.noOperator 0)
  | operator (sign : Operator) : Stuck [.operator sign] (.missingOperand 0)
  | resultMark : Stuck [.resultMark] (.missingOperand 0)

theorem exists_failure {tokens : Expression} {cause : ReductionError}
    (failed : reduce tokens = .error cause) :
    ∃ reached, LeadsTo tokens reached ∧ (step reached = .error cause ∨ Stuck reached cause) := by
  induction size : tokens.length using Nat.strongRecOn generalizing tokens with
  | ind count induction =>
      match tokens with
      | [] =>
          rw [reduce] at failed
          cases failed
          exact ⟨[], .refl [], .inr .empty⟩
      | [.number alone] => simp [reduce] at failed
      | [.operator sign] =>
          simp only [reduce, Except.error.injEq] at failed
          exact ⟨_, .refl _, .inr (failed ▸ .operator sign)⟩
      | [.resultMark] =>
          simp only [reduce, Except.error.injEq] at failed
          exact ⟨_, .refl _, .inr (failed ▸ .resultMark)⟩
      | first :: second :: rest =>
          cases stepped : step (first :: second :: rest) with
          | error earlier =>
              rw [reduce_of_step (by simp), stepped] at failed
              cases failed
              exact ⟨_, .refl _, .inl stepped⟩
          | ok shorter =>
              rw [reduce_of_stepped stepped] at failed
              have length := step_length stepped
              obtain ⟨reached, passage, ending⟩ := induction shorter.length (by omega) failed rfl
              exact ⟨reached, .step stepped passage, ending⟩

end Keypad.Expression
