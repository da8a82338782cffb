import Keypad.Proofs.Chain.Reduction

/-!
Chains that go on. A chain that has a value may be cut behind it: with the value in its place,
what follows comes to the same numeral or to the same error. The cut must not tear a term apart,
so either a sum or a difference follows, or there are only products and quotients before it.
-/

namespace Keypad.Chain

variable {Operand Result Failure : Type}

def extend (chain : Chain Operand) (further : List (Operator × Operand)) : Chain Operand :=
  ⟨chain.first, chain.rest ++ further⟩

theorem tokens_extend (chain : Chain Numeral) (further : List (Operator × Numeral)) :
    (chain.extend further).tokens = chain.tokens ++ stepTokens further := by
  simp [extend, tokens, stepTokens]

theorem fold_extend {combine : Operator → Operand → Operand → Except Failure Operand}
    {chain : Chain Operand} {total : Operand} (folded : chain.fold combine = .ok total)
    (further : List (Operator × Operand)) :
    (chain.extend further).fold combine = fold combine ⟨total, further⟩ := by
  rw [fold] at folded
  rw [extend, fold, List.foldlM_append, folded]
  rfl

theorem evaluate_steps_append (evaluate : Operand → Except Failure Result)
    (earlier later : List (Operator × Operand)) :
    evaluateSteps evaluate (earlier ++ later) = (do
      let before ← evaluateSteps evaluate earlier
      let after ← evaluateSteps evaluate later
      return before ++ after) := by
  induction earlier with
  | nil =>
      rw [List.nil_append, evaluateSteps, ok_bind]
      simp
  | cons step earlier induction =>
      simp only [List.cons_append, evaluateSteps, induction, bind_assoc, pure_bind]

theorem runs_append_plain (earlier rest : List (Operator × Operand)) (sign : Operator)
    (operand : Operand) (plain : sign.isPriority = false) :
    runs (earlier ++ (sign, operand) :: rest) =
      ((runs earlier).1, (runs earlier).2 ++ (runs ((sign, operand) :: rest)).2) := by
  induction earlier with
  | nil => rw [List.nil_append, runs_plain sign operand rest plain, runs, List.nil_append]
  | cons step earlier induction =>
      obtain ⟨before, first⟩ := step
      rw [List.cons_append]
      cases priority : before.isPriority with
      | true =>
          rw [runs_priority _ _ _ priority, runs_priority _ _ _ priority, induction]
      | false =>
          rw [runs_plain _ _ _ priority, runs_plain before _ _ priority, induction]
          rfl

theorem runs_append_priority (earlier later : List (Operator × Operand))
    (priority : ∀ step ∈ earlier, step.1.isPriority = true) :
    runs (earlier ++ later) = (earlier ++ (runs later).1, (runs later).2) := by
  induction earlier with
  | nil => rfl
  | cons step earlier induction =>
      obtain ⟨here, further⟩ := List.forall_mem_cons.mp priority
      rw [List.cons_append, runs_priority _ _ _ here, induction further]
      rfl

/-- The terms before a sum or difference are evaluated, and then added up, on their own. -/
theorem value_extend_plain {chain : Chain Numeral} {total : Numeral}
    (found : chain.value = .ok total) {sign : Operator} (plain : sign.isPriority = false)
    (operand : Numeral) (rest : List (Operator × Numeral)) :
    (chain.extend ((sign, operand) :: rest)).value = value ⟨total, (sign, operand) :: rest⟩ := by
  obtain ⟨evaluated, each, folded⟩ := ok_of_bind found
  obtain ⟨first, own, others⟩ := ok_of_bind each
  obtain ⟨later, steps, shape⟩ := ok_of_bind others
  cases shape
  have apart := runs_append_plain chain.rest rest sign operand plain
  have behind := runs_plain sign operand rest plain
  simp only [terms] at own steps
  simp only [value, terms, extend, apart, behind, evaluateEach, evaluate_steps_append, own, steps,
    ok_bind, bind_assoc, pure_bind]
  have kept : fold Operator.rounded ⟨total, []⟩ = .ok total := rfl
  rw [kept, ok_bind]
  apply congrArg
  funext results
  exact fold_extend folded results

/-- A chain of products and quotients is one term, which what follows may prolong. -/
theorem value_extend_term {chain : Chain Numeral} {total : Numeral}
    (found : chain.value = .ok total) (term : ∀ step ∈ chain.rest, step.1.isPriority = true)
    (further : List (Operator × Numeral)) :
    (chain.extend further).value = value ⟨total, further⟩ := by
  have alone := runs_append_priority chain.rest [] term
  have joined := runs_append_priority chain.rest further term
  rw [List.append_nil, runs, List.append_nil] at alone
  have folded : chain.fold Operator.rounded = .ok total := by
    simp only [value, terms, alone, evaluateEach, evaluateSteps, ok_bind, bind_assoc,
      pure_bind] at found
    obtain ⟨first, own, same⟩ := ok_of_bind found
    cases same
    exact own
  simp only [value, terms, extend, joined, evaluateEach]
  have prolonged := fold_extend folded (runs further).1
  rw [extend] at prolonged
  rw [prolonged]

theorem value_extend {chain : Chain Numeral} {total : Numeral} (found : chain.value = .ok total)
    {sign : Operator} (operand : Numeral) (rest : List (Operator × Numeral))
    (whole : sign.isPriority = false ∨ ∀ step ∈ chain.rest, step.1.isPriority = true) :
    (chain.extend ((sign, operand) :: rest)).value = value ⟨total, (sign, operand) :: rest⟩ := by
  rcases whole with plain | term
  · exact value_extend_plain found plain operand rest
  · exact value_extend_term found term _

end Keypad.Chain
