import Keypad.Proofs.Outcome
import Keypad.Proofs.Reduction.Rounded

/-!
Chains: operands with an operator between each two of them. The value of a chain is found on two
levels, without any search. Its terms, the maximal runs of products and quotients, are each folded
from the left; then the values of the terms are folded from the left. Every operation rounds as
the display does, and the first operation that fails, in this order, is the error.
-/

namespace Keypad

structure Chain (Operand : Type) where
  first : Operand
  rest : List (Operator × Operand)

namespace Chain

variable {Operand Result Failure : Type}

def map (change : Operand → Result) (chain : Chain Operand) : Chain Result :=
  ⟨change chain.first, chain.rest.map fun step => (step.1, change step.2)⟩

/-- Combines the operands from the left, up to the first failure. -/
def fold (combine : Operator → Operand → Operand → Except Failure Operand)
    (chain : Chain Operand) : Except Failure Operand :=
  chain.rest.foldlM (fun total step => combine step.1 total step.2) chain.first

def evaluateSteps (evaluate : Operand → Except Failure Result) :
    List (Operator × Operand) → Except Failure (List (Operator × Result))
  | [] => .ok []
  | (sign, operand) :: rest => do
      let result ← evaluate operand
      let results ← evaluateSteps evaluate rest
      return (sign, result) :: results

def evaluateEach (evaluate : Operand → Except Failure Result) (chain : Chain Operand) :
    Except Failure (Chain Result) := do
  let first ← evaluate chain.first
  let rest ← evaluateSteps evaluate chain.rest
  return ⟨first, rest⟩

/-- Cuts the operands behind a first one into those of its own term, which products and quotients
lead to, and the terms that follow. -/
def runs : List (Operator × Operand) →
    List (Operator × Operand) × List (Operator × Chain Operand)
  | [] => ([], [])
  | (sign, operand) :: rest =>
      let later := runs rest
      if sign.isPriority then ((sign, operand) :: later.1, later.2)
      else ([], (sign, ⟨operand, later.1⟩) :: later.2)

/-- The terms of a chain, with the sums and differences between them. -/
def terms (chain : Chain Operand) : Chain (Chain Operand) :=
  ⟨⟨chain.first, (runs chain.rest).1⟩, (runs chain.rest).2⟩

theorem runs_priority (sign : Operator) (operand : Operand) (rest : List (Operator × Operand))
    (priority : sign.isPriority = true) :
    runs ((sign, operand) :: rest) = ((sign, operand) :: (runs rest).1, (runs rest).2) := by
  rw [runs, if_pos priority]

theorem runs_plain (sign : Operator) (operand : Operand) (rest : List (Operator × Operand))
    (plain : sign.isPriority = false) :
    runs ((sign, operand) :: rest) = ([], (sign, ⟨operand, (runs rest).1⟩) :: (runs rest).2) := by
  rw [runs, if_neg (by simp [plain])]

theorem plain_between_terms (rest : List (Operator × Operand)) :
    ∀ step ∈ (runs rest).2, step.1.isPriority = false := by
  induction rest with
  | nil => simp [runs]
  | cons step rest induction =>
      obtain ⟨sign, operand⟩ := step
      cases priority : sign.isPriority with
      | true =>
          rw [runs_priority sign operand rest priority]
          exact induction
      | false =>
          rw [runs_plain sign operand rest priority]
          intro later member
          rcases List.mem_cons.mp member with rfl | member
          · exact priority
          · exact induction later member

theorem priority_within_terms (rest : List (Operator × Operand)) :
    (∀ step ∈ (runs rest).1, step.1.isPriority = true) ∧
      ∀ term ∈ (runs rest).2, ∀ step ∈ term.2.rest, step.1.isPriority = true := by
  induction rest with
  | nil => simp [runs]
  | cons step rest induction =>
      obtain ⟨sign, operand⟩ := step
      obtain ⟨own, later⟩ := induction
      cases priority : sign.isPriority with
      | true =>
          rw [runs_priority sign operand rest priority]
          exact ⟨List.forall_mem_cons.mpr ⟨priority, own⟩, later⟩
      | false =>
          rw [runs_plain sign operand rest priority]
          exact ⟨by simp, List.forall_mem_cons.mpr ⟨own, later⟩⟩

def joinRest (terms : List (Operator × Chain Operand)) : List (Operator × Operand) :=
  terms.flatMap fun term => (term.1, term.2.first) :: term.2.rest

def join (terms : Chain (Chain Operand)) : Chain Operand :=
  ⟨terms.first.first, terms.first.rest ++ joinRest terms.rest⟩

theorem join_runs (rest : List (Operator × Operand)) :
    (runs rest).1 ++ joinRest (runs rest).2 = rest := by
  induction rest with
  | nil => rfl
  | cons step rest induction =>
      obtain ⟨sign, operand⟩ := step
      cases priority : sign.isPriority with
      | true =>
          rw [runs_priority sign operand rest priority, List.cons_append, induction]
      | false =>
          rw [runs_plain sign operand rest priority, List.nil_append]
          exact congrArg ((sign, operand) :: ·) induction

theorem signs_of_evaluate_steps {evaluate : Operand → Except Failure Result}
    {rest : List (Operator × Operand)} {results : List (Operator × Result)}
    (evaluated : evaluateSteps evaluate rest = .ok results) :
    results.map Prod.fst = rest.map Prod.fst := by
  induction rest generalizing results with
  | nil =>
      cases evaluated
      rfl
  | cons step rest induction =>
      obtain ⟨result, _, evaluated⟩ := ok_of_bind evaluated
      obtain ⟨later, others, evaluated⟩ := ok_of_bind evaluated
      cases evaluated
      simp [induction others]

/-- The value of a chain of numerals, term by term. -/
def value (chain : Chain Numeral) : Except ReductionError Numeral := do
  let terms ← chain.terms.evaluateEach (fold Operator.rounded)
  terms.fold Operator.rounded

def stepTokens (rest : List (Operator × Numeral)) : Expression :=
  rest.flatMap fun step => [.operator step.1, .number step.2]

def tokens (chain : Chain Numeral) : Expression := .number chain.first :: stepTokens chain.rest

theorem step_tokens_cons (sign : Operator) (operand : Numeral)
    (rest : List (Operator × Numeral)) :
    stepTokens ((sign, operand) :: rest) =
      .operator sign :: .number operand :: stepTokens rest := rfl

end Chain

end Keypad
