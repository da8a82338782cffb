import Keypad.Proofs.Chain.Basic
import Keypad.Proofs.Reduction.Step

/-!
Reduction searches the whole expression again for every step; the value of a chain is found in one
pass. Both agree on every chain, in the numeral and in the error. What carries the proof is the
part to the left of the term at hand: it holds no product or quotient any more, so the search runs
past it, and everything to the right of the pivot is untouched.
-/

namespace Keypad

open Chain

namespace Pivot

theorem find_passed (chosen : Operator → Bool) (tokens : Expression)
    (passed : ∀ token ∈ tokens, token.Passed chosen) : find? chosen tokens = none := by
  induction tokens with
  | nil => rfl
  | cons token rest induction =>
      have later : find? chosen rest = none := by
        apply induction
        intro other member
        exact passed other (List.mem_cons_of_mem _ member)
      cases token with
      | number numeral => simp [find?, later]
      | resultMark => simp [find?, later]
      | operator sign =>
          have skipped := passed (.operator sign) (List.mem_cons_self ..) sign rfl
          simp [find?, skipped, later]

theorem find_append (chosen : Operator → Bool) (before after : Expression) (sign : Operator)
    (passed : ∀ token ∈ before, token.Passed chosen) (kind : chosen sign = true) :
    find? chosen (before ++ .operator sign :: after) = some ⟨before, sign, after⟩ := by
  induction before with
  | nil => simp [find?, kind]
  | cons token rest induction =>
      have later : find? chosen (rest ++ .operator sign :: after) = some ⟨rest, sign, after⟩ := by
        apply induction
        intro other member
        exact passed other (List.mem_cons_of_mem _ member)
      cases token with
      | number numeral => simp [find?, later, push]
      | resultMark => simp [find?, later, push]
      | operator earlier =>
          have skipped := passed (.operator earlier) (List.mem_cons_self ..) earlier rfl
          simp [find?, skipped, later, push]

end Pivot

namespace Expression

theorem passed_number (chosen : Operator → Bool) (before : Expression) (numeral : Numeral)
    (passed : ∀ token ∈ before, token.Passed chosen) :
    ∀ token ∈ before ++ [.number numeral], token.Passed chosen := by
  intro token member sign isSign
  rcases List.mem_append.mp member with earlier | last
  · exact passed token earlier sign isSign
  · rw [List.mem_singleton.mp last] at isSign
    contradiction

theorem step_priority (before after : Expression) (sign : Operator) (left right : Numeral)
    (passed : ∀ token ∈ before, token.Passed Operator.isPriority)
    (priority : sign.isPriority = true) :
    step (before ++ .number left :: .operator sign :: .number right :: after) =
      (sign.rounded left right).map fun result => before ++ .number result :: after := by
  have found := Pivot.find_append Operator.isPriority (before ++ [.number left])
    (.number right :: after) sign (passed_number _ before left passed) priority
  rw [List.append_assoc] at found
  change Pivot.find? _ (before ++ .number left :: .operator sign :: .number right :: after) = _
    at found
  apply step_of_pivot
  rw [Pivot.ofExpression?, found, Option.some_or]

theorem step_plain (rest : List (Operator × Numeral)) (sign : Operator) (left right : Numeral)
    (plain : sign.isPriority = false) (later : ∀ step ∈ rest, step.1.isPriority = false) :
    step (tokens ⟨left, (sign, right) :: rest⟩) =
      (sign.rounded left right).map fun result => tokens ⟨result, rest⟩ := by
  have absent : Pivot.find? Operator.isPriority (tokens ⟨left, (sign, right) :: rest⟩) = none := by
    apply Pivot.find_passed
    intro token member other isSign
    subst isSign
    simp only [tokens, stepTokens, List.mem_cons, List.mem_flatMap, reduceCtorEq,
      List.not_mem_nil, or_false, false_or, Token.operator.injEq] at member
    obtain ⟨step, inside, rfl⟩ := member
    rcases inside with rfl | inside
    · exact plain
    · exact later step inside
  have found := Pivot.find_append (fun _ => true) [.number left] (.number right :: stepTokens rest)
    sign (passed_number _ [] left (by simp)) rfl
  have chosen : Pivot.ofExpression? (tokens ⟨left, (sign, right) :: rest⟩) =
      some ⟨[] ++ [.number left], sign, .number right :: stepTokens rest⟩ := by
    rw [Pivot.ofExpression?, absent, Option.none_or]
    exact found
  exact step_of_pivot chosen

theorem reduce_plain (rest : List (Operator × Numeral)) (first : Numeral)
    (plain : ∀ step ∈ rest, step.1.isPriority = false) :
    reduce (tokens ⟨first, rest⟩) = fold Operator.rounded ⟨first, rest⟩ := by
  induction rest generalizing first with
  | nil => rw [tokens, stepTokens, List.flatMap_nil, reduce]; rfl
  | cons head rest induction =>
      obtain ⟨sign, operand⟩ := head
      have later : ∀ step ∈ rest, step.1.isPriority = false := by
        intro step member
        apply plain
        exact List.mem_cons_of_mem _ member
      rw [reduce_of_step (by simp [tokens, step_tokens_cons]),
        step_plain rest sign first operand (plain _ (List.mem_cons_self ..)) later]
      simp only [fold, List.foldlM_cons]
      cases sign.rounded first operand with
      | error cause => rfl
      | ok result => exact induction result later

/-- Reduction forms the products and quotients behind a place that it has searched in vain. The
induction is on the part that is still to be searched; a sum or difference moves the place. -/
theorem reduce_terms (rest : List (Operator × Numeral)) (before : Expression) (first : Numeral)
    (passed : ∀ token ∈ before, token.Passed Operator.isPriority) :
    reduce (before ++ tokens ⟨first, rest⟩) = (do
      let terms ← evaluateEach (fold Operator.rounded) (terms ⟨first, rest⟩)
      reduce (before ++ terms.tokens)) := by
  induction rest generalizing before first with
  | nil => rfl
  | cons head rest induction =>
      obtain ⟨sign, operand⟩ := head
      cases priority : sign.isPriority with
      | true =>
          rw [reduce_of_step (by simp [tokens, step_tokens_cons]; omega), tokens,
            step_tokens_cons, step_priority before _ sign first operand passed priority, terms,
            runs_priority sign operand rest priority]
          simp only [evaluateEach, fold, List.foldlM_cons]
          cases sign.rounded first operand with
          | error cause => rfl
          | ok result => exact induction before result passed
      | false =>
          have moved : ∀ token ∈ before ++ [.number first, .operator sign],
              token.Passed Operator.isPriority := by
            intro token member other isSign
            rcases List.mem_append.mp member with earlier | last
            · exact passed token earlier other isSign
            · subst isSign
              have same : other = sign := by simpa using last
              rw [same]
              exact priority
          have searched := induction (before ++ [.number first, .operator sign]) operand moved
          rw [List.append_assoc] at searched
          change reduce (before ++ tokens ⟨first, (sign, operand) :: rest⟩) = _ at searched
          rw [searched]
          simp only [terms, runs_plain sign operand rest priority, evaluateEach, evaluateSteps,
            fold, List.foldlM_nil, bind_assoc, pure_bind]
          apply congrArg
          funext run
          apply congrArg
          funext later
          simp [tokens, step_tokens_cons]

theorem plain_of_evaluated_terms {chain terms : Chain Numeral}
    (evaluated : chain.terms.evaluateEach (fold Operator.rounded) = .ok terms) :
    ∀ step ∈ terms.rest, step.1.isPriority = false := by
  obtain ⟨first, _, evaluated⟩ := ok_of_bind evaluated
  obtain ⟨rest, others, evaluated⟩ := ok_of_bind evaluated
  cases evaluated
  intro step member
  have sign : step.1 ∈ chain.terms.rest.map Prod.fst := by
    rw [← signs_of_evaluate_steps others]
    exact List.mem_map_of_mem member
  obtain ⟨term, inside, same⟩ := List.mem_map.mp sign
  rw [← same]
  exact plain_between_terms chain.rest term inside

/-- Reduction finds the value of every chain, or the error that comes first in it. -/
theorem reduce_tokens_eq_value (chain : Chain Numeral) : reduce chain.tokens = chain.value := by
  have searched := reduce_terms chain.rest [] chain.first (by simp)
  rw [List.nil_append] at searched
  apply searched.trans
  rw [value]
  cases evaluated : chain.terms.evaluateEach (fold Operator.rounded) with
  | error cause => rfl
  | ok terms => exact reduce_plain terms.rest terms.first (plain_of_evaluated_terms evaluated)

end Expression

/-- The terms of a chain are its maximal runs of products and quotients, and reduction comes to
what folding each of them, and then their values, comes to: the same numeral or, where a step
fails, the error of the first one that does. -/
theorem reduction_by_terms (chain : Chain Numeral) :
    (chain.terms.join = chain ∧
      (∀ step ∈ chain.terms.first.rest, step.1.isPriority = true) ∧
      (∀ term ∈ chain.terms.rest, term.1.isPriority = false ∧
        ∀ step ∈ term.2.rest, step.1.isPriority = true)) ∧
    Expression.reduce chain.tokens = (do
      let terms ← chain.terms.evaluateEach (Chain.fold Operator.rounded)
      terms.fold Operator.rounded) := by
  obtain ⟨own, later⟩ := priority_within_terms chain.rest
  have joined : chain.terms.join = chain := by
    rw [terms, join, join_runs]
  have between := plain_between_terms chain.rest
  have within : ∀ term ∈ chain.terms.rest, term.1.isPriority = false ∧
      ∀ step ∈ term.2.rest, step.1.isPriority = true := by
    intro term member
    exact ⟨between term member, later term member⟩
  exact ⟨⟨joined, own, within⟩, Expression.reduce_tokens_eq_value chain⟩

end Keypad
