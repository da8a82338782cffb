import Mathlib.Data.List.Forall2
import Keypad.Proofs.Chain.Basic

/-!
Two ways to combine the same operators. Where each operation of one comes to a result that stands
for the result of the other, so does the evaluation of a whole chain, term by term. What stands for
a result may say more than what stands for an operand: a result was written by an operation.
-/

namespace Keypad.Chain

variable {Operand Reference Failure Reason : Type}

def byTerms (combine : Operator → Operand → Operand → Except Failure Operand)
    (chain : Chain Operand) : Except Failure Operand := do
  let terms ← chain.terms.evaluateEach (fold combine)
  terms.fold combine

theorem value_by_terms (chain : Chain Numeral) : chain.value = chain.byTerms Operator.rounded := rfl

def StepRelated (related : Operand → Reference → Prop) (step : Operator × Operand)
    (reference : Operator × Reference) : Prop :=
  step.1 = reference.1 ∧ related step.2 reference.2

structure Related (related : Operand → Reference → Prop) (chain : Chain Operand)
    (reference : Chain Reference) : Prop where
  first : related chain.first reference.first
  rest : List.Forall₂ (StepRelated related) chain.rest reference.rest

variable {related made : Operand → Reference → Prop}

theorem related_map {Source : Type} (change : Source → Operand) (other : Source → Reference)
    (chain : Chain Source) (first : related (change chain.first) (other chain.first))
    (rest : ∀ step ∈ chain.rest, related (change step.2) (other step.2)) :
    Related related (chain.map change) (chain.map other) where
  first := first
  rest := by
    apply List.forall₂_map_left_iff.mpr
    apply List.forall₂_map_right_iff.mpr
    exact List.forall₂_same.mpr fun step member => ⟨rfl, rest step member⟩

theorem Related.map {Source Other Image Counterpart : Type} {earlier : Source → Other → Prop}
    {later : Image → Counterpart → Prop} {chain : Chain Source} {reference : Chain Other}
    (chains : Related earlier chain reference) (change : Source → Image)
    (other : Other → Counterpart)
    (kept : ∀ source counterpart, earlier source counterpart →
      later (change source) (other counterpart)) :
    Related later (chain.map change) (reference.map other) where
  first := kept _ _ chains.first
  rest := by
    apply List.forall₂_map_left_iff.mpr
    apply List.forall₂_map_right_iff.mpr
    exact chains.rest.imp fun step counterpart here => ⟨here.1, kept _ _ here.2⟩

theorem runs_related {rest : List (Operator × Operand)} {reference : List (Operator × Reference)}
    (steps : List.Forall₂ (StepRelated related) rest reference) :
    List.Forall₂ (StepRelated related) (runs rest).1 (runs reference).1 ∧
      List.Forall₂ (StepRelated (Related related)) (runs rest).2 (runs reference).2 := by
  induction steps with
  | nil => exact ⟨.nil, .nil⟩
  | cons here later induction =>
      rename_i step other rest reference
      rcases step with ⟨sign, operand⟩
      rcases other with ⟨_, value⟩
      rcases here with ⟨rfl, operands⟩
      rcases induction with ⟨own, others⟩
      cases priority : sign.isPriority with
      | true =>
          rw [runs_priority _ _ _ priority, runs_priority _ _ _ priority]
          exact ⟨.cons ⟨rfl, operands⟩ own, others⟩
      | false =>
          rw [runs_plain _ _ _ priority, runs_plain _ _ _ priority]
          exact ⟨.nil, .cons ⟨rfl, operands, own⟩ others⟩

theorem Related.terms {chain : Chain Operand} {reference : Chain Reference}
    (chains : Related related chain reference) :
    Related (Related related) chain.terms reference.terms where
  first := ⟨chains.first, (runs_related chains.rest).1⟩
  rest := (runs_related chains.rest).2

/-- Where the reference has a result, the operation has one that stands for it. -/
structure Simulates (related made : Operand → Reference → Prop)
    (combine : Operator → Operand → Operand → Except Failure Operand)
    (reference : Operator → Reference → Reference → Except Reason Reference) : Prop where
  related_of_made : ∀ {operand value}, made operand value → related operand value
  operation : ∀ (sign : Operator) {left right first second result},
    related left first → related right second → reference sign first second = .ok result →
      ∃ operand, combine sign left right = .ok operand ∧ made operand result

variable {combine : Operator → Operand → Operand → Except Failure Operand}
  {reference : Operator → Reference → Reference → Except Reason Reference}

namespace Simulates

variable (simulates : Simulates related made combine reference)

include simulates

/-- Whatever holds of a first operand and of everything that an operation made holds of the total.
The induction moves along both chains, with the totals so far in front of them. -/
theorem fold_induction {held : Operand → Reference → Prop}
    (related_of_held : ∀ {operand value}, held operand value → related operand value)
    (held_of_made : ∀ {operand value}, made operand value → held operand value)
    {rest : List (Operator × Operand)} {others : List (Operator × Reference)}
    (steps : List.Forall₂ (StepRelated related) rest others) {first : Operand} {value : Reference}
    (started : held first value) {total : Reference}
    (found : fold reference ⟨value, others⟩ = .ok total) :
    ∃ operand, fold combine ⟨first, rest⟩ = .ok operand ∧ held operand total := by
  induction steps generalizing first value with
  | nil =>
      cases found
      exact ⟨first, rfl, started⟩
  | cons here later induction =>
      rename_i step other rest others
      rcases step with ⟨sign, operand⟩
      rcases other with ⟨_, second⟩
      rcases here with ⟨rfl, operands⟩
      rw [fold, List.foldlM_cons] at found
      rcases ok_of_bind found with ⟨middle, combined, further⟩
      rcases simulates.operation sign (related_of_held started) operands combined with
        ⟨next, computed, written⟩
      rcases induction (held_of_made written) further with ⟨result, folded, holds⟩
      refine ⟨result, ?_, holds⟩
      rw [fold, List.foldlM_cons, computed]
      exact folded

theorem fold_related {chain : Chain Operand} {other : Chain Reference}
    (chains : Related related chain other) {total : Reference}
    (found : other.fold reference = .ok total) :
    ∃ operand, chain.fold combine = .ok operand ∧ related operand total :=
  simulates.fold_induction id simulates.related_of_made chains.rest chains.first found

theorem fold_made {chain : Chain Operand} {other : Chain Reference}
    (chains : Related related chain other) (operated : chain.rest ≠ []) {total : Reference}
    (found : other.fold reference = .ok total) :
    ∃ operand, chain.fold combine = .ok operand ∧ made operand total := by
  rcases chain with ⟨first, rest⟩
  rcases other with ⟨value, others⟩
  rcases chains with ⟨firsts, steps⟩
  cases steps with
  | nil => contradiction
  | cons here later =>
      rename_i step other rest others
      rcases here with ⟨same, operands⟩
      rw [fold, List.foldlM_cons] at found ⊢
      rcases ok_of_bind found with ⟨middle, combined, further⟩
      rcases simulates.operation other.1 firsts operands combined with ⟨next, computed, written⟩
      rw [same, computed]
      exact simulates.fold_induction simulates.related_of_made id later written further

end Simulates

/-- Where the reference succeeds the evaluation does, with an outcome that stands for its value. -/
def Follows {Result Value : Type} (related : Operand → Reference → Prop)
    (stands : Result → Value → Prop) (evaluate : Operand → Except Failure Result)
    (other : Reference → Except Reason Value) : Prop :=
  ∀ operand source value, related operand source → other source = .ok value →
    ∃ result, evaluate operand = .ok result ∧ stands result value

section Each

variable {Result Value : Type} {stands : Result → Value → Prop}
  {evaluate : Operand → Except Failure Result} {other : Reference → Except Reason Value}
  (follows : Follows related stands evaluate other)

include follows

theorem evaluate_steps_related {rest : List (Operator × Operand)}
    {others : List (Operator × Reference)}
    (steps : List.Forall₂ (StepRelated related) rest others) {values : List (Operator × Value)}
    (found : evaluateSteps other others = .ok values) :
    ∃ results, evaluateSteps evaluate rest = .ok results ∧
      List.Forall₂ (StepRelated stands) results values := by
  induction steps generalizing values with
  | nil =>
      cases found
      exact ⟨[], rfl, .nil⟩
  | cons here later induction =>
      rcases ok_of_bind found with ⟨value, first, found⟩
      rcases ok_of_bind found with ⟨further, behind, found⟩
      cases found
      rcases follows _ _ value here.2 first with ⟨result, evaluated, holds⟩
      rcases induction behind with ⟨results, others, hold⟩
      refine ⟨(_, result) :: results, ?_, .cons ⟨here.1, holds⟩ hold⟩
      rw [evaluateSteps, evaluated, ok_bind, others]
      rfl

theorem evaluate_each_related {chain : Chain Operand} {source : Chain Reference}
    (chains : Related related chain source) {values : Chain Value}
    (found : source.evaluateEach other = .ok values) :
    ∃ results, chain.evaluateEach evaluate = .ok results ∧ Related stands results values := by
  rcases ok_of_bind found with ⟨value, first, found⟩
  rcases ok_of_bind found with ⟨further, behind, found⟩
  cases found
  rcases follows _ _ value chains.first first with ⟨result, evaluated, holds⟩
  rcases evaluate_steps_related follows chains.rest behind with ⟨results, others, hold⟩
  refine ⟨⟨result, results⟩, ?_, holds, hold⟩
  rw [evaluateEach, evaluated, ok_bind, others]
  rfl

end Each

theorem by_terms_of_single {chain : Chain Operand} (single : chain.terms.rest = []) :
    chain.byTerms combine = chain.fold combine := by
  have own := join_runs chain.rest
  change (runs chain.rest).2 = [] at single
  rw [single, joinRest, List.flatMap_nil, List.append_nil] at own
  rw [byTerms, evaluateEach, terms, single, own]
  change _ = fold combine ⟨chain.first, chain.rest⟩
  cases fold combine ⟨chain.first, chain.rest⟩ with
  | error cause => rfl
  | ok total => rfl

theorem signs_of_evaluate_each {Result : Type} {evaluate : Operand → Except Failure Result}
    {chain : Chain Operand} {results : Chain Result}
    (evaluated : chain.evaluateEach evaluate = .ok results) :
    results.rest.map Prod.fst = chain.rest.map Prod.fst := by
  rcases ok_of_bind evaluated with ⟨first, -, behind⟩
  rcases ok_of_bind behind with ⟨rest, others, same⟩
  cases same
  exact signs_of_evaluate_steps others

theorem Simulates.by_terms (simulates : Simulates related made combine reference)
    {chain : Chain Operand} {other : Chain Reference} (chains : Related related chain other)
    (operated : chain.rest ≠ []) {total : Reference}
    (found : other.byTerms reference = .ok total) :
    ∃ operand, chain.byTerms combine = .ok operand ∧ made operand total := by
  have related_terms := chains.terms
  by_cases single : chain.terms.rest = []
  · have otherSingle : other.terms.rest = [] := by
      have steps := related_terms.rest
      rw [single] at steps
      exact List.forall₂_nil_left_iff.mp steps
    rw [by_terms_of_single otherSingle] at found
    rw [by_terms_of_single single]
    exact simulates.fold_made chains operated found
  · have follows : Follows (Related related) related (fold combine) (fold reference) :=
      fun _ _ _ terms folded => simulates.fold_related terms folded
    rcases ok_of_bind found with ⟨values, evaluated, folded⟩
    rcases evaluate_each_related follows related_terms evaluated with ⟨results, computed, made⟩
    have further : results.rest ≠ [] := by
      intro none
      have signs := signs_of_evaluate_each computed
      rw [none, List.map_nil] at signs
      exact single (List.map_eq_nil_iff.mp signs.symm)
    rw [byTerms, computed]
    exact simulates.fold_made made further folded

end Keypad.Chain
