import Keypad.Proofs.Display.Evaluation

/-!
A draft that ends in a number is a chain. The draft keeps each number with the operator typed
behind it, a chain each operator with the number behind it; both write the same text, so what is
known of the reduction of chains holds for what is typed.
-/

namespace Keypad

namespace Lead

def followers : Operator → List (Literal × Operator) → Literal → List (Operator × Numeral)
  | sign, [], last => [(sign, last.numeral false)]
  | sign, (literal, next) :: steps, last =>
      (sign, literal.numeral false) :: followers next steps last

def chain (lead : Lead) (last : Literal) : Chain Numeral :=
  match lead.steps with
  | [] => ⟨last.numeral lead.negative, []⟩
  | (first, sign) :: steps => ⟨first.numeral lead.negative, followers sign steps last⟩

theorem text_followers (sign : Operator) (steps : List (Literal × Operator)) (last : Literal) :
    Chain.textRest Numeral.literal (followers sign steps last) =
      [' ', sign.symbol, ' '] ++ (steps.flatMap stepText ++ last.text) := by
  induction steps generalizing sign with
  | nil => simp [followers, Chain.textRest, Literal.numeral, Literal.minus]
  | cons step steps induction =>
      obtain ⟨literal, next⟩ := step
      have later := induction next
      rw [Chain.textRest] at later
      simp [followers, Chain.textRest, later, stepText, Literal.numeral, Literal.minus]

theorem text_chain (lead : Lead) (last : Literal) :
    (lead.chain last).text Numeral.literal = lead.text ++ last.text := by
  obtain ⟨negative, steps, closed⟩ := lead
  cases steps with
  | nil => simp [chain, Chain.text, Chain.textRest, text, Literal.numeral]
  | cons step steps =>
      obtain ⟨first, sign⟩ := step
      simp [chain, Chain.text, text_followers, text, stepText, Literal.numeral]

theorem tokens_chain (lead : Lead) (last : Literal) :
    (Draft.number lead last).tokens = (lead.chain last).tokens := by
  have drafted := (Draft.number lead last).tokenize_draft
  rw [Draft.text, ← lead.text_chain last, Chain.tokenize_chain] at drafted
  exact (Except.ok.inj drafted).symm

theorem operated_chain (lead : Lead) (last : Literal) :
    (lead.chain last).rest ≠ [] ↔ lead.steps ≠ [] := by
  obtain ⟨negative, steps, closed⟩ := lead
  cases steps with
  | nil => simp [chain]
  | cons step steps =>
      obtain ⟨first, sign⟩ := step
      cases steps <;> simp [chain, followers]

theorem complete_followers (sign : Operator) (steps : List (Literal × Operator)) (last : Literal)
    (closed : ∀ step ∈ steps, step.1.IsClosed) (ended : last.IsClosed) :
    ∀ step ∈ followers sign steps last, step.2.endsWithPoint = false := by
  induction steps generalizing sign with
  | nil =>
      intro step member
      rw [List.mem_singleton.mp member]
      exact last.complete_numeral false ended
  | cons step steps induction =>
      obtain ⟨literal, next⟩ := step
      obtain ⟨here, later⟩ := List.forall_mem_cons.mp closed
      exact List.forall_mem_cons.mpr ⟨literal.complete_numeral false here, induction next later⟩

theorem complete_chain (lead : Lead) (last : Literal) (closed : last.IsClosed) :
    (lead.chain last).IsComplete := by
  obtain ⟨negative, steps, leadClosed⟩ := lead
  cases steps with
  | nil => exact ⟨last.complete_numeral negative closed, by simp [chain]⟩
  | cons step steps =>
      obtain ⟨here, later⟩ := List.forall_mem_cons.mp leadClosed
      exact ⟨step.1.complete_numeral negative here,
        complete_followers step.2 steps last later closed⟩

end Lead

end Keypad
