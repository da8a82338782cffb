import Keypad.Proofs.Chain.Basic
import Keypad.Proofs.Reduction.Step

/-!
The expressions that reduce. A step looks only at the tokens about its pivot, so a list of tokens
may be malformed in one place and go through steps in another. It comes to no number all the same:
what a step leads to alternates between numbers and operators only where what it started from did.
-/

namespace Keypad

namespace Chain

/-- A number of a chain may be replaced by an operation. The induction walks from the first number
of the chain to the one that is replaced. -/
theorem exists_widened (chain : Chain Numeral) {start rest : Expression} {result : Numeral}
    (shape : chain.tokens = start ++ .number result :: rest) (sign : Operator)
    (left right : Numeral) :
    ∃ wider : Chain Numeral,
      wider.tokens = start ++ .number left :: .operator sign :: .number right :: rest := by
  obtain ⟨first, steps⟩ := chain
  induction steps generalizing first start with
  | nil =>
      cases start with
      | nil =>
          cases shape
          exact ⟨⟨left, [(sign, right)]⟩, rfl⟩
      | cons token start => simp [tokens, stepTokens] at shape
  | cons step steps induction =>
      obtain ⟨other, operand⟩ := step
      match start, shape with
      | [], shape =>
          cases shape
          exact ⟨⟨left, (sign, right) :: (other, operand) :: steps⟩, rfl⟩
      | [_], shape => simp [tokens, step_tokens_cons] at shape
      | _ :: _ :: start, shape =>
          simp only [tokens, step_tokens_cons, List.cons_append, List.cons.injEq] at shape
          obtain ⟨rfl, rfl, later⟩ := shape
          obtain ⟨wider, widened⟩ := induction operand later
          refine ⟨⟨first, (other, wider.first) :: wider.rest⟩, ?_⟩
          rw [List.cons_append, List.cons_append, ← widened]
          rfl

end Chain

namespace Expression

/-- Number, operator, number and so on, from a number to a number. -/
def Alternates (tokens : Expression) : Prop := ∃ chain : Chain Numeral, tokens = chain.tokens

inductive Malformed (tokens : Expression) : Prop where
  | empty (shape : tokens = [])
  | opens (sign : Operator) (rest : Expression) (shape : tokens = .operator sign :: rest)
  | ends (start : Expression) (sign : Operator) (shape : tokens = start ++ [.operator sign])
  | numbers (start : Expression) (left right : Numeral) (rest : Expression)
      (shape : tokens = start ++ .number left :: .number right :: rest)
  | operators (start : Expression) (left right : Operator) (rest : Expression)
      (shape : tokens = start ++ .operator left :: .operator right :: rest)
  | resultMark (start rest : Expression) (shape : tokens = start ++ .resultMark :: rest)

theorem split_behind_operator {first : Numeral} {sign : Operator} {rest start behind : Expression}
    (shape : .number first :: .operator sign :: rest = start ++ behind) :
    (start = [] ∧ behind = .number first :: .operator sign :: rest) ∨
      (start = [.number first] ∧ behind = .operator sign :: rest) ∨
      ∃ later, start = .number first :: .operator sign :: later ∧ rest = later ++ behind := by
  match start, shape with
  | [], shape => exact .inl ⟨rfl, shape.symm⟩
  | [_], shape =>
      cases shape
      exact .inr (.inl ⟨rfl, rfl⟩)
  | _ :: _ :: later, shape =>
      cases shape
      exact .inr (.inr ⟨later, rfl, rfl⟩)

theorem malformed_behind_operator (first : Numeral) (sign : Operator) (rest : Expression) :
    Malformed (.number first :: .operator sign :: rest) ↔ Malformed rest := by
  constructor
  · intro malformed
    cases malformed with
    | empty shape => contradiction
    | opens other rest shape => cases shape
    | ends start other shape =>
        obtain ⟨rfl, behind⟩ | ⟨rfl, behind⟩ | ⟨later, -, behind⟩ := split_behind_operator shape
        · cases behind
        · cases behind
          exact .empty rfl
        · exact .ends later other behind
    | numbers start left right after shape =>
        obtain ⟨rfl, behind⟩ | ⟨rfl, behind⟩ | ⟨later, -, behind⟩ := split_behind_operator shape
        · cases behind
        · cases behind
        · exact .numbers later left right after behind
    | operators start left right after shape =>
        obtain ⟨rfl, behind⟩ | ⟨rfl, behind⟩ | ⟨later, -, behind⟩ := split_behind_operator shape
        · cases behind
        · cases behind
          exact .opens right after rfl
        · exact .operators later left right after behind
    | resultMark start after shape =>
        obtain ⟨rfl, behind⟩ | ⟨rfl, behind⟩ | ⟨later, -, behind⟩ := split_behind_operator shape
        · cases behind
        · cases behind
        · exact .resultMark later after behind
  · intro malformed
    cases malformed with
    | empty shape => exact .ends [.number first] sign (by rw [shape]; rfl)
    | opens other after shape =>
        exact .operators [.number first] sign other after (by rw [shape]; rfl)
    | ends start other shape =>
        exact .ends (.number first :: .operator sign :: start) other (by rw [shape]; rfl)
    | numbers start left right after shape =>
        exact .numbers (.number first :: .operator sign :: start) left right after
          (by rw [shape]; rfl)
    | operators start left right after shape =>
        exact .operators (.number first :: .operator sign :: start) left right after
          (by rw [shape]; rfl)
    | resultMark start after shape =>
        exact .resultMark (.number first :: .operator sign :: start) after (by rw [shape]; rfl)

theorem single_not_malformed (only : Numeral) : ¬Malformed [.number only] := by
  intro malformed
  cases malformed with
  | empty shape => contradiction
  | opens sign rest shape => cases shape
  | ends start sign shape => simp [List.singleton_eq_append_iff] at shape
  | numbers start left right rest shape => simp [List.singleton_eq_append_iff] at shape
  | operators start left right rest shape => simp [List.singleton_eq_append_iff] at shape
  | resultMark start rest shape => simp [List.singleton_eq_append_iff] at shape

theorem Alternates.not_malformed {tokens : Expression} (alternates : tokens.Alternates) :
    ¬tokens.Malformed := by
  obtain ⟨⟨first, steps⟩, rfl⟩ := alternates
  induction steps generalizing first with
  | nil => exact single_not_malformed first
  | cons step steps induction =>
      rw [Chain.tokens, Chain.step_tokens_cons, malformed_behind_operator]
      exact induction step.2

theorem alternates_of_not_malformed :
    ∀ tokens : Expression, ¬tokens.Malformed → tokens.Alternates
  | [], sound => absurd (.empty rfl) sound
  | .operator sign :: rest, sound => absurd (.opens sign rest rfl) sound
  | .resultMark :: rest, sound => absurd (.resultMark [] rest rfl) sound
  | [.number only], _ => ⟨⟨only, []⟩, rfl⟩
  | .number left :: .number right :: rest, sound => absurd (.numbers [] left right rest rfl) sound
  | .number first :: .resultMark :: rest, sound =>
      absurd (.resultMark [.number first] rest rfl) sound
  | .number first :: .operator sign :: rest, sound => by
      rw [malformed_behind_operator] at sound
      obtain ⟨chain, rfl⟩ := alternates_of_not_malformed rest sound
      exact ⟨⟨first, (sign, chain.first) :: chain.rest⟩, rfl⟩

theorem alternates_of_step {tokens shorter : Expression} (stepped : step tokens = .ok shorter)
    (alternates : shorter.Alternates) : tokens.Alternates := by
  obtain ⟨start, sign, left, right, rest, result, rfl, rfl, -, -⟩ := step_eq_ok stepped
  obtain ⟨chain, shape⟩ := alternates
  obtain ⟨wider, widened⟩ := chain.exists_widened shape.symm sign left right
  exact ⟨wider, widened.symm⟩

theorem alternates_of_reduced {tokens : Expression} {numeral : Numeral}
    (reduced : reduce tokens = .ok numeral) : tokens.Alternates :=
  reduce_induction (motive := fun tokens _ => tokens.Alternates) (fun only => ⟨⟨only, []⟩, rfl⟩)
    (fun _ _ _ stepped _ alternates => alternates_of_step stepped alternates) reduced

/-- Only tokens that alternate reduce to a number; those that do not, in whatever way and wherever,
end in an error. -/
theorem reduces_only_if_alternates (tokens : Expression) :
    (∀ numeral, tokens.reduce = .ok numeral → tokens.Alternates) ∧
    (tokens.Alternates ↔ ¬tokens.Malformed) ∧
    (tokens.Malformed → ∃ cause, tokens.reduce = .error cause) := by
  refine ⟨fun numeral reduced => alternates_of_reduced reduced,
    ⟨Alternates.not_malformed, alternates_of_not_malformed tokens⟩, fun malformed => ?_⟩
  cases outcome : tokens.reduce with
  | error cause => exact ⟨cause, rfl⟩
  | ok numeral => exact absurd malformed (alternates_of_reduced outcome).not_malformed

/-- A product that is formed, next to a number that no operator leads to. -/
theorem reduces_only_if_alternates_apart :
    ∃ sound unsound : Expression, tokenize "1 + 2 x 3".toList = .ok sound ∧
      tokenize "2 x 3 4".toList = .ok unsound ∧
      sound.Alternates ∧ unsound.Malformed ∧ ∃ cause, unsound.reduce = .error cause := by
  let one : Numeral := ⟨['1'], ⟨false, 1, 0⟩, by decide⟩
  let two : Numeral := ⟨['2'], ⟨false, 2, 0⟩, by decide⟩
  let three : Numeral := ⟨['3'], ⟨false, 3, 0⟩, by decide⟩
  let four : Numeral := ⟨['4'], ⟨false, 4, 0⟩, by decide⟩
  let sound : Expression :=
    [.number one, .operator .add, .number two, .operator .multiply, .number three]
  let unsound : Expression :=
    [.number two, .operator .multiply, .number three, .number four]
  have reduced : sound.reduce = .ok ⟨['7'], ⟨false, 7, 0⟩, by decide⟩ :=
    ok_of_to_option (by decide +kernel)
  have malformed : unsound.Malformed :=
    .numbers [.number two, .operator .multiply] three four [] rfl
  exact ⟨sound, unsound, ok_of_to_option (by decide +kernel), ok_of_to_option (by decide +kernel),
    (reduces_only_if_alternates sound).1 _ reduced, malformed,
    (reduces_only_if_alternates unsound).2.2 malformed⟩

end Expression

end Keypad
