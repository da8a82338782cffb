import Keypad.Proofs.Outcome
import Keypad.Proofs.Reduction.Rounded

/-!
What one step of reduction can do to an expression, well formed or not. A step rewrites three
tokens about its pivot; left of a pivot with priority there is no other such operator, and a pivot
without priority is the first operator of an expression that has none with priority. All that
later modules say about whole reductions is derived from these cases.
-/

namespace Keypad

def Token.Passed (chosen : Operator → Bool) (token : Token) : Prop :=
  ∀ sign, token = .operator sign → chosen sign = false

namespace Pivot

theorem passed_of_find_eq_some {chosen : Operator → Bool} {tokens : Expression} {pivot : Pivot}
    (found : find? chosen tokens = some pivot) : ∀ token ∈ pivot.before, token.Passed chosen := by
  induction tokens generalizing pivot with
  | nil => simp [find?] at found
  | cons token rest induction =>
      have later (passed : token.Passed chosen)
          (inner : (find? chosen rest).map (push token) = some pivot) :
          ∀ token ∈ pivot.before, token.Passed chosen := by
        obtain ⟨earlier, restFound, rfl⟩ := Option.map_eq_some_iff.mp inner
        intro other member
        rcases List.mem_cons.mp member with rfl | member
        · exact passed
        · exact induction restFound other member
      cases token with
      | number numeral => exact later (fun sign isSign => by contradiction) found
      | resultMark => exact later (fun sign isSign => by contradiction) found
      | operator sign =>
          rw [find?] at found
          split at found
          · cases found
            simp
          · rename_i skipped
            refine later (fun other isSign => ?_) found
            cases isSign
            exact Bool.eq_false_iff.mpr skipped

theorem passed_of_find_eq_none {chosen : Operator → Bool} {tokens : Expression}
    (absent : find? chosen tokens = none) : ∀ token ∈ tokens, token.Passed chosen := by
  induction tokens with
  | nil => simp
  | cons token rest induction =>
      have later (passed : token.Passed chosen) (inner : find? chosen rest = none) :
          ∀ other ∈ token :: rest, other.Passed chosen := by
        intro other member
        rcases List.mem_cons.mp member with rfl | member
        · exact passed
        · exact induction inner other member
      cases token with
      | number numeral =>
          exact later (fun sign isSign => by contradiction) (Option.map_eq_none_iff.mp absent)
      | resultMark =>
          exact later (fun sign isSign => by contradiction) (Option.map_eq_none_iff.mp absent)
      | operator sign =>
          rw [find?] at absent
          split at absent
          · contradiction
          · rename_i skipped
            refine later (fun other isSign => ?_) (Option.map_eq_none_iff.mp absent)
            cases isSign
            exact Bool.eq_false_iff.mpr skipped

theorem resolve_between (before after : Expression) (sign : Operator) (left right : Numeral) :
    resolve ⟨before ++ [.number left], sign, .number right :: after⟩ =
      (sign.compute left right).map fun result => before ++ .number result :: after := by
  simp [resolve]

def IsBetween (pivot : Pivot) : Prop :=
  ∃ start left sign right rest, pivot = ⟨start ++ [.number left], sign, .number right :: rest⟩

theorem is_between_iff (pivot : Pivot) :
    pivot.IsBetween ↔
      (∃ left, pivot.before.getLast? = some (.number left)) ∧
        ∃ right, pivot.after.head? = some (.number right) := by
  constructor
  · rintro ⟨start, left, sign, right, rest, rfl⟩
    exact ⟨⟨left, by simp⟩, right, rfl⟩
  · rintro ⟨⟨left, last⟩, right, head⟩
    obtain ⟨start, before⟩ := List.getLast?_eq_some_iff.mp last
    obtain ⟨rest, after⟩ := List.head?_eq_some_iff.mp head
    exact ⟨start, left, pivot.sign, right, rest, by rw [← before, ← after]⟩

theorem resolve_elsewhere {pivot : Pivot} (elsewhere : ¬pivot.IsBetween) :
    pivot.resolve = .error (.missingOperand pivot.before.length) := by
  unfold resolve
  split
  · rename_i left right rest last after
    obtain ⟨start, before⟩ := List.getLast?_eq_some_iff.mp last
    exact absurd ⟨start, left, pivot.sign, right, rest, by rw [← before, ← after]⟩ elsewhere
  · rfl

end Pivot

namespace Expression

/-- The operator is the one that a step takes, between what stands on its left and its right. -/
inductive Chosen (before : Expression) (sign : Operator) (after : Expression) : Prop where
  | priority (priority : sign.isPriority = true)
      (passed : ∀ token ∈ before, token.Passed Operator.isPriority)
  | plain (plain : sign.isPriority = false)
      (passed : ∀ token ∈ before, token.Passed fun _ => true)
      (later : ∀ token ∈ after, token.Passed Operator.isPriority)

/-- Whatever kind of operator a step takes, no product or quotient sign stands before it. -/
theorem Chosen.priority_passed {before after : Expression} {sign : Operator}
    (chosen : Chosen before sign after) : ∀ token ∈ before, token.Passed Operator.isPriority := by
  cases chosen with
  | priority priority passed => exact passed
  | plain plain passed later =>
      intro token member other isOperator
      have clash := passed token member other isOperator
      contradiction

theorem chosen_of_pivot {tokens : Expression} {pivot : Pivot}
    (found : Pivot.ofExpression? tokens = some pivot) :
    Chosen pivot.before pivot.sign pivot.after := by
  rcases Option.or_eq_some_iff.mp found with first | ⟨absent, first⟩
  · exact .priority (Pivot.find_eq_some first).2 (Pivot.passed_of_find_eq_some first)
  · have everywhere := Pivot.passed_of_find_eq_none absent
    rw [(Pivot.find_eq_some first).1] at everywhere
    refine .plain ?_ (Pivot.passed_of_find_eq_some first) ?_
    · exact everywhere (.operator pivot.sign) (by simp) pivot.sign rfl
    · intro token member
      exact everywhere token (by simp [member])

/-- A step that succeeds puts the result of its operation in the place of the pivot and the numbers
on both sides of it. -/
theorem pivot_of_step {tokens shorter : Expression} (stepped : step tokens = .ok shorter) :
    ∃ start sign left right rest result,
      Pivot.ofExpression? tokens = some ⟨start ++ [.number left], sign, .number right :: rest⟩ ∧
        sign.rounded left right = .ok result ∧ shorter = start ++ .number result :: rest := by
  unfold step at stepped
  split at stepped
  · rename_i pivot found
    obtain ⟨start, left, right, rest, result, before, after, computed, shape⟩ :=
      Pivot.resolve_eq_ok stepped
    rw [Operator.compute_eq_rounded] at computed
    refine ⟨start, pivot.sign, left, right, rest, result, ?_, computed, shape⟩
    rw [found, ← before, ← after]
  · contradiction

theorem step_eq_ok {tokens shorter : Expression} (stepped : step tokens = .ok shorter) :
    ∃ start sign left right rest result,
      tokens = start ++ .number left :: .operator sign :: .number right :: rest ∧
        shorter = start ++ .number result :: rest ∧
        sign.rounded left right = .ok result ∧
        Chosen (start ++ [.number left]) sign (.number right :: rest) := by
  obtain ⟨start, sign, left, right, rest, result, found, computed, shape⟩ := pivot_of_step stepped
  refine ⟨start, sign, left, right, rest, result, ?_, shape, computed, chosen_of_pivot found⟩
  rw [Pivot.of_expression_eq_some found, List.append_assoc]
  rfl

theorem step_of_pivot {tokens before after : Expression} {sign : Operator} {left right : Numeral}
    (found : Pivot.ofExpression? tokens =
      some ⟨before ++ [.number left], sign, .number right :: after⟩) :
    step tokens =
      (sign.rounded left right).map fun result => before ++ .number result :: after := by
  rw [step, found, ← Operator.compute_eq_rounded]
  exact Pivot.resolve_between before after sign left right

/-- Why a step fails: its operation does, an operand is missing, or there is no operator. -/
inductive FailedStep (tokens : Expression) : ReductionError → Prop where
  | operation {start rest : Expression} {sign : Operator} {left right : Numeral}
      {cause : ReductionError}
      (found : Pivot.ofExpression? tokens =
        some ⟨start ++ [.number left], sign, .number right :: rest⟩)
      (failed : sign.rounded left right = .error cause) : FailedStep tokens cause
  | operand {pivot : Pivot} (found : Pivot.ofExpression? tokens = some pivot) :
      FailedStep tokens (.missingOperand pivot.before.length)
  | operator (absent : Pivot.ofExpression? tokens = none) :
      FailedStep tokens (.noOperator tokens.length)

theorem step_eq_error {tokens : Expression} {cause : ReductionError}
    (failed : step tokens = .error cause) : FailedStep tokens cause := by
  unfold step at failed
  split at failed
  · rename_i pivot found
    by_cases between : pivot.IsBetween
    · obtain ⟨start, left, sign, right, rest, rfl⟩ := between
      rw [Pivot.resolve_between, Operator.compute_eq_rounded] at failed
      cases computed : sign.rounded left right with
      | error earlier =>
          rw [computed] at failed
          cases failed
          exact .operation found computed
      | ok result =>
          rw [computed] at failed
          contradiction
    · rw [Pivot.resolve_elsewhere between] at failed
      cases failed
      exact .operand found
  · rename_i absent
    cases failed
    exact .operator absent

theorem reduce_of_step {tokens : Expression} (operated : 2 ≤ tokens.length) :
    reduce tokens = step tokens >>= reduce := by
  match tokens, operated with
  | first :: second :: rest, _ => exact reduce_step first second rest

/-- Whatever holds of one number, and of an expression when it holds of the next one, holds of
every expression that reduces to a number. -/
theorem reduce_induction {motive : Expression → Numeral → Prop}
    (single : ∀ numeral, motive [.number numeral] numeral)
    (stepped : ∀ tokens shorter numeral, step tokens = .ok shorter →
      reduce shorter = .ok numeral → motive shorter numeral → motive tokens numeral)
    {tokens : Expression} {numeral : Numeral} (reduced : reduce tokens = .ok numeral) :
    motive tokens numeral := by
  induction size : tokens.length using Nat.strongRecOn generalizing tokens with
  | ind count induction =>
      match tokens with
      | [] => simp [reduce] at reduced
      | [.number alone] =>
          rw [reduce] at reduced
          cases reduced
          exact single numeral
      | [.operator sign] => simp [reduce] at reduced
      | [.resultMark] => simp [reduce] at reduced
      | first :: second :: rest =>
          rw [reduce_of_step (by simp)] at reduced
          obtain ⟨shorter, next, reduced⟩ := ok_of_bind reduced
          have length := step_length next
          exact stepped _ shorter numeral next reduced
            (induction shorter.length (by omega) reduced rfl)

end Expression

end Keypad
