import Keypad.Decimal.Displayed
import Keypad.Expression
import Keypad.Rejection

/-!
Evaluation by reduction. Each step takes the first product or quotient of the expression, or
the first sum or difference where there is none, and puts its result in the place of the three
tokens; the result is the number that the display would show, so every step rounds as the
screen does. A step shortens the expression by two tokens, which is why reduction ends.
-/

namespace Keypad

/-- Why an expression has no value. A position counts from zero in what is left of the expression
at that step. -/
inductive ReductionError where
  | token (cause : TokenError)
  | nonFinite (value : NonFinite)
  | noOperator (count : Nat)
  | missingOperand (position : Nat)
  | divisionByZero
  deriving DecidableEq

namespace ReductionError

def message : ReductionError → String
  | token cause => "Token error: " ++ cause.message
  | nonFinite value => "Utils error: " ++ value.message
  | noOperator count => "No operator left to reduce in " ++ toString count ++ " tokens"
  | missingOperand position =>
      "Operator at position " ++ toString position ++ " is missing an operand"
  | divisionByZero => "Division by zero"

def rejection : ReductionError → Rejection
  | divisionByZero => .divideByZero
  | token _ => .malformed
  | missingOperand _ => .malformed
  | nonFinite _ => .operationImpossible
  | noOperator _ => .operationImpossible

end ReductionError

/-- One operation on two numerals. Its result is the numeral that the display shows for it. -/
def Operator.compute (sign : Operator) (left right : Numeral) : Except ReductionError Numeral :=
  if sign = .divide ∧ right.value.isZero then .error .divisionByZero
  else do
    let text ← (sign.apply left.value right.value).displayText.mapError .nonFinite
    (Numeral.read text).mapError .token

structure Pivot where
  before : Expression
  sign : Operator
  after : Expression

namespace Pivot

def push (token : Token) (pivot : Pivot) : Pivot := { pivot with before := token :: pivot.before }

def find? (chosen : Operator → Bool) : Expression → Option Pivot
  | [] => none
  | .operator sign :: rest =>
      if chosen sign then some ⟨[], sign, rest⟩
      else (find? chosen rest).map (push (.operator sign))
  | .number numeral :: rest => (find? chosen rest).map (push (.number numeral))
  | .resultMark :: rest => (find? chosen rest).map (push .resultMark)

/-- Products and quotients go first, and among equals the leftmost. -/
def ofExpression? (tokens : Expression) : Option Pivot :=
  (find? Operator.isPriority tokens).or (find? (fun _ => true) tokens)

/-- Puts the result of the operation in the place of its operands. A neighbour that is not a
number is a missing operand, reported with the position of the operator. -/
def resolve (pivot : Pivot) : Except ReductionError Expression :=
  match pivot.before.getLast?, pivot.after with
  | some (.number left), .number right :: rest =>
      (pivot.sign.compute left right).map fun result =>
        pivot.before.dropLast ++ .number result :: rest
  | _, _ => .error (.missingOperand pivot.before.length)

theorem find_eq_some {chosen : Operator → Bool} {tokens : Expression} {pivot : Pivot}
    (found : find? chosen tokens = some pivot) :
    tokens = pivot.before ++ .operator pivot.sign :: pivot.after ∧ chosen pivot.sign := by
  induction tokens generalizing pivot with
  | nil => simp [find?] at found
  | cons token rest induction =>
      have later (inner : (find? chosen rest).map (push token) = some pivot) :
          token :: rest = pivot.before ++ .operator pivot.sign :: pivot.after ∧
            chosen pivot.sign := by
        obtain ⟨earlier, restFound, rfl⟩ := Option.map_eq_some_iff.mp inner
        obtain ⟨rejoined, kind⟩ := induction restFound
        exact ⟨congrArg (token :: ·) rejoined, kind⟩
      cases token with
      | number numeral => exact later found
      | resultMark => exact later found
      | operator sign =>
          rw [find?] at found
          split at found
          · rename_i kind
            cases found
            exact ⟨rfl, kind⟩
          · exact later found

theorem of_expression_eq_some {tokens : Expression} {pivot : Pivot}
    (found : ofExpression? tokens = some pivot) :
    tokens = pivot.before ++ .operator pivot.sign :: pivot.after := by
  rcases Option.or_eq_some_iff.mp found with priority | ⟨_, plain⟩
  · exact (find_eq_some priority).1
  · exact (find_eq_some plain).1

theorem resolve_eq_ok {pivot : Pivot} {shorter : Expression}
    (resolved : pivot.resolve = .ok shorter) :
    ∃ start left right rest result,
      pivot.before = start ++ [.number left] ∧ pivot.after = .number right :: rest ∧
        pivot.sign.compute left right = .ok result ∧ shorter = start ++ .number result :: rest := by
  unfold resolve at resolved
  split at resolved
  · rename_i left right rest last after
    cases computed : pivot.sign.compute left right with
    | error cause => simp [computed, Except.map] at resolved
    | ok result =>
        simp only [computed, Except.map, Except.ok.injEq] at resolved
        obtain ⟨start, split⟩ := List.getLast?_eq_some_iff.mp last
        refine ⟨start, left, right, rest, result, split, after, computed, ?_⟩
        rw [← resolved, split, List.dropLast_concat]
  · contradiction

end Pivot

namespace Expression

def step (tokens : Expression) : Except ReductionError Expression :=
  match Pivot.ofExpression? tokens with
  | some pivot => pivot.resolve
  | none => .error (.noOperator tokens.length)

theorem step_length {tokens shorter : Expression} (stepped : step tokens = .ok shorter) :
    shorter.length + 2 = tokens.length := by
  unfold step at stepped
  split at stepped
  · rename_i pivot found
    obtain ⟨start, left, right, rest, result, before, after, _, rfl⟩ :=
      Pivot.resolve_eq_ok stepped
    rw [Pivot.of_expression_eq_some found, before, after]
    simp
    omega
  · contradiction

def reduce (tokens : Expression) : Except ReductionError Numeral :=
  match tokens with
  | [] => .error (.noOperator 0)
  | [.number numeral] => .ok numeral
  | [_] => .error (.missingOperand 0)
  | first :: second :: rest =>
      match stepped : step (first :: second :: rest) with
      | .error cause => .error cause
      | .ok shorter =>
          have := step_length stepped
          reduce shorter
termination_by tokens.length
decreasing_by omega

theorem reduce_step (first second : Token) (rest : Expression) :
    reduce (first :: second :: rest) = (step (first :: second :: rest)).bind reduce := by
  rw [reduce]
  split
  · rename_i cause stepped
    exact congrArg (Except.bind · reduce) stepped.symm
  · rename_i shorter stepped
    exact congrArg (Except.bind · reduce) stepped.symm

end Expression

end Keypad
