import Keypad.Proofs.Reduction.Divisors

/-!
A reduction sees the values of numbers and nothing else of how they are written. Two expressions
with the same signs and marks and with numbers of the same values, in the same order, take the same
steps, and these write the same results, so from the first step on they agree in these too.
-/

namespace Keypad

/-- What is left of a token without the literal of a number. -/
inductive Token.Meaning where
  | number (value : Binary64)
  | operator (sign : Operator)
  | resultMark
  deriving DecidableEq

def Token.meaning : Token → Token.Meaning
  | number numeral => .number numeral.value
  | operator sign => .operator sign
  | resultMark => .resultMark

namespace Token

variable {token : Token}

theorem number_of_meaning {value : Binary64} (same : token.meaning = .number value) :
    ∃ numeral, token = .number numeral ∧ numeral.value = value := by
  cases token with
  | number numeral => exact ⟨numeral, rfl, Meaning.number.inj same⟩
  | operator sign => contradiction
  | resultMark => contradiction

theorem operator_of_meaning {sign : Operator} (same : token.meaning = .operator sign) :
    token = .operator sign := by
  cases token with
  | number numeral => contradiction
  | operator other => exact congrArg operator (Meaning.operator.inj same)
  | resultMark => contradiction

theorem result_mark_of_meaning (same : token.meaning = .resultMark) : token = .resultMark := by
  cases token with
  | number numeral => contradiction
  | operator sign => contradiction
  | resultMark => rfl

end Token

theorem Operator.compute_of_values (sign : Operator) {left right otherLeft otherRight : Numeral}
    (sameLeft : left.value = otherLeft.value) (sameRight : right.value = otherRight.value) :
    sign.compute left right = sign.compute otherLeft otherRight := by
  rw [compute, compute, sameLeft, sameRight]

namespace Pivot

def meaning (pivot : Pivot) : List Token.Meaning × Operator × List Token.Meaning :=
  (pivot.before.map Token.meaning, pivot.sign, pivot.after.map Token.meaning)

theorem meaning_push {token other : Token} (same : token.meaning = other.meaning)
    {found otherFound : Option Pivot} (pivots : found.map meaning = otherFound.map meaning) :
    (found.map (push token)).map meaning = (otherFound.map (push other)).map meaning := by
  cases found with
  | none =>
      rw [Option.map_eq_none_iff.mp pivots.symm]
      rfl
  | some pivot =>
      obtain ⟨otherPivot, rfl, shape⟩ := Option.map_eq_some_iff.mp pivots.symm
      simp only [meaning, Prod.mk.injEq] at shape
      simp [meaning, push, same, shape]

theorem find_of_meanings {chosen : Operator → Bool} {tokens others : Expression}
    (same : tokens.map Token.meaning = others.map Token.meaning) :
    (find? chosen tokens).map meaning = (find? chosen others).map meaning := by
  induction tokens generalizing others with
  | nil =>
      rw [List.map_eq_nil_iff.mp same.symm]
  | cons token rest induction =>
      obtain ⟨other, otherRest, rfl, here, later⟩ := List.map_eq_cons_iff.mp same.symm
      have pushed := meaning_push here.symm (induction later.symm)
      cases token with
      | number numeral =>
          obtain ⟨otherNumeral, rfl, _⟩ := Token.number_of_meaning here
          exact pushed
      | resultMark =>
          obtain rfl := Token.result_mark_of_meaning here
          exact pushed
      | operator sign =>
          obtain rfl := Token.operator_of_meaning here
          rw [find?, find?]
          split
          · simp [meaning, later]
          · exact pushed

theorem of_expression_of_meanings {tokens others : Expression}
    (same : tokens.map Token.meaning = others.map Token.meaning) :
    (ofExpression? tokens).map meaning = (ofExpression? others).map meaning := by
  rw [ofExpression?, ofExpression?, Option.map_or, Option.map_or, find_of_meanings same,
    find_of_meanings same]

theorem between_of_meanings {start rest : Expression} {sign : Operator} {left right : Numeral}
    {other : Pivot}
    (same : meaning ⟨start ++ [.number left], sign, .number right :: rest⟩ = other.meaning) :
    ∃ otherStart otherLeft otherRight otherRest,
      other = ⟨otherStart ++ [.number otherLeft], sign, .number otherRight :: otherRest⟩ ∧
        start.map Token.meaning = otherStart.map Token.meaning ∧
        left.value = otherLeft.value ∧ right.value = otherRight.value ∧
        rest.map Token.meaning = otherRest.map Token.meaning := by
  obtain ⟨before, _, after⟩ := other
  simp only [meaning, Prod.mk.injEq] at same
  obtain ⟨befores, rfl, afters⟩ := same
  rw [List.map_append] at befores
  obtain ⟨otherStart, last, rfl, starts, lasts⟩ := List.map_eq_append_iff.mp befores.symm
  obtain ⟨leftToken, rfl, sameLeft⟩ := List.map_eq_singleton_iff.mp lasts
  obtain ⟨rightToken, otherRest, rfl, sameRight, rests⟩ := List.map_eq_cons_iff.mp afters.symm
  obtain ⟨otherLeft, rfl, leftValue⟩ := Token.number_of_meaning sameLeft
  obtain ⟨otherRight, rfl, rightValue⟩ := Token.number_of_meaning sameRight
  exact ⟨otherStart, otherLeft, otherRight, otherRest, rfl, starts.symm, leftValue.symm,
    rightValue.symm, rests.symm⟩

/-- Two outcomes of a step that mean the same: one failure, or one result of the operation between
tokens that mean the same. -/
inductive SameStep : Except ReductionError Expression → Except ReductionError Expression → Prop
  | failed (cause : ReductionError) : SameStep (.error cause) (.error cause)
  | stepped {start otherStart rest otherRest : Expression} (result : Numeral)
      (before : start.map Token.meaning = otherStart.map Token.meaning)
      (after : rest.map Token.meaning = otherRest.map Token.meaning) :
      SameStep (.ok (start ++ .number result :: rest))
        (.ok (otherStart ++ .number result :: otherRest))

theorem resolve_of_meanings {pivot other : Pivot} (same : pivot.meaning = other.meaning) :
    SameStep pivot.resolve other.resolve := by
  by_cases between : pivot.IsBetween
  · obtain ⟨start, left, sign, right, rest, rfl⟩ := between
    obtain ⟨otherStart, otherLeft, otherRight, otherRest, rfl, starts, lefts, rights, rests⟩ :=
      between_of_meanings same
    rw [resolve_between, resolve_between, sign.compute_of_values lefts rights]
    cases sign.compute otherLeft otherRight with
    | error cause => exact .failed cause
    | ok result => exact .stepped result starts rests
  · have otherElsewhere : ¬other.IsBetween := by
      rintro ⟨otherStart, otherLeft, sign, otherRight, otherRest, rfl⟩
      obtain ⟨start, left, right, rest, rfl, -⟩ := between_of_meanings same.symm
      exact between ⟨start, left, sign, right, rest, rfl⟩
    have lengths : pivot.before.length = other.before.length := by
      have befores := congrArg Prod.fst same
      simpa [meaning] using congrArg List.length befores
    rw [resolve_elsewhere between, resolve_elsewhere otherElsewhere, lengths]
    exact .failed _

end Pivot

namespace Expression

variable {tokens others : Expression}
  (same : tokens.map Token.meaning = others.map Token.meaning)

include same

theorem step_of_meanings : Pivot.SameStep (step tokens) (step others) := by
  have pivots := Pivot.of_expression_of_meanings same
  have lengths : tokens.length = others.length := by
    simpa using congrArg List.length same
  rw [step, step]
  cases found : Pivot.ofExpression? tokens with
  | none =>
      rw [found] at pivots
      rw [Option.map_eq_none_iff.mp pivots.symm, lengths]
      exact .failed _
  | some pivot =>
      rw [found] at pivots
      obtain ⟨other, otherFound, shape⟩ := Option.map_eq_some_iff.mp pivots.symm
      rw [otherFound]
      exact Pivot.resolve_of_meanings shape.symm

/-- The outcomes are one and the same, also in the literal of a number and in the position of an
error, since the last number that is left was written by a step. -/
theorem reduce_of_meanings (operated : 2 ≤ tokens.length) : reduce tokens = reduce others := by
  induction size : tokens.length using Nat.strongRecOn generalizing tokens others with
  | ind count induction =>
      have lengths : tokens.length = others.length := by
        simpa using congrArg List.length same
      have steps := step_of_meanings same
      rw [reduce_of_step operated, reduce_of_step (lengths ▸ operated)]
      generalize stepped : step tokens = outcome at steps
      generalize step others = otherOutcome at steps
      cases steps with
      | failed cause => rfl
      | @stepped start otherStart rest otherRest result before after =>
          have shorter := step_length stepped
          rw [ok_bind, ok_bind]
          by_cases further : 2 ≤ (start ++ .number result :: rest).length
          · have next : (start ++ .number result :: rest).map Token.meaning =
                (otherStart ++ .number result :: otherRest).map Token.meaning := by
              simp [before, after]
            exact induction _ (by omega) next further rfl
          · rw [List.length_append, List.length_cons] at further
            obtain rfl : start = [] := List.length_eq_zero_iff.mp (by omega)
            obtain rfl : rest = [] := List.length_eq_zero_iff.mp (by omega)
            rw [List.map_eq_nil_iff.mp before.symm, List.map_eq_nil_iff.mp after.symm]

theorem divides_by_zero_of_meanings : dividesByZero tokens = dividesByZero others := by
  have transferred {earlier later : Expression}
      (alike : earlier.map Token.meaning = later.map Token.meaning)
      (divides : dividesByZero earlier = true) : dividesByZero later = true := by
    rw [divides_by_zero_iff] at divides ⊢
    obtain ⟨divisor, division, zero⟩ := divides
    have inside := division.map Token.meaning
    rw [alike, List.infix_map_iff] at inside
    obtain ⟨pair, behind, shape⟩ := inside
    obtain ⟨first, _, rfl, division, single⟩ := List.map_eq_cons_iff.mp shape.symm
    obtain ⟨second, rfl, divided⟩ := List.map_eq_singleton_iff.mp single
    obtain rfl := Token.operator_of_meaning division
    obtain ⟨other, rfl, value⟩ := Token.number_of_meaning divided
    refine ⟨other, behind, ?_⟩
    rw [value]
    exact zero
  exact Bool.eq_iff_iff.mpr ⟨transferred same, transferred same.symm⟩

end Expression

end Keypad
