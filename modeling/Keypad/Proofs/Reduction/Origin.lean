import Keypad.Proofs.Reduction.Divisors

/-!
Where the numbers of a reduction come from. Some were typed, the others are results of earlier
steps. A step never puts its result behind a product or quotient sign, since no such sign stands to
the left of its pivot; so what an expression is divided by was typed, and stands in the expression
that was typed where it stands now.
-/

namespace Keypad

inductive Origin where
  | typed
  | computed
  deriving DecidableEq

abbrev Traced := List (Token × Origin)

namespace Traced

def tokens (traced : Traced) : Expression := traced.map Prod.fst

def ofTyped (tokens : Expression) : Traced := tokens.map fun token => (token, .typed)

/-- A step of reduction. Its result is computed, and the other tokens keep their origins. -/
inductive Step : Traced → Traced → Prop where
  | operation {start rest : Traced} {sign : Operator} {left right result : Numeral}
      {first second third : Origin}
      (found : Pivot.ofExpression?
          (tokens (start ++ (.number left, first) :: (.operator sign, second) ::
            (.number right, third) :: rest)) =
        some ⟨start.tokens ++ [.number left], sign, .number right :: rest.tokens⟩)
      (computed : sign.rounded left right = .ok result) :
      Step (start ++ (.number left, first) :: (.operator sign, second) ::
          (.number right, third) :: rest)
        (start ++ (.number result, .computed) :: rest)

/-- Steps lead from typed tokens to these. -/
inductive ReachedFrom (tokens : Expression) : Traced → Prop where
  | typed : ReachedFrom tokens (ofTyped tokens)
  | step {before after : Traced} (reached : ReachedFrom tokens before)
      (stepped : Step before after) : ReachedFrom tokens after

theorem tokens_of_typed (tokens : Expression) : (ofTyped tokens).tokens = tokens := by
  rw [ofTyped, Traced.tokens, List.map_map]
  exact List.map_id tokens

theorem Step.step_tokens {before after : Traced} (stepped : Step before after) :
    Expression.step before.tokens = .ok after.tokens := by
  obtain ⟨found, computed⟩ := stepped
  rw [Expression.step_of_pivot found, computed]
  simp [Except.map, tokens]

theorem exists_step {before : Traced} {shorter : Expression}
    (stepped : Expression.step before.tokens = .ok shorter) :
    ∃ after, Step before after ∧ after.tokens = shorter := by
  obtain ⟨start, sign, left, right, rest, result, found, computed, rfl⟩ :=
    Expression.pivot_of_step stepped
  have shape := Pivot.of_expression_eq_some found
  rw [List.append_assoc, tokens, List.map_eq_append_iff] at shape
  obtain ⟨startTraced, behind, rfl, rfl, shape⟩ := shape
  simp only [List.singleton_append, List.map_eq_cons_iff, Prod.exists] at shape
  obtain ⟨_, first, _, rfl, rfl, _, second, _, rfl, rfl, _, third, restTraced, rfl, rfl, rfl⟩ :=
    shape
  exact ⟨_, .operation found computed, by simp [tokens]⟩

theorem ReachedFrom.exists_later {tokens reached later : Expression}
    (passage : Expression.LeadsTo reached later) {traced : Traced}
    (from_typed : ReachedFrom tokens traced) (shape : traced.tokens = reached) :
    ∃ further, ReachedFrom tokens further ∧ further.tokens = later := by
  induction passage generalizing traced with
  | refl reached => exact ⟨traced, from_typed, shape⟩
  | step stepped passage induction =>
      subst shape
      rcases exists_step stepped with ⟨after, tracedStep, rest⟩
      exact induction (from_typed.step tracedStep) rest

theorem ReachedFrom.leads_to {tokens : Expression} {traced : Traced}
    (reached : ReachedFrom tokens traced) : tokens.LeadsTo traced.tokens := by
  induction reached with
  | typed =>
      rw [tokens_of_typed]
      exact .refl tokens
  | step reached stepped passage => exact passage.concat stepped.step_tokens

theorem leads_to_iff (tokens reached : Expression) :
    tokens.LeadsTo reached ↔ ∃ traced, ReachedFrom tokens traced ∧ traced.tokens = reached := by
  constructor
  · intro passage
    exact ReachedFrom.exists_later passage .typed (tokens_of_typed tokens)
  · rintro ⟨traced, reached, rfl⟩
    exact reached.leads_to

/-- From a product or quotient sign on, the tokens are the last ones of those that were typed. -/
def EndsTyped (tokens : Expression) (traced : Traced) : Prop :=
  ∀ before sign origin after, traced = before ++ (.operator sign, origin) :: after →
    sign.isPriority = true →
      ∃ earlier later, tokens = earlier ++ .operator sign :: later ∧ after = ofTyped later

theorem ends_typed_of_typed (tokens : Expression) : EndsTyped tokens (ofTyped tokens) := by
  intro before sign origin after shape _
  rw [ofTyped, List.map_eq_append_iff] at shape
  rcases shape with ⟨earlier, behind, rfl, -, shape⟩
  rcases List.map_eq_cons_iff.mp shape with ⟨token, later, rfl, same, rest⟩
  cases same
  exact ⟨earlier, later, rfl, rest.symm⟩

/-- Left of its pivot a step finds no product or quotient sign, so its result is in front of all of
them. -/
theorem Step.ends_typed {tokens : Expression} {traced shorter : Traced}
    (stepped : Step traced shorter) (kept : EndsTyped tokens traced) :
    EndsTyped tokens shorter := by
  rcases stepped with ⟨found, computed⟩
  rename_i start rest sign left right result first second third
  have passed := (Expression.chosen_of_pivot found).priority_passed
  intro before other origin after shape priority
  have behind : ∃ between, rest = between ++ (.operator other, origin) :: after := by
    rcases List.append_eq_append_iff.mp shape with ⟨between, rfl, inside⟩ | ⟨between, rfl, inside⟩
    · cases between with
      | nil => cases inside
      | cons token between =>
          cases inside
          exact ⟨between, rfl⟩
    · cases between with
      | nil => cases inside
      | cons token between =>
          cases inside
          have member : Token.operator other ∈
              Traced.tokens (before ++ (.operator other, origin) :: between) := by
            simp [Traced.tokens]
          have plain := passed _ (List.mem_append_left _ member) other rfl
          rw [priority] at plain
          contradiction
  rcases behind with ⟨between, rfl⟩
  apply kept (start ++ (.number left, first) :: (.operator sign, second) ::
    (.number right, third) :: between) other origin after _ priority
  simp

theorem ReachedFrom.ends_typed {tokens : Expression} {traced : Traced}
    (reached : ReachedFrom tokens traced) : EndsTyped tokens traced := by
  induction reached with
  | typed => exact ends_typed_of_typed tokens
  | step reached stepped kept => exact stepped.ends_typed kept

/-- A division sign stands directly before the number, and the rest behind it. -/
def DividesBy (traced : Traced) (divisor : Numeral) (origin : Origin) (rest : Traced) : Prop :=
  ∃ before signOrigin,
    traced = before ++ (.operator .divide, signOrigin) :: (.number divisor, origin) :: rest

/-- A divisor was typed, and so was everything behind it, in this order. -/
theorem ReachedFrom.divisor_typed {tokens : Expression} {traced : Traced}
    (reached : ReachedFrom tokens traced) {divisor : Numeral} {origin : Origin} {rest : Traced}
    (divides : traced.DividesBy divisor origin rest) :
    origin = .typed ∧
      ∃ earlier, tokens = earlier ++ .operator .divide :: .number divisor :: rest.tokens := by
  rcases divides with ⟨before, signOrigin, shape⟩
  rcases reached.ends_typed before .divide signOrigin _ shape rfl with ⟨earlier, later, rfl, typed⟩
  rcases List.map_eq_cons_iff.mp typed.symm with ⟨token, behind, rfl, same, rfl⟩
  cases same
  exact ⟨rfl, earlier, by rw [← ofTyped, tokens_of_typed]⟩

end Traced

/-- The check for divisions by zero, which is made on the typed expression, agrees with what the
reduction finds. A division by zero in the reduction is one that the check finds, and where the
check finds one the reduction fails. What is divided by is never the result of a step: in every
expression on the way, the number behind a division sign was typed, and in that place. -/
theorem zero_check_agrees_with_reduction (tokens : Expression) :
    (tokens.reduce = .error .divisionByZero → tokens.dividesByZero = true) ∧
    (tokens.dividesByZero = true → ∃ cause, tokens.reduce = .error cause) ∧
    (∀ reached, tokens.LeadsTo reached ↔
      ∃ traced, Traced.ReachedFrom tokens traced ∧ traced.tokens = reached) ∧
    (∀ traced, Traced.ReachedFrom tokens traced → ∀ divisor origin rest,
      traced.DividesBy divisor origin rest →
        origin = .typed ∧
          ∃ earlier, tokens = earlier ++ .operator .divide :: .number divisor :: rest.tokens) := by
  refine ⟨Expression.divides_by_zero_of_reduction, fun divides => ?_,
    Traced.leads_to_iff tokens,
    fun traced reached divisor origin rest divides => reached.divisor_typed divides⟩
  cases outcome : tokens.reduce with
  | error cause => exact ⟨cause, rfl⟩
  | ok numeral =>
      rw [Expression.divides_by_zero_of_reduced outcome] at divides
      contradiction

/-- A quotient that is rounded to zero is divided by a zero that was typed. -/
theorem zero_check_agrees_with_reduction_rounded :
    ∃ (tokens : Expression) (traced : Traced) (quotient divisor : Numeral) (origin : Origin),
      tokenize "1 ÷ 1000 ÷ 1000 ÷ 0".toList = .ok tokens ∧
      tokens.reduce = .error .divisionByZero ∧ tokens.dividesByZero = true ∧
      (∃ cause, tokens.reduce = .error cause) ∧ Traced.ReachedFrom tokens traced ∧
      traced.tokens = [.number quotient, .operator .divide, .number divisor] ∧
      traced.DividesBy divisor origin [] ∧ origin = .typed ∧
      quotient.value.isZero = true ∧ divisor.value.isZero = true := by
  let one : Numeral := ⟨['1'], ⟨false, 1, 0⟩, by decide⟩
  let thousand : Numeral := ⟨['1', '0', '0', '0'], ⟨false, 1000, 0⟩, by decide⟩
  let thousandth : Numeral := .ofDecimal ⟨false, 1, 3⟩
  let zero : Numeral := .ofDecimal ⟨false, 0, 0⟩
  let tokens : Expression := [.number one, .operator .divide, .number thousand, .operator .divide,
    .number thousand, .operator .divide, .number zero]
  have first : tokens.step = .ok [.number thousandth, .operator .divide, .number thousand,
      .operator .divide, .number zero] := ok_of_to_option (by decide +kernel)
  have second : Expression.step [.number thousandth, .operator .divide, .number thousand,
      .operator .divide, .number zero] = .ok [.number zero, .operator .divide, .number zero] :=
    ok_of_to_option (by decide +kernel)
  have third : Operator.divide.rounded zero zero = .error .divisionByZero :=
    if_pos ⟨rfl, by decide +kernel⟩
  have pivot : Pivot.ofExpression? [.number zero, .operator .divide, .number zero] =
      some ⟨[] ++ [.number zero], .divide, .number zero :: []⟩ := rfl
  have passage := Expression.LeadsTo.step first (.step second (.refl _))
  have failed : tokens.reduce = .error .divisionByZero := by
    rw [passage.reduce_eq, Expression.reduce_of_step (by decide), Expression.step_of_pivot pivot,
      third]
    rfl
  rcases zero_check_agrees_with_reduction tokens with ⟨found, fails, origins, typed⟩
  rcases (origins _).mp passage with ⟨traced, reached, shape⟩
  simp only [Traced.tokens, List.map_eq_cons_iff, List.map_eq_nil_iff, Prod.exists] at shape
  rcases shape with ⟨_, front, _, rfl, rfl, _, sign, _, rfl, rfl, _, origin, _, rfl, rfl, rfl⟩
  have divides : Traced.DividesBy [(.number zero, front), (.operator .divide, sign),
      (.number zero, origin)] zero origin [] := ⟨[(.number zero, front)], sign, rfl⟩
  exact ⟨tokens, _, zero, zero, origin, ok_of_to_option (by decide +kernel), failed, found failed,
    fails (found failed), reached, rfl, divides, (typed _ reached _ _ _ divides).1,
    by decide +kernel, by decide +kernel⟩

end Keypad
