import Keypad.Proofs.Decimal.Exactness
import Keypad.Proofs.Display.Evaluation

/-!
Sums and differences of decimals with no more places than the display has. While all numbers stay
below a bound, the error of an operation is a small part of a step of the display, so rounding to
the display restores the exact number; the next operation starts without an error again, however
many came before it.
-/

namespace Keypad

namespace Operator

def exact (sign : Operator) (left right : ℚ) : ℚ :=
  match sign with
  | add => left + right
  | subtract => left - right
  | multiply => left * right
  | divide => left / right

theorem near_apply {sign : Operator} (plain : sign.isPriority = false) {left right : Binary64}
    {first second firstError secondError : ℚ} (nearLeft : left.Near first firstError)
    (nearRight : right.Near second secondError)
    (small : |sign.exact first second| + (firstError + secondError) < 2 ^ 30) :
    (sign.apply left right).Near (sign.exact first second)
      (firstError + secondError + Binary64.roundingError) := by
  cases sign with
  | add => exact Binary64.near_add nearLeft nearRight small
  | subtract => exact Binary64.near_sub nearLeft nearRight small
  | multiply => contradiction
  | divide => contradiction

theorem exact_steps {sign : Operator} (plain : sign.isPriority = false) {left right : ℚ}
    (leftWhole : ∃ steps : Int, left = steps / 10 ^ maxFractionDigits)
    (rightWhole : ∃ steps : Int, right = steps / 10 ^ maxFractionDigits) :
    ∃ steps : Int, sign.exact left right = steps / 10 ^ maxFractionDigits := by
  obtain ⟨leftSteps, rfl⟩ := leftWhole
  obtain ⟨rightSteps, rfl⟩ := rightWhole
  cases sign with
  | add =>
      refine ⟨leftSteps + rightSteps, ?_⟩
      rw [exact, Int.cast_add, add_div]
  | subtract =>
      refine ⟨leftSteps - rightSteps, ?_⟩
      rw [exact, Int.cast_sub, sub_div]
  | multiply => contradiction
  | divide => contradiction

end Operator

def Literal.toRat (literal : Literal) : ℚ := (literal.decimal false).toRat

namespace Numeral

/-- No more places than the display has, and a moderate size. -/
structure IsShort (numeral : Numeral) : Prop where
  whole : ∃ steps : Int, numeral.decimal.toRat = steps / 10 ^ maxFractionDigits
  small : |numeral.decimal.toRat| ≤ 10 ^ 9

theorem near_value_of_short {numeral : Numeral} (short : numeral.IsShort) :
    numeral.value.Near numeral.decimal.toRat Binary64.roundingError := by
  apply Decimal.near_value
  apply short.small.trans_lt
  norm_num

end Numeral

/-- An operation on short numerals whose outcome is short gives the outcome without an error. -/
theorem Operator.rounded_exact {sign : Operator} {left right : Numeral}
    (plain : sign.isPriority = false) (leftShort : left.IsShort) (rightShort : right.IsShort)
    (small : |sign.exact left.decimal.toRat right.decimal.toRat| ≤ 10 ^ 9) :
    ∃ result : Decimal, sign.rounded left right = .ok (.ofDecimal result) ∧ result.IsCanonical ∧
      result.toRat = sign.exact left.decimal.toRat right.decimal.toRat ∧
      (Numeral.ofDecimal result).IsShort := by
  obtain ⟨steps, whole⟩ := exact_steps plain leftShort.whole rightShort.whole
  have limit : (10 : ℚ) ^ 9 + (Binary64.roundingError + Binary64.roundingError) < 2 ^ 30 := by
    norm_num [Binary64.roundingError]
  have near := near_apply plain (Numeral.near_value_of_short leftShort)
    (Numeral.near_value_of_short rightShort) ((add_le_add_left small _).trans_lt limit)
  rw [whole] at near
  have shown := Binary64.displayed_of_near near
    (by norm_num [Binary64.roundingError, maxFractionDigits])
  have exact := (Decimal.to_rat_of_steps steps).trans whole.symm
  refine ⟨.ofSteps steps, ?_, Decimal.canonical_of_steps steps, exact,
    ⟨steps, Decimal.to_rat_of_steps steps⟩, ?_⟩
  · rw [rounded, shown, if_neg]
    rintro ⟨rfl, -⟩
    contradiction
  · change |(Decimal.ofSteps steps).toRat| ≤ _
    rw [exact]
    exact small

namespace Chain

/-- All totals on the way from the left, the first number included. -/
def totals (chain : Chain ℚ) : List ℚ :=
  chain.rest.scanl (fun total step => step.1.exact total step.2) chain.first

def total (chain : Chain ℚ) : ℚ :=
  chain.rest.foldl (fun total step => step.1.exact total step.2) chain.first

theorem totals_cons (first : ℚ) (sign : Operator) (operand : ℚ) (rest : List (Operator × ℚ)) :
    totals ⟨first, (sign, operand) :: rest⟩ =
      first :: totals ⟨sign.exact first operand, rest⟩ := by
  rw [totals, totals, List.scanl_cons]

theorem first_mem_totals (chain : Chain ℚ) : chain.first ∈ chain.totals := by
  obtain ⟨first, rest⟩ := chain
  cases rest with
  | nil => exact List.mem_singleton.mpr rfl
  | cons step rest =>
      rw [totals_cons]
      exact List.mem_cons_self ..

def rationals (chain : Chain Numeral) : Chain ℚ := chain.map fun numeral => numeral.decimal.toRat

/-- Every total is exact, whatever the number of operations. The induction moves along the chain
with the total in front of it; a total that was computed is short and canonical again. -/
theorem fold_exact (rest : List (Operator × Numeral)) (first : Numeral)
    (plain : ∀ step ∈ rest, step.1.isPriority = false) (firstShort : first.IsShort)
    (short : ∀ step ∈ rest, step.2.IsShort)
    (small : ∀ total ∈ (rationals ⟨first, rest⟩).totals, |total| ≤ 10 ^ 9)
    (written : (∃ number, number.IsCanonical ∧ first = .ofDecimal number) ∨ rest ≠ []) :
    ∃ result, fold Operator.rounded ⟨first, rest⟩ = .ok (.ofDecimal result) ∧
      result.IsCanonical ∧ result.toRat = (rationals ⟨first, rest⟩).total := by
  induction rest generalizing first with
  | nil =>
      obtain ⟨number, canonical, rfl⟩ := written.resolve_right (fun nonempty => nonempty rfl)
      exact ⟨number, rfl, canonical, rfl⟩
  | cons step rest induction =>
      obtain ⟨sign, operand⟩ := step
      obtain ⟨plainHere, plainLater⟩ := List.forall_mem_cons.mp plain
      obtain ⟨shortHere, shortLater⟩ := List.forall_mem_cons.mp short
      have later : ∀ total ∈ totals ⟨sign.exact first.decimal.toRat operand.decimal.toRat,
          (rationals ⟨first, rest⟩).rest⟩, |total| ≤ 10 ^ 9 := by
        intro total member
        apply small
        exact (totals_cons ..).symm ▸ List.mem_cons_of_mem _ member
      have next := later _ (first_mem_totals _)
      obtain ⟨next, rounded, canonical, exact, nextShort⟩ :=
        Operator.rounded_exact plainHere firstShort shortHere next
      rw [← exact] at later
      obtain ⟨result, folded, resultCanonical, resultExact⟩ := induction (.ofDecimal next)
        plainLater nextShort shortLater later (.inl ⟨next, canonical, rfl⟩)
      refine ⟨result, ?_, resultCanonical, ?_⟩
      · rw [fold, List.foldlM_cons, rounded]
        exact folded
      · rw [resultExact]
        change total ⟨next.toRat, (rationals ⟨first, rest⟩).rest⟩ = _
        rw [exact]
        rfl

theorem value_plain (chain : Chain Numeral)
    (plain : ∀ step ∈ chain.rest, step.1.isPriority = false) :
    chain.value = chain.fold Operator.rounded :=
  (Expression.reduce_tokens_eq_value chain).symm.trans
    (Expression.reduce_plain chain.rest chain.first plain)

theorem rationals_numerals (chain : Chain Literal) :
    chain.numerals.rationals = chain.map Literal.toRat := by
  simp only [rationals, numerals, map, List.map_map]
  rfl

def operands {Operand : Type} (chain : Chain Operand) : List Operand :=
  chain.first :: chain.rest.map Prod.snd

/-- Sums and differences of complete numbers with no more places than the display has, where no
number and no total is larger than 10^9. -/
structure IsShortSum (chain : Chain Literal) : Prop where
  closed : chain.IsClosed
  operated : chain.rest ≠ []
  plain : ∀ step ∈ chain.rest, step.1 = .add ∨ step.1 = .subtract
  places : ∀ literal ∈ chain.operands, (literal.decimal false).places ≤ maxFractionDigits
  literals : ∀ literal ∈ chain.operands, |literal.toRat| ≤ 10 ^ 9
  totals : ∀ total ∈ (chain.map Literal.toRat).totals, |total| ≤ 10 ^ 9

namespace IsShortSum

variable {chain : Chain Literal} (sum : chain.IsShortSum)

include sum

theorem short_numeral (literal : Literal) (member : literal ∈ chain.operands) :
    (literal.numeral false).IsShort where
  whole := Decimal.steps_of_places _ (sum.places literal member)
  small := sum.literals literal member

theorem plain_numerals : ∀ step ∈ chain.numerals.rest, step.1.isPriority = false := by
  intro step member
  obtain ⟨typed, inside, rfl⟩ := List.mem_map.mp member
  change typed.1.isPriority = false
  rcases sum.plain typed inside with add | subtract
  · rw [add]
    rfl
  · rw [subtract]
    rfl

theorem no_zero_divisor : ¬chain.numerals.HasZeroDivisor := by
  rintro ⟨step, member, divides, -⟩
  have plain := sum.plain_numerals step member
  rw [divides] at plain
  contradiction

theorem value_eq_total :
    ∃ result, chain.numerals.value = .ok (.ofDecimal result) ∧ result.IsCanonical ∧
      result.toRat = (chain.map Literal.toRat).total := by
  have exact := fold_exact chain.numerals.rest chain.numerals.first sum.plain_numerals
    (sum.short_numeral _ (List.mem_cons_self ..)) ?_ ?_ ?_
  · rw [value_plain _ sum.plain_numerals, ← chain.rationals_numerals]
    exact exact
  · intro step member
    obtain ⟨typed, inside, rfl⟩ := List.mem_map.mp member
    exact sum.short_numeral _ (List.mem_cons_of_mem _ (List.mem_map_of_mem inside))
  · have totals := sum.totals
    rw [← chain.rationals_numerals] at totals
    exact totals
  · right
    exact chain.operated_numerals sum.operated

end IsShortSum

/-- No trace of the binary values is left in a sum: typed on a new calculator and evaluated, it
shows the one canonical decimal of its exact total. -/
theorem evaluate_short_sum (chain : Chain Literal) (sum : chain.IsShortSum) :
    ∃ result : Decimal,
      (∀ other : Decimal, other.IsCanonical ∧ other.toRat = (chain.map Literal.toRat).total ↔
        other = result) ∧
      Calculator.new.pressAll chain.keys = .ok ⟨chain.text Literal.text⟩ ∧
      Calculator.evaluate ⟨chain.text Literal.text⟩ =
        .ok ⟨chain.text Literal.text ++ [' ', '=', ' '] ++ result.text⟩ := by
  obtain ⟨result, value, canonical, exact⟩ := sum.value_eq_total
  have evaluated := Calculator.evaluate_chain chain.numerals (chain.complete_numerals sum.closed)
    (chain.operated_numerals sum.operated)
  rw [if_neg (mt chain.numerals.divides_by_zero_tokens.mp sum.no_zero_divisor), value,
    chain.text_numerals] at evaluated
  refine ⟨result, ?_, Draft.press_chain chain sum.closed, ?_⟩
  · intro other
    constructor
    · rintro ⟨otherCanonical, same⟩
      exact Decimal.eq_of_canonical otherCanonical canonical (same.trans exact.symm)
    · rintro rfl
      exact ⟨canonical, exact⟩
  · rw [evaluated, List.append_assoc]
    rfl

/-- The sum for which binary values alone would show 0.050000000000000044. -/
theorem evaluate_short_sum_tenths :
    ∃ chain : Chain Literal, chain.IsShortSum ∧ Calculator.evaluate ⟨"0.1 + 0.2 - 0.25".toList⟩ =
      .ok ⟨"0.1 + 0.2 - 0.25 = 0.05".toList⟩ := by
  let tenth : Literal := ⟨['0'], some ['1'], by simp, by simp, by simp⟩
  let fifth : Literal := ⟨['0'], some ['2'], by simp, by simp, by simp⟩
  let quarter : Literal := ⟨['0'], some ['2', '5'], by simp, by simp, by simp⟩
  let chain : Chain Literal := ⟨tenth, [(.add, fifth), (.subtract, quarter)]⟩
  have tenthRat : tenth.toRat = 1 / 10 := by
    have read : tenth.decimal false = ⟨false, 1, 1⟩ := by decide
    norm_num [Literal.toRat, read, Decimal.toRat, Binary64.sign]
  have fifthRat : fifth.toRat = 1 / 5 := by
    have read : fifth.decimal false = ⟨false, 2, 1⟩ := by decide
    norm_num [Literal.toRat, read, Decimal.toRat, Binary64.sign]
  have quarterRat : quarter.toRat = 1 / 4 := by
    have read : quarter.decimal false = ⟨false, 25, 2⟩ := by decide
    norm_num [Literal.toRat, read, Decimal.toRat, Binary64.sign]
  have sum : chain.IsShortSum := by
    refine ⟨⟨by decide, by decide⟩, by simp [chain], by simp [chain], ?_, ?_, ?_⟩
    · simp only [chain, operands, List.map_cons, List.map_nil, List.forall_mem_cons]
      decide
    · simp only [chain, operands, List.map_cons, List.map_nil, List.forall_mem_cons, tenthRat,
        fifthRat, quarterRat]
      norm_num
    · simp only [chain, map, totals_cons, List.map_cons, List.map_nil, tenthRat, fifthRat,
        quarterRat, Operator.exact]
      norm_num [totals]
  obtain ⟨result, unique, -, evaluated⟩ := evaluate_short_sum chain sum
  have known : (⟨false, 5, 2⟩ : Decimal) = result := by
    apply (unique _).mp
    refine ⟨⟨by simp, by simp⟩, ?_⟩
    change Decimal.toRat ⟨false, 5, 2⟩ = tenth.toRat + fifth.toRat - quarter.toRat
    rw [tenthRat, fifthRat, quarterRat]
    norm_num [Decimal.toRat, Binary64.sign]
  rw [← known] at evaluated
  exact ⟨chain, sum, evaluated⟩

end Chain

end Keypad
