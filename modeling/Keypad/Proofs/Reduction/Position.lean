import Keypad.Proofs.Reduction.Passage

/-!
Operators without an operand, and the position under which a reduction reports one. A step leaves
every operator but its own with a number beside it where it had one, and in the same order. So the
operator that a reduction stops at had no operand from the start, and of all such operators it is
the one that is taken first. Its position is counted in what is left of the expression: every
operator to the left of it that was taken earlier has cost the expression two tokens.
-/

namespace Keypad

/-- An operator is taken before another one to the right of it, unless only that one has
priority. -/
def Operator.leads (left right : Operator) : Bool := left.isPriority || !right.isPriority

namespace Pivot

def IsIn (pivot : Pivot) (tokens : Expression) : Prop :=
  tokens = pivot.before ++ .operator pivot.sign :: pivot.after

/-- Of two operators of an expression, the one that a reduction takes first. -/
def Precedes (first second : Pivot) : Prop :=
  (first.before.length < second.before.length ∧ first.sign.leads second.sign = true) ∨
    (second.before.length < first.before.length ∧ second.sign.leads first.sign = false)

def earlier (pivot : Pivot) : Nat :=
  pivot.before.countP fun token => token.operator?.any fun other => other.leads pivot.sign

theorem IsIn.get {pivot : Pivot} {tokens : Expression} (inside : pivot.IsIn tokens) :
    tokens[pivot.before.length]? = some (.operator pivot.sign) := by
  rw [inside, List.getElem?_append_right (Nat.le_refl _), Nat.sub_self]
  rfl

theorem precedes_or_precedes {first second : Pivot}
    (apart : first.before.length ≠ second.before.length) :
    first.Precedes second ∨ second.Precedes first := by
  rcases Nat.lt_or_gt_of_ne apart with left | right
  · cases leads : first.sign.leads second.sign with
    | true => exact .inl (.inl ⟨left, leads⟩)
    | false => exact .inr (.inr ⟨left, leads⟩)
  · cases leads : second.sign.leads first.sign with
    | true => exact .inr (.inl ⟨right, leads⟩)
    | false => exact .inl (.inr ⟨right, leads⟩)

variable {first second : Pivot} {tokens : Expression} (firstInside : first.IsIn tokens)
  (secondInside : second.IsIn tokens)

include firstInside secondInside

theorem mem_before (left : first.before.length < second.before.length) :
    .operator first.sign ∈ second.before := by
  have token := firstInside.get
  rw [secondInside, List.getElem?_append_left left] at token
  exact List.mem_of_getElem? token

theorem mem_after (right : second.before.length < first.before.length) :
    .operator first.sign ∈ second.after := by
  have token := firstInside.get
  obtain ⟨distance, far⟩ := Nat.exists_eq_add_of_lt right
  rw [secondInside, List.getElem?_append_right (by omega), far, Nat.add_assoc,
    Nat.add_sub_cancel_left, List.getElem?_cons_succ] at token
  exact List.mem_of_getElem? token

theorem eq_of_position (same : first.before.length = second.before.length) : first = second := by
  obtain ⟨before, sign, after⟩ := first
  obtain ⟨otherBefore, otherSign, otherAfter⟩ := second
  obtain ⟨rfl, shape⟩ := List.append_inj (firstInside.symm.trans secondInside) same
  cases shape
  rfl

end Pivot

structure Contraction where
  start : Expression
  left : Numeral
  sign : Operator
  right : Numeral
  result : Numeral
  rest : Expression

namespace Contraction

def tokens (contraction : Contraction) : Expression :=
  contraction.start ++ .number contraction.left :: .operator contraction.sign ::
    .number contraction.right :: contraction.rest

def shorter (contraction : Contraction) : Expression :=
  contraction.start ++ .number contraction.result :: contraction.rest

/-- The operator whose result takes the place of its operands. -/
def taken (contraction : Contraction) : Pivot :=
  ⟨contraction.start ++ [.number contraction.left], contraction.sign,
    .number contraction.right :: contraction.rest⟩

theorem taken_is_in (contraction : Contraction) :
    contraction.taken.IsIn contraction.tokens := by
  rw [Pivot.IsIn, taken, tokens, List.append_assoc]
  rfl

/-- An operator that the step does not take, before the step and after it. -/
inductive Spares : Contraction → Pivot → Pivot → Prop where
  | ahead (before between rest : Expression) (left right result : Numeral)
      (taken sign : Operator) :
      Spares ⟨before ++ .operator sign :: between, left, taken, right, result, rest⟩
        ⟨before, sign, between ++ .number left :: .operator taken :: .number right :: rest⟩
        ⟨before, sign, between ++ .number result :: rest⟩
  | behind (start between after : Expression) (left right result : Numeral)
      (taken sign : Operator) :
      Spares ⟨start, left, taken, right, result, between ++ .operator sign :: after⟩
        ⟨start ++ .number left :: .operator taken :: .number right :: between, sign, after⟩
        ⟨start ++ .number result :: between, sign, after⟩

variable {contraction : Contraction} {pivot other kept otherKept : Pivot}

theorem Spares.is_in (spares : contraction.Spares pivot kept) :
    pivot.IsIn contraction.tokens ∧ kept.IsIn contraction.shorter := by
  cases spares with
  | ahead before between rest left right result taken sign =>
      exact ⟨List.append_assoc .., List.append_assoc ..⟩
  | behind start between after left right result taken sign =>
      simp [Pivot.IsIn, tokens, shorter]

theorem Spares.sign_eq (spares : contraction.Spares pivot kept) : pivot.sign = kept.sign := by
  cases spares <;> rfl

theorem Spares.is_between_iff (spares : contraction.Spares pivot kept) :
    pivot.IsBetween ↔ kept.IsBetween := by
  rw [Pivot.is_between_iff, Pivot.is_between_iff]
  cases spares with
  | ahead before between rest left right result taken sign =>
      cases between with
      | nil => simp
      | cons token between => simp
  | behind start between after left right result taken sign =>
      cases between with
      | nil => simp
      | cons token between => simp

/-- To the left of the result the operators keep their positions, to the right of it they move by
two. -/
theorem Spares.position (spares : contraction.Spares pivot kept) :
    (pivot.before.length < contraction.start.length ∧
        pivot.before.length = kept.before.length) ∨
      (contraction.start.length < kept.before.length ∧
        pivot.before.length = kept.before.length + 2) := by
  cases spares with
  | ahead before between rest left right result taken sign =>
      left
      simp
  | behind start between after left right result taken sign =>
      right
      simp
      omega

theorem Spares.position_lt_iff (spares : contraction.Spares pivot kept)
    (sparesOther : contraction.Spares other otherKept) :
    pivot.before.length < other.before.length ↔
      kept.before.length < otherKept.before.length := by
  rcases spares.position with ⟨_, _⟩ | ⟨_, _⟩
  all_goals
    rcases sparesOther.position with ⟨_, _⟩ | ⟨_, _⟩
    all_goals omega

theorem Spares.precedes_iff (spares : contraction.Spares pivot kept)
    (sparesOther : contraction.Spares other otherKept) :
    pivot.Precedes other ↔ kept.Precedes otherKept := by
  rw [Pivot.Precedes, Pivot.Precedes, spares.position_lt_iff sparesOther,
    sparesOther.position_lt_iff spares, spares.sign_eq, sparesOther.sign_eq]

theorem Spares.earlier_eq (spares : contraction.Spares pivot kept)
    (leads : kept.before.length < contraction.start.length ∨
      contraction.sign.leads kept.sign = true) :
    pivot.before.length + 2 * kept.earlier = kept.before.length + 2 * pivot.earlier := by
  cases spares with
  | ahead before between rest left right result taken sign => rfl
  | behind start between after left right result taken sign =>
      have taken : taken.leads sign = true := by
        rcases leads with ahead | leads
        · simp only [List.length_append, List.length_cons] at ahead
          omega
        · exact leads
      simp [Pivot.earlier, Token.operator?, taken]
      omega

theorem exists_spared_before (inside : kept.IsIn contraction.shorter) :
    ∃ pivot, contraction.Spares pivot kept := by
  obtain ⟨start, left, taken, right, result, rest⟩ := contraction
  obtain ⟨before, sign, after⟩ := kept
  simp only [Pivot.IsIn, shorter] at inside
  rcases List.append_eq_append_iff.mp inside with ⟨behind, rfl, shape⟩ | ⟨ahead, rfl, shape⟩
  · cases behind with
    | nil => cases shape
    | cons token between =>
        obtain ⟨rfl, rfl⟩ := List.cons.inj shape
        exact ⟨_, .behind start between after left right result taken sign⟩
  · cases ahead with
    | nil => cases shape
    | cons token between =>
        obtain ⟨rfl, rfl⟩ := List.cons.inj shape
        exact ⟨_, .ahead before between rest left right result taken sign⟩

theorem taken_or_spared (inside : pivot.IsIn contraction.tokens) :
    pivot = contraction.taken ∨ ∃ kept, contraction.Spares pivot kept := by
  obtain ⟨start, left, taken, right, result, rest⟩ := contraction
  obtain ⟨before, sign, after⟩ := pivot
  simp only [Pivot.IsIn, tokens] at inside
  rcases List.append_eq_append_iff.mp inside with ⟨behind, rfl, shape⟩ | ⟨ahead, rfl, shape⟩
  · match behind, shape with
    | [_], shape =>
        cases shape
        exact .inl rfl
    | _ :: _ :: _ :: between, shape =>
        simp only [List.cons_append, List.cons.injEq] at shape
        obtain ⟨rfl, rfl, rfl, rfl⟩ := shape
        exact .inr ⟨_, .behind start between after left right result taken sign⟩
  · cases ahead with
    | nil => cases shape
    | cons token between =>
        obtain ⟨rfl, rfl⟩ := List.cons.inj shape
        exact .inr ⟨_, .ahead before between rest left right result taken sign⟩

end Contraction

namespace Expression

theorem Chosen.not_leads {before after : Expression} {sign other : Operator}
    (chosen : Chosen before sign after) (member : .operator other ∈ before) :
    other.leads sign = false := by
  cases chosen with
  | priority priority passed => simp [Operator.leads, priority, passed _ member other rfl]
  | plain plain passed later =>
      have clash := passed _ member other rfl
      contradiction

theorem Chosen.leads {before after : Expression} {sign other : Operator}
    (chosen : Chosen before sign after) (member : .operator other ∈ after) :
    sign.leads other = true := by
  cases chosen with
  | priority priority passed => simp [Operator.leads, priority]
  | plain plain passed later => simp [Operator.leads, later _ member other rfl]

theorem exists_contraction {tokens shorter : Expression} (stepped : step tokens = .ok shorter) :
    ∃ contraction : Contraction, tokens = contraction.tokens ∧ shorter = contraction.shorter ∧
      Chosen contraction.taken.before contraction.sign contraction.taken.after := by
  rcases step_eq_ok stepped with
    ⟨start, sign, left, right, rest, result, before, after, -, chosen⟩
  exact ⟨⟨start, left, sign, right, result, rest⟩, before, after, chosen⟩

/-- The token at a position is an operator without a number on one of its sides. -/
def MissesOperand (tokens : Expression) (position : Nat) : Prop :=
  ∃ sign, tokens[position]? = some (.operator sign) ∧
    ¬Pivot.IsBetween ⟨tokens.take position, sign, tokens.drop (position + 1)⟩

/-- The operator that a report is about is the first one without an operand, and each operator on
its left that goes before it has lowered the position by two. -/
structure Reports (tokens : Expression) (position : Nat) (pivot : Pivot) : Prop where
  inside : pivot.IsIn tokens
  incomplete : ¬pivot.IsBetween
  first : ∀ other : Pivot, other.IsIn tokens → other.Precedes pivot → other.IsBetween
  position : pivot.before.length = position + 2 * pivot.earlier

theorem incomplete_of_step {tokens : Expression} {position : Nat}
    (failed : step tokens = .error (.missingOperand position)) :
    ∃ pivot, Pivot.ofExpression? tokens = some pivot ∧ ¬pivot.IsBetween ∧
      pivot.before.length = position := by
  have present (sign : Operator) (left right : Numeral) :
      sign.rounded left right ≠ .error (.missingOperand position) := by
    intro computed
    rcases Operator.error_of_rounded computed with other | ⟨value, other⟩
    · contradiction
    · contradiction
  cases step_eq_error failed with
  | operation found computed => exact absurd computed (present _ _ _)
  | @operand pivot found =>
      refine ⟨pivot, found, ?_, rfl⟩
      rintro ⟨start, left, sign, right, rest, rfl⟩
      rw [step_of_pivot found] at failed
      exact present sign left right (error_of_map failed)

theorem reports_pivot {tokens : Expression} {pivot : Pivot}
    (found : Pivot.ofExpression? tokens = some pivot) (incomplete : ¬pivot.IsBetween) :
    tokens.Reports pivot.before.length pivot := by
  have inside : pivot.IsIn tokens := Pivot.of_expression_eq_some found
  have chosen := chosen_of_pivot found
  refine ⟨inside, incomplete, fun other otherInside precedes => ?_, ?_⟩
  · exfalso
    rcases precedes with ⟨left, leads⟩ | ⟨right, follows⟩
    · have passed := chosen.not_leads (Pivot.mem_before otherInside inside left)
      rw [leads] at passed
      contradiction
    · have leads := chosen.leads (Pivot.mem_after otherInside inside right)
      rw [follows] at leads
      contradiction
  · have none : pivot.earlier = 0 := by
      refine List.countP_eq_zero.mpr fun token member leads => ?_
      cases token with
      | number numeral => contradiction
      | resultMark => contradiction
      | operator other =>
          have passed := chosen.not_leads member
          simp [Token.operator?, passed] at leads
    rw [none]
    rfl

/-- Whatever is reported after a step that succeeds was incomplete before it. -/
theorem exists_reports_step {tokens shorter : Expression} {position : Nat} {kept : Pivot}
    (stepped : step tokens = .ok shorter) (reports : shorter.Reports position kept) :
    ∃ pivot, tokens.Reports position pivot := by
  obtain ⟨contraction, rfl, rfl, chosen⟩ := exists_contraction stepped
  obtain ⟨pivot, spares⟩ := contraction.exists_spared_before reports.inside
  have inside := spares.is_in.1
  refine ⟨pivot, inside, ?_, fun other otherInside precedes => ?_, ?_⟩
  · rw [spares.is_between_iff]
    exact reports.incomplete
  · rcases contraction.taken_or_spared otherInside with rfl | ⟨otherKept, sparesOther⟩
    · exact ⟨_, _, _, _, _, rfl⟩
    · rw [sparesOther.is_between_iff]
      exact reports.first otherKept sparesOther.is_in.2
        ((sparesOther.precedes_iff spares).mp precedes)
  · -- What stands to the right of the result is taken after it: its count grows with its position.
    have leads : kept.before.length < contraction.start.length ∨
        contraction.sign.leads kept.sign = true := by
      rcases spares.position with ⟨ahead, same⟩ | ⟨behind, moved⟩
      · exact .inl (same ▸ ahead)
      · right
        rw [← spares.sign_eq]
        have further : contraction.taken.before.length < pivot.before.length := by
          rw [moved, Contraction.taken, List.length_append, List.length_singleton]
          omega
        exact chosen.leads (Pivot.mem_after inside contraction.taken_is_in further)
    have shifted := spares.earlier_eq leads
    have counted := reports.position
    omega

theorem LeadsTo.eq_of_mark {tokens reached : Expression} (passage : LeadsTo tokens reached)
    (mark : reached = [.resultMark]) : tokens = [.resultMark] := by
  induction passage with
  | refl tokens => exact mark
  | step stepped later induction =>
      obtain ⟨contraction, -, rest, -⟩ := exists_contraction stepped
      rw [induction mark] at rest
      simp [Contraction.shorter, List.singleton_eq_append_iff] at rest

/-- Back from the step that stops to the expression that was given, one step at a time. -/
theorem LeadsTo.exists_reports {tokens reached : Expression} {position : Nat} {last : Pivot}
    (passage : LeadsTo tokens reached) (reports : reached.Reports position last) :
    ∃ pivot, tokens.Reports position pivot := by
  induction passage with
  | refl tokens => exact ⟨last, reports⟩
  | step stepped later induction =>
      obtain ⟨kept, reports⟩ := induction reports
      exact exists_reports_step stepped reports

/-- The order of operators leaves one that can be reported, whatever the position. -/
theorem Reports.unique {tokens : Expression} {position otherPosition : Nat} {pivot other : Pivot}
    (reports : tokens.Reports position pivot) (others : tokens.Reports otherPosition other) :
    other = pivot := by
  by_cases same : other.before.length = pivot.before.length
  · exact Pivot.eq_of_position others.inside reports.inside same
  · rcases Pivot.precedes_or_precedes same with earlier | later
    · exact absurd (reports.first other others.inside earlier) others.incomplete
    · exact absurd (others.first pivot reports.inside later) reports.incomplete

theorem Reports.misses_operand {tokens : Expression} {position : Nat} {pivot : Pivot}
    (reports : tokens.Reports position pivot) :
    tokens.MissesOperand (position + 2 * pivot.earlier) := by
  rw [← reports.position]
  refine ⟨pivot.sign, reports.inside.get, ?_⟩
  have shape := reports.inside
  have before : tokens.take pivot.before.length = pivot.before := by
    rw [shape, List.take_left]
  have after : tokens.drop (pivot.before.length + 1) = pivot.after := by
    rw [shape, List.drop_append]
    simp
  rw [before, after]
  exact reports.incomplete

/-- A missing operand is reported for the first operator, in the order in which operators are
taken, that has no number on one of its sides in the expression as it was given. The position is
two less than its own for each operator that was taken earlier on its left, so it is right where
there was none. The one other report is for a result mark alone, which is no operator. -/
theorem position_of_missing_operand {tokens : Expression} {position : Nat}
    (failed : tokens.reduce = .error (.missingOperand position)) :
    (tokens = [.resultMark] ∧ position = 0) ∨
      ∃! pivot, tokens.Reports position pivot ∧
        tokens.MissesOperand (position + 2 * pivot.earlier) := by
  have unique {pivot : Pivot} (reports : tokens.Reports position pivot) :
      ∃! pivot, tokens.Reports position pivot ∧
        tokens.MissesOperand (position + 2 * pivot.earlier) :=
    ⟨pivot, ⟨reports, reports.misses_operand⟩, fun _ others => reports.unique others.1⟩
  obtain ⟨reached, passage, inStep | stuck⟩ := exists_failure failed
  · obtain ⟨last, found, incomplete, rfl⟩ := incomplete_of_step inStep
    obtain ⟨pivot, reports⟩ := passage.exists_reports (reports_pivot found incomplete)
    exact .inr (unique reports)
  · cases stuck with
    | resultMark => exact .inl ⟨passage.eq_of_mark rfl, rfl⟩
    | operator sign =>
        have found : Pivot.ofExpression? [.operator sign] = some ⟨[], sign, []⟩ := by
          cases sign <;> rfl
        have incomplete : ¬Pivot.IsBetween ⟨[], sign, []⟩ := by
          rw [Pivot.is_between_iff]
          simp
        obtain ⟨pivot, reports⟩ := passage.exists_reports (reports_pivot found incomplete)
        exact .inr (unique reports)

/-- Behind a product that is formed, in front of a sum that is not. -/
theorem position_of_missing_operand_shifted :
    ∃ (tokens : Expression) (pivot : Pivot), tokenize "1 x 2 + 3 - x 4".toList = .ok tokens ∧
      tokens.reduce = .error (.missingOperand 4) ∧ tokens.Reports 4 pivot ∧
      pivot.before.length = 6 ∧ tokens.MissesOperand 6 := by
  let one : Numeral := ⟨['1'], ⟨false, 1, 0⟩, by decide⟩
  let two : Numeral := ⟨['2'], ⟨false, 2, 0⟩, by decide⟩
  let three : Numeral := ⟨['3'], ⟨false, 3, 0⟩, by decide⟩
  let four : Numeral := ⟨['4'], ⟨false, 4, 0⟩, by decide⟩
  let tokens : Expression := [.number one, .operator .multiply, .number two, .operator .add,
    .number three, .operator .subtract, .operator .multiply, .number four]
  have failed : tokens.reduce = .error (.missingOperand 4) := by decide +kernel
  obtain ⟨lone, -⟩ | ⟨pivot, ⟨reports, misses⟩, -⟩ := position_of_missing_operand failed
  · simp [tokens] at lone
  · have counted := reports.position
    have place := reports.inside.get
    have bound : pivot.before.length < 8 := (List.getElem?_eq_some_iff.mp place).1
    have once : pivot.earlier = 1 := by
      by_contra other
      have none : pivot.before.length = 4 := by omega
      rw [none] at place
      cases place
    rw [once] at counted misses
    exact ⟨tokens, pivot, ok_of_to_option (by decide +kernel), failed, reports, counted, misses⟩

/-- The sum in front is whole, and its sign stands where the second one is reported; and the mark
that is reported alone is no operator. -/
theorem position_of_remainder :
    (∃ sum : Expression, tokenize "1 + 2 +".toList = .ok sum ∧
      sum.reduce = .error (.missingOperand 1) ∧ ¬sum.MissesOperand 1 ∧ sum.MissesOperand 3) ∧
    ∃ mark : Expression, tokenize "=".toList = .ok mark ∧
      mark.reduce = .error (.missingOperand 0) ∧ ¬mark.MissesOperand 0 := by
  let one : Numeral := ⟨['1'], ⟨false, 1, 0⟩, by decide⟩
  let two : Numeral := ⟨['2'], ⟨false, 2, 0⟩, by decide⟩
  let sum : Expression := [.number one, .operator .add, .number two, .operator .add]
  refine ⟨⟨sum, ok_of_to_option (by decide +kernel), by decide +kernel, ?_, ?_⟩,
    [.resultMark], ok_of_to_option (by decide +kernel), by decide +kernel, ?_⟩
  · rintro ⟨sign, -, incomplete⟩
    exact incomplete ⟨[], one, sign, two, [.operator .add], rfl⟩
  · refine ⟨.add, rfl, ?_⟩
    rw [Pivot.is_between_iff]
    rintro ⟨-, right, head⟩
    cases head
  · rintro ⟨sign, token, -⟩
    cases token

end Expression

end Keypad
