import Keypad.Proofs.Reduction.Position
import Mathlib.Data.Nat.PSub

/-!
Reduction as a loop over positions. A round searches the tokens for the position of the next
operator, looks up the tokens on both sides of it, and puts the result in the place of the three.
In a malformed expression the operator may stand first or last, and a position beside it would be
out of range. No round comes to that: the loop has the outcome of the reduction, and it has it
after at most half as many rounds as there are tokens.
-/

namespace Keypad

theorem Numeral.exists_read_of_displayed {value : Binary64} {text : List Char}
    (shown : value.displayText = .ok text) :
    ∃ numeral, read text = .ok numeral ∧ numeral.literal = text := by
  obtain ⟨number, -, rfl⟩ := ok_of_map shown
  exact ⟨ofDecimal number, read_text_of_decimal number, rfl⟩

/-- What an operation writes reads back, so no result is refused as a malformed number. -/
theorem Operator.rounded_reads (sign : Operator) (left right : Numeral) (cause : TokenError) :
    sign.rounded left right ≠ .error (.token cause) := by
  intro failed
  rcases error_of_rounded failed with other | ⟨value, other⟩
  · contradiction
  · contradiction

theorem Token.bind_numeral_eq_none {token : Option Token}
    (absent : ¬∃ numeral, token = some (.number numeral)) :
    token.bind Token.numeral? = none := by
  match token with
  | none => rfl
  | some (.number numeral) => exact absurd ⟨numeral, rfl⟩ absent
  | some (.operator sign) => rfl
  | some .resultMark => rfl

namespace Expression

/-- What stops the loop in the middle: a position out of range, or a round too many. -/
inductive Fault where
  | outOfRange
  | outOfRounds
  deriving DecidableEq

def pivotPosition? (tokens : Expression) : Option Nat :=
  (tokens.findIdx? fun token => token.operator?.any Operator.isPriority).or
    (tokens.findIdx? Token.isOperator)

/-- The number at a position, which the operator at the pivot is missing if there is none. -/
def operandAt (tokens : Expression) (pivot : Nat) (position : Option Nat) :
    Except ReductionError Numeral :=
  match (position.bind fun place => tokens[place]?).bind Token.numeral? with
  | some numeral => .ok numeral
  | none => .error (.missingOperand pivot)

/-- The result of the operator at the pivot. Nothing stands to the left of the first position, nor
to the right of the last. -/
def resultAt (tokens : Expression) (pivot : Nat) : Except ReductionError Numeral :=
  match tokens[pivot]?.bind Token.operator? with
  | none => .error (.noOperator tokens.length)
  | some sign => do
      let left ← operandAt tokens pivot pivot.ppred
      let right ← operandAt tokens pivot (some (pivot + 1))
      sign.compute left right

/-- Puts one token in the place of the pivot and its neighbours, all of which have to be there. -/
def splice (tokens : Expression) (pivot : Nat) (token : Token) : Except Fault Expression :=
  if 1 ≤ pivot ∧ pivot + 1 < tokens.length then
    .ok (tokens.take (pivot - 1) ++ token :: tokens.drop (pivot + 2))
  else .error .outOfRange

def round (tokens : Expression) : Except Fault (Except ReductionError Expression) :=
  match pivotPosition? tokens with
  | none => .ok (.error (.noOperator tokens.length))
  | some pivot =>
      match resultAt tokens pivot with
      | .error cause => .ok (.error cause)
      | .ok result => (splice tokens pivot (.number result)).map .ok

def loop (rounds : Nat) (tokens : Expression) : Except Fault (Except ReductionError Numeral) :=
  match tokens with
  | [] => .ok (.error (.noOperator 0))
  | [.number numeral] => .ok (.ok numeral)
  | [_] => .ok (.error (.missingOperand 0))
  | _ :: _ :: _ =>
      match rounds with
      | 0 => .error .outOfRounds
      | further + 1 =>
          match round tokens with
          | .error fault => .error fault
          | .ok (.error cause) => .ok (.error cause)
          | .ok (.ok shorter) => loop further shorter

theorem find_position (chosen : Operator → Bool) (tokens : Expression) :
    tokens.findIdx? (fun token => token.operator?.any chosen) =
      (Pivot.find? chosen tokens).map fun pivot => pivot.before.length := by
  induction tokens with
  | nil => rfl
  | cons token rest induction =>
      rw [List.findIdx?_cons, induction]
      cases token with
      | number numeral =>
          simp [Pivot.find?, Token.operator?, Pivot.push, Function.comp_def]
      | resultMark => simp [Pivot.find?, Token.operator?, Pivot.push, Function.comp_def]
      | operator sign =>
          rw [Pivot.find?]
          cases kind : chosen sign with
          | true => simp [Token.operator?, kind]
          | false => simp [Token.operator?, kind, Pivot.push, Function.comp_def]

theorem pivot_position (tokens : Expression) :
    tokens.pivotPosition? = (Pivot.ofExpression? tokens).map fun pivot => pivot.before.length := by
  have operators : Token.isOperator = fun token => token.operator?.any fun _ => true := by
    funext token
    cases token <;> rfl
  rw [pivotPosition?, operators, find_position, find_position, Pivot.ofExpression?, Option.map_or]

section Beside

variable {tokens : Expression} {pivot : Pivot} (inside : pivot.IsIn tokens)

include inside

theorem token_before :
    (pivot.before.length.ppred.bind fun place => tokens[place]?) = pivot.before.getLast? := by
  rw [inside]
  rcases List.eq_nil_or_concat pivot.before with empty | ⟨start, last, before⟩
  · rw [empty]
    rfl
  · rw [before, List.concat_eq_append, List.length_append, List.length_singleton, Nat.ppred_succ]
    simp

theorem token_after : tokens[pivot.before.length + 1]? = pivot.after.head? := by
  rw [inside, List.getElem?_append_right (Nat.le_succ _), Nat.succ_sub (Nat.le_refl _),
    Nat.sub_self, List.getElem?_cons_succ, List.head?_eq_getElem?]

theorem result_at_elsewhere (elsewhere : ¬pivot.IsBetween) :
    resultAt tokens pivot.before.length = .error (.missingOperand pivot.before.length) := by
  rw [Pivot.is_between_iff, not_and_or] at elsewhere
  simp only [resultAt, operandAt, inside.get, token_before inside, Option.bind_some,
    token_after inside, Token.operator?]
  rcases elsewhere with noLeft | noRight
  · rw [Token.bind_numeral_eq_none noLeft]
    rfl
  · rw [Token.bind_numeral_eq_none noRight]
    -- The left operand is looked up first; the error is the same on both sides.
    cases pivot.before.getLast?.bind Token.numeral? with
    | none => rfl
    | some left => rfl

end Beside

section Between

variable {tokens start rest : Expression} {sign : Operator} {left right : Numeral}
  (inside : Pivot.IsIn ⟨start ++ [Token.number left], sign, .number right :: rest⟩ tokens)

include inside

theorem result_at_between :
    resultAt tokens (start ++ [Token.number left]).length = sign.compute left right := by
  have operator := inside.get
  have before := token_before inside
  have after := token_after inside
  dsimp only at operator before after
  simp only [resultAt, operandAt, operator, before, after, Option.bind_some, Token.operator?,
    List.getLast?_concat, List.head?_cons, Token.numeral?]
  rfl

theorem splice_between (token : Token) :
    splice tokens (start ++ [Token.number left]).length token = .ok (start ++ token :: rest) := by
  have shape : tokens = start ++ ([.number left, .operator sign, .number right] ++ rest) := by
    rw [inside, List.append_assoc]
    rfl
  have room : 1 ≤ start.length + 1 ∧ start.length + 1 + 1 < tokens.length := by
    rw [shape, List.length_append, List.length_append]
    simp
    omega
  have kept : tokens.take (start.length + 1 - 1) = start := by
    rw [shape, Nat.add_sub_cancel, List.take_left]
  have behind : tokens.drop (start.length + 1 + 2) = rest := by
    rw [shape, Nat.add_assoc, List.drop_length_add_append]
    rfl
  rw [List.length_append, List.length_singleton, splice, if_pos room, kept, behind]

end Between

theorem round_eq_step (tokens : Expression) : tokens.round = .ok tokens.step := by
  rw [round, pivot_position, step]
  cases found : Pivot.ofExpression? tokens with
  | none => rfl
  | some pivot =>
      have inside : pivot.IsIn tokens := Pivot.of_expression_eq_some found
      by_cases between : pivot.IsBetween
      · obtain ⟨start, left, sign, right, rest, rfl⟩ := between
        simp only [Option.map_some, result_at_between inside, Pivot.resolve_between]
        cases sign.compute left right with
        | error cause => rfl
        | ok result =>
            simp only [splice_between inside]
            rfl
      · simp only [Option.map_some, result_at_elsewhere inside between,
          Pivot.resolve_elsewhere between]

theorem loop_of_short (rounds : Nat) {tokens : Expression} (short : tokens.length ≤ 1) :
    loop rounds tokens = .ok tokens.reduce := by
  match tokens, short with
  | [], _ => rw [loop.eq_def, reduce]
  | [.number numeral], _ => rw [loop.eq_def, reduce]
  | [.operator sign], _ => simp [loop.eq_def, reduce]
  | [.resultMark], _ => simp [loop.eq_def, reduce]

/-- A round costs two tokens, so half as many rounds as there are tokens are enough. -/
theorem loop_eq_reduce (rounds : Nat) (tokens : Expression)
    (enough : tokens.length ≤ 2 * rounds + 1) : loop rounds tokens = .ok tokens.reduce := by
  induction rounds generalizing tokens with
  | zero => exact loop_of_short 0 enough
  | succ rounds induction =>
      match tokens, enough with
      | [], _ => exact loop_of_short _ (Nat.zero_le 1)
      | [only], _ => exact loop_of_short _ (Nat.le_refl 1)
      | first :: second :: rest, enough =>
          rw [loop, round_eq_step, reduce_step]
          cases stepped : step (first :: second :: rest) with
          | error cause => rfl
          | ok shorter =>
              have length := step_length stepped
              exact induction shorter (by omega)

theorem range_of_splice {tokens shorter : Expression} {pivot : Nat} {token : Token}
    (spliced : tokens.splice pivot token = .ok shorter) :
    1 ≤ pivot ∧ pivot + 1 < tokens.length ∧ shorter.length + 2 = tokens.length := by
  rw [splice] at spliced
  split at spliced
  · rename_i room
    cases spliced
    refine ⟨room.1, room.2, ?_⟩
    rw [List.length_append, List.length_cons, List.length_take, List.length_drop]
    omega
  · contradiction

theorem splice_of_result {tokens : Expression} {pivot : Nat} {result : Numeral}
    (found : tokens.pivotPosition? = some pivot) (computed : tokens.resultAt pivot = .ok result) :
    ∃ shorter, tokens.splice pivot (.number result) = .ok shorter := by
  rw [pivot_position] at found
  obtain ⟨taken, taking, rfl⟩ := Option.map_eq_some_iff.mp found
  have inside : taken.IsIn tokens := Pivot.of_expression_eq_some taking
  by_cases between : taken.IsBetween
  · obtain ⟨start, left, sign, right, rest, rfl⟩ := between
    exact ⟨_, splice_between inside _⟩
  · rw [result_at_elsewhere inside between] at computed
    contradiction

theorem missing_of_operand {tokens : Expression} {pivot : Nat} {position : Option Nat}
    {cause : ReductionError} (failed : tokens.operandAt pivot position = .error cause) :
    cause = .missingOperand pivot := by
  rw [operandAt] at failed
  split at failed
  · contradiction
  · exact (Except.error.inj failed).symm

theorem result_at_reads (tokens : Expression) (pivot : Nat) (cause : TokenError) :
    tokens.resultAt pivot ≠ .error (.token cause) := by
  intro failed
  rw [resultAt] at failed
  split at failed
  · cases failed
  · rcases error_of_bind failed with first | ⟨left, -, later⟩
    · cases missing_of_operand first
    · rcases error_of_bind later with second | ⟨right, -, operation⟩
      · cases missing_of_operand second
      · rw [Operator.compute_eq_rounded] at operation
        exact Operator.rounded_reads _ _ _ _ operation

theorem reduce_reads (tokens : Expression) (cause : TokenError) :
    tokens.reduce ≠ .error (.token cause) := by
  intro failed
  obtain ⟨reached, -, inStep | stuck⟩ := exists_failure failed
  · cases step_eq_error inStep with
    | operation found computed => exact Operator.rounded_reads _ _ _ _ computed
  · cases stuck

/-- The outcome of a reduction is there after at most half as many rounds as there are tokens, and
no round leaves the range of its tokens, whether they are well formed or not: it is a step of the
reduction, and where it puts a result in, the pivot has a token on either side and two tokens less
are left. The text of a result always reads back, so no round fails for that. -/
theorem reduction_by_positions (tokens : Expression) :
    loop (tokens.length / 2) tokens = .ok tokens.reduce ∧ tokens.round = .ok tokens.step ∧
    (∀ pivot result, tokens.pivotPosition? = some pivot → tokens.resultAt pivot = .ok result →
      1 ≤ pivot ∧ pivot + 1 < tokens.length ∧
        ∃ shorter, tokens.splice pivot (.number result) = .ok shorter ∧
          shorter.length + 2 = tokens.length) ∧
    (∀ (value : Binary64) (text : List Char), value.displayText = .ok text →
      ∃ numeral, Numeral.read text = .ok numeral ∧ numeral.literal = text) ∧
    (∀ pivot cause, tokens.resultAt pivot ≠ .error (.token cause)) ∧
    ∀ cause, tokens.reduce ≠ .error (.token cause) := by
  refine ⟨loop_eq_reduce _ _ (by omega), round_eq_step tokens,
    fun pivot result found computed => ?_,
    fun value text shown => Numeral.exists_read_of_displayed shown, result_at_reads tokens,
    reduce_reads tokens⟩
  obtain ⟨shorter, spliced⟩ := splice_of_result found computed
  obtain ⟨left, right, length⟩ := range_of_splice spliced
  exact ⟨left, right, shorter, spliced, length⟩

/-- A product between a result mark and a sign. Its round is followed by one more, which finds an
operand missing. -/
theorem reduction_by_positions_malformed :
    ∃ (tokens : Expression) (two three six : Numeral), tokenize "= 2 x 3 +".toList = .ok tokens ∧
      tokens = [.resultMark, .number two, .operator .multiply, .number three, .operator .add] ∧
      loop 2 tokens = .ok (.error (.missingOperand 2)) ∧
      tokens.pivotPosition? = some 2 ∧ tokens.resultAt 2 = .ok six ∧
      (1 ≤ 2 ∧ 2 + 1 < tokens.length ∧ ∃ shorter,
        tokens.splice 2 (.number six) = .ok shorter ∧ shorter.length + 2 = tokens.length) ∧
      (two.value * three.value).displayText = .ok six.literal ∧
      ∃ numeral, Numeral.read six.literal = .ok numeral ∧ numeral.literal = six.literal := by
  let two : Numeral := ⟨['2'], ⟨false, 2, 0⟩, by decide⟩
  let three : Numeral := ⟨['3'], ⟨false, 3, 0⟩, by decide⟩
  let six : Numeral := ⟨['6'], ⟨false, 6, 0⟩, by decide⟩
  let tokens : Expression :=
    [.resultMark, .number two, .operator .multiply, .number three, .operator .add]
  have failed : tokens.reduce = .error (.missingOperand 2) := by decide +kernel
  have computed : tokens.resultAt 2 = .ok six := by decide +kernel
  have written : (two.value * three.value).displayText = .ok six.literal := by decide +kernel
  have half : tokens.length / 2 = 2 := by simp [tokens]
  obtain ⟨rounds, -, range, reads, -, -⟩ := reduction_by_positions tokens
  rw [failed, half] at rounds
  exact ⟨tokens, two, three, six, by decide +kernel, rfl, rounds, rfl, computed,
    range 2 six rfl computed, written, reads _ _ written⟩

end Expression

end Keypad
