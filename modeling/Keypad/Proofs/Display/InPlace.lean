import Keypad.Calculator.Basic

/-!
The operations on a display that is changed in place. An operation reads the display, writes to it
word by word and may fail between any two writes; a failure takes nothing back. That every operation
nevertheless changes the display as a whole or not at all is a fact about the order of its guards
and its writes. The answer of an operation that is accepted is the display it leaves.
-/

namespace Keypad

/-- What an operation does to the display. A failure keeps what was written before it. -/
abbrev Edit := EStateM Rejection (List Char)

namespace Edit

def write (text : List Char) : Edit Unit := modify (· ++ text)

def erase : Nat → Edit Unit
  | 0 => pure ()
  | count + 1 => do
      modify List.dropLast
      erase count

def accept : Edit (List Char) := get

def refuseIf (holds : Bool) (reason : Rejection) : Edit Unit :=
  if holds then throw reason else pure ()

def readTokens : Edit Expression := do
  match tokenize (← get) with
  | .ok tokens => return tokens
  | .error _ => throw .malformed

def appendDigits (digits : List Char) : Edit (List Char) := do
  let tokens ← readTokens
  refuseIf tokens.hasResult .operationHasResult
  refuseIf (!Text.isDigitString digits) .malformed
  write digits
  accept

def appendPoint : Edit (List Char) := do
  let tokens ← readTokens
  refuseIf tokens.hasResult .operationHasResult
  refuseIf tokens.isEmpty .malformed
  refuseIf tokens.lastHasPoint .decimalExists
  refuseIf tokens.lastIsOperator .malformed
  write ['.']
  accept

def appendOperator (sign : Operator) : Edit (List Char) := do
  let tokens ← readTokens
  refuseIf tokens.hasResult .operationHasResult
  refuseIf tokens.startsWithOperator .operationImpossible
  refuseIf tokens.lastEndsWithPoint .malformed
  refuseIf tokens.lastIsOperator .wrongOperator
  write [' ']
  write [sign.symbol]
  write [' ']
  accept

def appendSymbol (symbol : List Char) : Edit (List Char) :=
  match Operator.ofText? symbol with
  | some sign => appendOperator sign
  | none => throw .operationImpossible

def correct : Edit (List Char) := do
  let tokens ← readTokens
  refuseIf tokens.hasResult .operationHasResult
  let display ← get
  erase (if display.getLast? = some ' ' then 3 else 1)
  accept

def clear : Edit (List Char) := do
  set ([] : List Char)
  accept

def keepResult : Edit (List Char) := do
  let tokens ← readTokens
  refuseIf (!tokens.hasResult) .keeping
  match tokens.lastNumeral? with
  | some numeral =>
      set numeral.literal
      accept
  | none => throw .keeping

def evaluate : Edit (List Char) := do
  let tokens ← readTokens
  refuseIf (!tokens.hasEnoughTokens) .operationImpossible
  refuseIf (tokens.lastIsOperator || tokens.hasResult) .operationHasResult
  refuseIf tokens.dividesByZero .divideByZero
  refuseIf tokens.lastEndsWithPoint .malformed
  match tokens.reduce with
  | .ok numeral =>
      write [' ', '=', ' ']
      write numeral.literal
      accept
  | .error cause => throw cause.rejection

def perform : Operation → Edit (List Char)
  | .digits text => appendDigits text
  | .point => appendPoint
  | .operator sign => appendOperator sign
  | .symbol text => appendSymbol text
  | .correction => correct
  | .clear => clear
  | .keep => keepResult
  | .evaluate => evaluate

def press : Key → Edit (List Char)
  | .digit number => appendDigits (Nat.toDigits 10 number)
  | .point => appendPoint
  | .operator sign => appendOperator sign
  | .equals => evaluate
  | .correction => correct
  | .allClear => clear
  | .keep => keepResult

theorem press_eq_perform (key : Key) : press key = perform key.operation := by
  cases key with
  | _ => rfl

/-- What is left on the display and what is answered, as the outcome of the whole operation says. -/
def settled (display : List Char) :
    Except Rejection Calculator → EStateM.Result Rejection (List Char) (List Char)
  | .ok after => .ok after.display after.display
  | .error reason => .error reason display

theorem erase_run (count : Nat) (display : List Char) :
    (erase count).run display = .ok () (display.take (display.length - count)) := by
  induction count generalizing display with
  | zero => simp [erase, EStateM.run, pure, EStateM.pure]
  | succ count induction =>
      change (erase count).run display.dropLast = _
      rw [induction, List.length_dropLast, List.dropLast_eq_take, List.take_take]
      congr 2
      omega

section Guards

variable {display : List Char} {later : Except Rejection Calculator}

/-- Reading leaves the display as it is, also where its text is no expression. -/
theorem run_of_read {next : Expression → Edit (List Char)}
    {later : Expression → Except Rejection Calculator}
    (same : ∀ tokens, (next tokens).run display = settled display (later tokens)) :
    (readTokens >>= next).run display =
      settled display (Calculator.expression ⟨display⟩ >>= later) := by
  have reading : readTokens.run display = (match tokenize display with
      | .ok tokens => pure tokens
      | .error _ => throw .malformed : Edit Expression).run display := rfl
  rw [EStateM.run_bind, reading, Calculator.expression, Calculator.tokens]
  cases tokenize display with
  | error cause => rfl
  | ok tokens => exact same tokens

theorem run_of_guard {holds : Bool} {reason : Rejection} {guards : List (Bool × Rejection)}
    {next : Edit (List Char)}
    (same : next.run display = settled display (Calculator.guardAll guards >>= fun _ => later)) :
    (refuseIf holds reason >>= fun _ => next).run display =
      settled display (Calculator.guardAll ((holds, reason) :: guards) >>= fun _ => later) := by
  rw [Calculator.guard_all_cons]
  cases holds with
  | true => rfl
  | false => exact same

end Guards

theorem guard_all_or (first second : Bool) (reason : Rejection) (guards : List (Bool × Rejection)) :
    Calculator.guardAll ((first, reason) :: (second, reason) :: guards) =
      Calculator.guardAll ((first || second, reason) :: guards) := by
  cases first with
  | true => rfl
  | false => rfl

/-! Every operation settles as the calculator says. -/

variable (display : List Char)

theorem append_digits_run (digits : List Char) :
    (appendDigits digits).run display =
      settled display (Calculator.appendDigits ⟨display⟩ digits) := by
  apply run_of_read
  intro tokens
  apply run_of_guard
  apply run_of_guard
  rfl

theorem append_point_run :
    appendPoint.run display = settled display (Calculator.appendPoint ⟨display⟩) := by
  apply run_of_read
  intro tokens
  apply run_of_guard
  apply run_of_guard
  apply run_of_guard
  apply run_of_guard
  rfl

theorem append_operator_run (sign : Operator) :
    (appendOperator sign).run display =
      settled display (Calculator.appendOperator ⟨display⟩ sign) := by
  apply run_of_read
  intro tokens
  apply run_of_guard
  apply run_of_guard
  apply run_of_guard
  apply run_of_guard
  have written : display ++ [' '] ++ [sign.symbol] ++ [' '] =
      display ++ [' ', sign.symbol, ' '] := by simp
  exact congrArg (fun text => EStateM.Result.ok text text) written

theorem append_symbol_run (symbol : List Char) :
    (appendSymbol symbol).run display =
      settled display (Calculator.appendSymbol ⟨display⟩ symbol) := by
  rw [appendSymbol, Calculator.appendSymbol]
  cases Operator.ofText? symbol with
  | some sign => exact append_operator_run display sign
  | none => rfl

theorem correct_run : correct.run display = settled display (Calculator.correct ⟨display⟩) := by
  apply run_of_read
  intro tokens
  apply run_of_guard
  change ((erase _ >>= fun _ => accept).run display) = _
  rw [EStateM.run_bind, erase_run]
  rfl

theorem keep_result_run :
    keepResult.run display = settled display (Calculator.keepResult ⟨display⟩) := by
  apply run_of_read
  intro tokens
  apply run_of_guard
  cases tokens.lastNumeral? with
  | some numeral => rfl
  | none => rfl

/-- The reduction is behind all guards, and what it fails with is raised before anything is
written. -/
theorem evaluate_run :
    evaluate.run display = settled display (Calculator.evaluate ⟨display⟩) := by
  apply run_of_read
  intro tokens
  apply run_of_guard
  rw [guard_all_or]
  apply run_of_guard
  apply run_of_guard
  apply run_of_guard
  cases tokens.reduce with
  | error cause => rfl
  | ok numeral =>
      have written := List.append_assoc display [' ', '=', ' '] numeral.literal
      exact congrArg (fun text => EStateM.Result.ok text text) written

/-- Changed in place, the display ends as the calculator says: as the answer where the operation is
accepted, as it was where it is refused. -/
theorem perform_run (operation : Operation) :
    (perform operation).run display = settled display (Calculator.perform ⟨display⟩ operation) := by
  cases operation with
  | digits text => exact append_digits_run display text
  | point => exact append_point_run display
  | operator sign => exact append_operator_run display sign
  | symbol text => exact append_symbol_run display text
  | correction => exact correct_run display
  | clear => rfl
  | keep => exact keep_result_run display
  | evaluate => exact evaluate_run display

end Edit

end Keypad
