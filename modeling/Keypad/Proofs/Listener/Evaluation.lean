import Keypad.Proofs.Display.Typing
import Keypad.Proofs.Listener.Events

/-!
The evaluation of a text and a calculator with a listener. The evaluation stops at the first refusal
and asks for the result itself; a listener hears of every key, also behind a refusal. Still the two
agree: the evaluation succeeds where no alert is heard, with the display that was shown last, and
otherwise fails for the reason of the first alert.
-/

namespace Keypad

theorem Rejection.eq_of_message {reason other : Rejection} (same : reason.message = other.message) :
    reason = other := by
  cases reason with
  | _ => cases other <;> first | rfl | contradiction

theorem Event.of_rejection_inj {reason other : Rejection} :
    ofRejection reason = ofRejection other ↔ reason = other := by
  constructor
  · intro same
    exact Rejection.eq_of_message (Event.alert.inj same).2
  · exact congrArg ofRejection

/-- The keys, with an equals sign behind them where they end inside an expression. -/
def Key.finished (keys : List Key) : List Key :=
  if keys.getLast?.any isEntry then keys ++ [equals] else keys

theorem evaluate_keys_eq (keys : List Key) :
    evaluateKeys keys = (Calculator.new.pressAll (Key.finished keys)).map Calculator.display := by
  cases ending : keys.getLast?.any Key.isEntry with
  | false =>
      rw [evaluateKeys, Key.finished, ending, if_neg Bool.false_ne_true]
      cases Calculator.new.pressAll keys with
      | error reason => rfl
      | ok typed => rfl
  | true =>
      have equals (typed : Calculator) : typed.pressAll [.equals] = typed.evaluate := by
        rw [Calculator.press_all_cons]
        change (typed.evaluate >>= fun after => .ok after) = typed.evaluate
        cases typed.evaluate with
        | error reason => rfl
        | ok after => rfl
      rw [evaluateKeys, Key.finished, ending, if_pos rfl, Calculator.press_all_append]
      cases Calculator.new.pressAll keys with
      | error reason => rfl
      | ok typed =>
          rw [ok_bind, ok_bind, equals, if_pos rfl]
          cases typed.evaluate with
          | error reason => rfl
          | ok after => rfl

namespace Calculator

/-- Keys up to the first refusal, and the first alert among the events of all of them. The induction
is over the keys on any calculator: up to the refusal both go the same way. -/
theorem press_all_cases (calculator : Calculator) (keys : List Key) :
    (calculator.pressAll keys = .ok (calculator.run (keys.map Key.operation)) ∧
      (calculator.events (keys.map Key.operation)).find? Event.isAlert = none) ∨
    ∃ reason, calculator.pressAll keys = .error reason ∧
      (calculator.events (keys.map Key.operation)).find? Event.isAlert =
        some (.ofRejection reason) := by
  induction keys generalizing calculator with
  | nil => exact .inl ⟨rfl, rfl⟩
  | cons key keys induction =>
      rw [List.map_cons, press_all_cons, press]
      cases performed : calculator.perform key.operation with
      | error reason =>
          rw [events_of_refused _ performed]
          exact .inr ⟨reason, rfl, rfl⟩
      | ok after =>
          rw [events_of_accepted _ performed, run_of_accepted _ performed]
          exact induction after

theorem press_all_eq_ok (calculator after : Calculator) (keys : List Key) :
    calculator.pressAll keys = .ok after ↔
      (calculator.events (keys.map Key.operation)).find? Event.isAlert = none ∧
        calculator.run (keys.map Key.operation) = after := by
  rcases calculator.press_all_cases keys with ⟨accepted, quiet⟩ | ⟨reason, refused, alert⟩
  · rw [accepted, quiet, Except.ok.injEq]
    exact (and_iff_right rfl).symm
  · rw [refused, alert]
    exact iff_of_false nofun nofun

theorem press_all_eq_error (calculator : Calculator) (keys : List Key) (reason : Rejection) :
    calculator.pressAll keys = .error reason ↔
      (calculator.events (keys.map Key.operation)).find? Event.isAlert =
        some (.ofRejection reason) := by
  rcases calculator.press_all_cases keys with ⟨accepted, quiet⟩ | ⟨other, refused, alert⟩
  · rw [accepted, quiet]
    exact iff_of_false nofun nofun
  · rw [refused, alert, Except.error.injEq, Option.some.injEq, Event.of_rejection_inj]

end Calculator

/-- A text is evaluated as a listener hears of its keys. Its evaluation succeeds just where none of
the events is an alert, with the display that was shown last; and it fails for a reason just where
the first alert is that of the reason. -/
theorem evaluation_as_heard {text : List Char} {keys : List Key}
    (read : parseKeys text = .ok keys) :
    (∀ display, evaluateText text = .ok display ↔
      (∀ event ∈ recordKeys (Key.finished keys), event.isAlert = false) ∧
        Event.lastShown (recordKeys (Key.finished keys)) = display) ∧
    (∀ reason : Rejection, evaluateText text = .error (.rejected reason) ↔
      (recordKeys (Key.finished keys)).find? Event.isAlert =
        some (.alert reason.title reason.message)) := by
  have evaluated : evaluateText text =
      ((Calculator.new.pressAll (Key.finished keys)).map Calculator.display).mapError
        .rejected := by
    rw [evaluateText, read, ← evaluate_keys_eq]
    rfl
  have shown := Calculator.new.last_shown_from_events ((Key.finished keys).map Key.operation)
  rw [evaluated, record_keys_eq]
  constructor
  · intro display
    constructor
    · intro succeeded
      rcases ok_of_map (ok_of_map_error succeeded) with ⟨after, accepted, rfl⟩
      rcases (Calculator.press_all_eq_ok _ _ _).mp accepted with ⟨quiet, rfl⟩
      refine ⟨fun event member => ?_, shown⟩
      exact Bool.eq_false_iff.mpr (List.find?_eq_none.mp quiet event member)
    · rintro ⟨quiet, rfl⟩
      have silent : (Calculator.new.events ((Key.finished keys).map Key.operation)).find?
          Event.isAlert = none :=
        List.find?_eq_none.mpr fun event member => Bool.eq_false_iff.mp (quiet event member)
      rw [(Calculator.press_all_eq_ok _ _ _).mpr ⟨silent, rfl⟩]
      exact congrArg Except.ok shown.symm
  · intro reason
    apply Iff.trans _ (Calculator.press_all_eq_error _ _ reason)
    cases Calculator.new.pressAll (Key.finished keys) with
    | ok after => exact iff_of_false nofun nofun
    | error other =>
        change Except.error (EvaluationError.rejected other) = _ ↔ _
        rw [Except.error.injEq, Except.error.injEq, EvaluationError.rejected.injEq]

/-- A second operator is refused and ends the evaluation, while the listener hears the rest of the
keys, up to the sum that they leave. -/
theorem evaluation_as_heard_refused :
    ∃ keys, parseKeys "5+÷ AC 2+3".toList = .ok keys ∧
      evaluateText "5+÷ AC 2+3".toList = .error (.rejected .wrongOperator) ∧
      Event.lastShown (recordKeys (Key.finished keys)) = "2 + 3 = 5".toList := by
  let keys : List Key :=
    [.digit 5, .operator .add, .operator .divide, .allClear, .digit 2, .operator .add, .digit 3]
  have read : parseKeys "5+÷ AC 2+3".toList = .ok keys := rfl
  have heard : (recordKeys (Key.finished keys)).find? Event.isAlert =
      some (.alert "Error" "An operator already exists!") := by decide +kernel
  exact ⟨keys, read, ((evaluation_as_heard read).2 .wrongOperator).mpr heard, by decide +kernel⟩

end Keypad
