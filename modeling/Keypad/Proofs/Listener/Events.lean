import Keypad.Calculator.Listener

/-!
The events of a run. Each operation is one event, whatever the listener makes of it, so what a
listener holds after a run is its start with the events of the run taken in, in their order. A
refusal changes no display, so the last display among the events is always that of the calculator.
-/

namespace Keypad

namespace Event

def isAlert : Event → Bool
  | display _ => false
  | alert _ _ => true

def ofRejection (reason : Rejection) : Event := .alert reason.title reason.message

def shown? : Event → Option (List Char)
  | display text => some text
  | alert _ _ => none

/-- The display that was shown last, or the one given where none was. -/
def lastShownFrom (display : List Char) (events : List Event) : List Char :=
  (events.filterMap shown?).getLastD display

def lastShown (events : List Event) : List Char := lastShownFrom [] events

end Event

namespace Calculator

def events (calculator : Calculator) : List Operation → List Event
  | [] => []
  | operation :: operations =>
      .ofOutcome (calculator.perform operation) :: events (calculator.next operation) operations

section Steps

variable {calculator after : Calculator} {operation : Operation} {reason : Rejection}
  (operations : List Operation)

theorem events_of_accepted (accepted : calculator.perform operation = .ok after) :
    calculator.events (operation :: operations) =
      .display after.display :: after.events operations := by
  rw [events, next_of_accepted accepted, accepted]
  rfl

theorem events_of_refused (refused : calculator.perform operation = .error reason) :
    calculator.events (operation :: operations) =
      .ofRejection reason :: calculator.events operations := by
  rw [events, next_of_refused refused, refused]
  rfl

theorem run_of_accepted (accepted : calculator.perform operation = .ok after) :
    calculator.run (operation :: operations) = after.run operations := by
  rw [run_cons, next_of_accepted accepted]

theorem run_of_step_refused (refused : calculator.perform operation = .error reason) :
    calculator.run (operation :: operations) = calculator.run operations := by
  rw [run_cons, next_of_refused refused]

end Steps

theorem length_events (calculator : Calculator) (operations : List Operation) :
    (calculator.events operations).length = operations.length := by
  induction operations generalizing calculator with
  | nil => rfl
  | cons operation operations induction =>
      rw [events, List.length_cons, induction, List.length_cons]

theorem take_events (calculator : Calculator) (operations : List Operation) (count : Nat) :
    (calculator.events operations).take count = calculator.events (operations.take count) := by
  induction operations generalizing calculator count with
  | nil => rw [List.take_nil, events, List.take_nil]
  | cons operation operations induction =>
      cases count with
      | zero => rfl
      | succ count =>
          rw [events, List.take_succ_cons, induction, List.take_succ_cons, events]

/-- The last display that was shown is the display. The induction starts from any display: an
accepted operation shows the next one, a refused one leaves it as it is. -/
theorem last_shown_from_events (calculator : Calculator) (operations : List Operation) :
    Event.lastShownFrom calculator.display (calculator.events operations) =
      (calculator.run operations).display := by
  induction operations generalizing calculator with
  | nil => rfl
  | cons operation operations induction =>
      cases performed : calculator.perform operation with
      | ok after =>
          rw [events_of_accepted operations performed, run_of_accepted operations performed,
            ← induction after, Event.lastShownFrom, List.filterMap_cons, Event.shown?,
            List.getLastD_cons]
          rfl
      | error reason =>
          rw [events_of_refused operations performed, run_of_step_refused operations performed]
          exact induction calculator

end Calculator

namespace Monitored

variable {State : Type}

theorem run_eq (listener : Listener State) (monitored : Monitored State)
    (operations : List Operation) :
    monitored.run listener operations =
      ⟨monitored.calculator.run operations,
        (monitored.calculator.events operations).foldl listener.hear monitored.heard⟩ := by
  induction operations generalizing monitored with
  | nil => rfl
  | cons operation operations induction => exact induction (monitored.perform listener operation)

end Monitored

theorem Listener.kept {Kept : Type} (write : Event → Kept) (before : List Kept)
    (events : List Event) :
    events.foldl (fun kept event => kept ++ [write event]) before = before ++ events.map write := by
  rw [List.map_eq_flatMap]
  exact List.foldl_append_eq_append

def recordKeys (keys : List Key) : List Event :=
  (keys.foldl (Monitored.press Listener.recorder) (Monitored.new [])).heard

theorem record_keys_eq (keys : List Key) :
    recordKeys keys = Calculator.new.events (keys.map Key.operation) := by
  have pressed : keys.foldl (Monitored.press Listener.recorder) (Monitored.new []) =
      (Monitored.new []).run Listener.recorder (keys.map Key.operation) := by
    rw [Monitored.run, List.foldl_map]
    rfl
  have kept := Listener.kept id [] (Calculator.new.events (keys.map Key.operation))
  rw [List.map_id, List.nil_append] at kept
  rw [recordKeys, pressed, Monitored.run_eq]
  exact kept

end Keypad
