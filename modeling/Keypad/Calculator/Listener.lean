import Keypad.Calculator.Basic

/-!
A calculator with a listener. Every operation is one event for the listener: the new display
when it is accepted, the alert when it is refused.
-/

namespace Keypad

inductive Event where
  | display (text : List Char)
  | alert (title message : String)
  deriving DecidableEq

structure Listener (State : Type) where
  hear : State → Event → State

def Listener.recorder : Listener (List Event) := ⟨fun events event => events ++ [event]⟩

def Event.ofOutcome : Except Rejection Calculator → Event
  | .ok calculator => .display calculator.display
  | .error reason => .alert reason.title reason.message

structure Monitored (State : Type) where
  calculator : Calculator
  heard : State

namespace Monitored

variable {State : Type}

def new (start : State) : Monitored State := ⟨Calculator.new, start⟩

def perform (listener : Listener State) (monitored : Monitored State) (operation : Operation) :
    Monitored State :=
  ⟨monitored.calculator.next operation,
    listener.hear monitored.heard (.ofOutcome (monitored.calculator.perform operation))⟩

def press (listener : Listener State) (monitored : Monitored State) (key : Key) :
    Monitored State :=
  monitored.perform listener key.operation

def run (listener : Listener State) (monitored : Monitored State) (operations : List Operation) :
    Monitored State :=
  operations.foldl (perform listener) monitored

end Monitored

end Keypad
