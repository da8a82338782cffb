import Keypad.Proofs.Display.Replay
import Keypad.Proofs.Listener.Events
import Mathlib.Data.List.Forall2

/-!
A calculator that is changed in place, with a listener beside it. A request is carried out on the
calculator first, and its answer is then handed to the listener: nothing but this answer tells the
listener what has become of the display. That the listener can follow the display all the same is a
fact about runs, because it needs that every refusal leaves the display as it was.
-/

namespace Keypad

/-- The display that operations write to, and what the listener has made of its events. -/
structure Panel (State : Type) where
  display : List Char
  heard : State

namespace Panel

variable {State : Type}

def new (start : State) : Panel State := ⟨Calculator.new.display, start⟩

def answer (edit : Edit (List Char)) : StateM (Panel State) (Except Rejection (List Char)) := do
  let panel ← get
  match edit.run panel.display with
  | .ok text after =>
      set { panel with display := after }
      return .ok text
  | .error reason after =>
      set { panel with display := after }
      return .error reason

def tell (listener : Listener State) (event : Event) : StateM (Panel State) Unit :=
  modify fun panel => { panel with heard := listener.hear panel.heard event }

def alert (listener : Listener State) (reason : Rejection) : StateM (Panel State) Unit :=
  tell listener (.alert reason.title reason.message)

def forward (listener : Listener State) : Except Rejection (List Char) → StateM (Panel State) Unit
  | .ok current => tell listener (.display current)
  | .error reason => alert listener reason

def ask (listener : Listener State) (request : Request) : StateM (Panel State) Unit := do
  let outcome ← answer request.edit
  forward listener outcome

def askAll (listener : Listener State) (requests : List Request) : StateM (Panel State) Unit :=
  forM requests (ask listener)

def ofMonitored (monitored : Monitored State) : Panel State :=
  ⟨monitored.calculator.display, monitored.heard⟩

section Answers

variable {edit : Edit (List Char)} {panel : Panel State} {text after : List Char}
  {reason : Rejection}

theorem answer_accepted (answered : edit.run panel.display = .ok text after) :
    (answer edit).run panel = (.ok text, ⟨after, panel.heard⟩) := by
  rw [answer, StateT.run_bind, StateT.run_get]
  simp only [pure_bind, answered]
  rfl

theorem answer_refused (answered : edit.run panel.display = .error reason after) :
    (answer edit).run panel = (.error reason, ⟨after, panel.heard⟩) := by
  rw [answer, StateT.run_bind, StateT.run_get]
  simp only [pure_bind, answered]
  rfl

end Answers

theorem ask_run (listener : Listener State) (request : Request) (monitored : Monitored State) :
    (ask listener request).run (ofMonitored monitored) =
      ((), ofMonitored (monitored.perform listener request.operation)) := by
  have settled := request.edit_run monitored.calculator.display
  rw [Monitored.perform, Calculator.next]
  cases performed : monitored.calculator.perform request.operation with
  | ok after =>
      have answered : (answer request.edit).run (ofMonitored monitored) =
          (.ok after.display, ⟨after.display, monitored.heard⟩) :=
        answer_accepted (settled.trans (congrArg (Edit.settled _) performed))
      rw [ask, StateT.run_bind, answered]
      rfl
  | error reason =>
      have answered : (answer request.edit).run (ofMonitored monitored) =
          (.error reason, ⟨monitored.calculator.display, monitored.heard⟩) :=
        answer_refused (settled.trans (congrArg (Edit.settled _) performed))
      rw [ask, StateT.run_bind, answered]
      rfl

theorem ask_all_run (listener : Listener State) (requests : List Request)
    (monitored : Monitored State) :
    (askAll listener requests).run (ofMonitored monitored) =
      ((), ofMonitored (monitored.run listener (requests.map Request.operation))) := by
  induction requests generalizing monitored with
  | nil => rfl
  | cons request requests induction =>
      rw [askAll, List.forM_cons, StateT.run_bind, ask_run]
      exact induction _

end Panel

/-- The event that a listener has to hear of a request: the whole display that it leaves, or the
alert of its refusal. -/
structure Entry.Raises (entry : Entry) (event : Event) : Prop where
  accepted : ∀ text, entry.outcome = .ok text → event = .display entry.after
  refused : ∀ reason, entry.outcome = .error reason →
    event = .alert reason.title reason.message

theorem Entry.raises_event (display : List Char) (request : Request) :
    (Entry.make display request).Raises
      (.ofOutcome (Calculator.perform ⟨display⟩ request.operation)) := by
  cases answer : Calculator.perform ⟨display⟩ request.operation with
  | ok after =>
      rw [make_of_accepted answer]
      exact ⟨fun _ _ => rfl, nofun⟩
  | error reason =>
      rw [make_of_refused answer]
      exact ⟨nofun, fun other same => by cases same; rfl⟩

theorem raises_events (display : List Char) (requests : List Request) :
    List.Forall₂ Entry.Raises (log display requests)
      (Calculator.events ⟨display⟩ (requests.map Request.operation)) := by
  induction requests generalizing display with
  | nil => exact .nil
  | cons request requests induction =>
      have later := induction (Entry.make display request).after
      rw [Entry.after_make] at later
      refine .cons (Entry.raises_event display request) ?_
      rw [Entry.after_make]
      exact later

/-- After the requests, a calculator without a listener and one with a listener, both changed in
place, hold the same display; the listener has heard the events and no others, one for each request,
and the display that it was shown last is the one they hold. So do the calculator that is a value,
and the monitored one. -/
structure Panel.InStep {State : Type} (listener : Listener State) (start : State)
    (requests : List Request) (events : List Event) : Prop where
  display : ((askAll listener requests).run (new start)).2.display =
    displayAfter Calculator.new.display requests
  heard : ((askAll listener requests).run (new start)).2.heard =
    events.foldl listener.hear start
  latest : Event.lastShown events = displayAfter Calculator.new.display requests
  counted : events.length = requests.length
  plain : Calculator.new.run (requests.map Request.operation) =
    ⟨displayAfter Calculator.new.display requests⟩
  monitored : (askAll listener requests).run (new start) =
    ((), ofMonitored ((Monitored.new start).run listener (requests.map Request.operation)))

theorem Panel.in_step {State : Type} (listener : Listener State) (start : State)
    (requests : List Request) :
    InStep listener start requests
      (Calculator.new.events (requests.map Request.operation)) := by
  have asked := ask_all_run listener requests (Monitored.new start)
  have run := run_eq_display_after Calculator.new.display requests
  have shown := Calculator.new.last_shown_from_events (requests.map Request.operation)
  have monitored : (askAll listener requests).run (new start) = _ := asked
  constructor
  · rw [monitored, Monitored.run_eq]
    exact congrArg Calculator.display run
  · rw [monitored, Monitored.run_eq]
    rfl
  · exact shown.trans (congrArg Calculator.display run)
  · rw [Calculator.length_events, List.length_map]
  · exact run
  · exact monitored

/-- A listener keeps in step with the calculator, whatever is asked for. Each request raises one
event, the new display or the alert of its refusal, and at every moment of the run the display is
that of a calculator without a listener, the listener has heard the events so far, one for each
request, and the last display among them is the one at the moment. -/
theorem listener_in_step {State : Type} (listener : Listener State) (start : State)
    (requests : List Request) :
    ∃ events : List Event,
      List.Forall₂ Entry.Raises (log Calculator.new.display requests) events ∧
      ∀ moment : Nat,
        Panel.InStep listener start (requests.take moment) (events.take moment) := by
  refine ⟨Calculator.new.events (requests.map Request.operation),
    raises_events Calculator.new.display requests, fun moment => ?_⟩
  rw [Calculator.take_events, ← List.map_take]
  exact Panel.in_step listener start (requests.take moment)

end Keypad
