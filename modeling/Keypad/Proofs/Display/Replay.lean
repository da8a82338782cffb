import Keypad.Proofs.Display.InPlace

/-!
Logs of what was asked of a display that is changed in place. A refused request is an entry of the
log and nothing else: the display goes on from where it was, so the entries that were accepted make
up the same log when only they are asked for.
-/

namespace Keypad

/-- An operation that is asked for, by itself or with a key. -/
inductive Request where
  | direct (operation : Operation)
  | pressed (key : Key)

namespace Request

def edit : Request → Edit (List Char)
  | direct operation => Edit.perform operation
  | pressed key => Edit.press key

def operation : Request → Operation
  | direct operation => operation
  | pressed key => key.operation

theorem edit_run (request : Request) (display : List Char) :
    request.edit.run display =
      Edit.settled display (Calculator.perform ⟨display⟩ request.operation) := by
  cases request with
  | direct operation => exact Edit.perform_run display operation
  | pressed key =>
      rw [edit, Edit.press_eq_perform]
      exact Edit.perform_run display key.operation

end Request

/-- A request with what was answered, and the displays on both sides of it. -/
structure Entry where
  request : Request
  before : List Char
  outcome : Except Rejection (List Char)
  after : List Char

namespace Entry

def make (display : List Char) (request : Request) : Entry :=
  match request.edit.run display with
  | .ok text after => ⟨request, display, .ok text, after⟩
  | .error reason after => ⟨request, display, .error reason, after⟩

def isAccepted (entry : Entry) : Bool := entry.outcome.isOk

/-- The outcome is that of the calculator. A refusal leaves the display as it was; an acceptance
answers the display that it leaves. -/
structure Settled (entry : Entry) : Prop where
  answered : entry.outcome =
    (Calculator.perform ⟨entry.before⟩ entry.request.operation).map Calculator.display
  refused : ∀ reason, entry.outcome = .error reason → entry.after = entry.before
  accepted : ∀ text, entry.outcome = .ok text → entry.after = text

variable {display : List Char} {request : Request}

theorem make_of_refused {reason : Rejection}
    (refused : Calculator.perform ⟨display⟩ request.operation = .error reason) :
    make display request = ⟨request, display, .error reason, display⟩ := by
  rw [make, request.edit_run, refused, Edit.settled]

theorem make_of_accepted {after : Calculator}
    (accepted : Calculator.perform ⟨display⟩ request.operation = .ok after) :
    make display request = ⟨request, display, .ok after.display, after.display⟩ := by
  rw [make, request.edit_run, accepted, Edit.settled]

theorem after_make (display : List Char) (request : Request) :
    (make display request).after = (Calculator.next ⟨display⟩ request.operation).display := by
  cases answer : Calculator.perform ⟨display⟩ request.operation with
  | error reason =>
      rw [make_of_refused answer, Calculator.next_of_refused answer]
  | ok after =>
      rw [make_of_accepted answer, Calculator.next_of_accepted answer]

theorem settled (display : List Char) (request : Request) : (make display request).Settled := by
  cases answer : Calculator.perform ⟨display⟩ request.operation with
  | error reason =>
      rw [make_of_refused answer]
      exact ⟨(congrArg (Except.map Calculator.display) answer).symm, fun _ _ => rfl, nofun⟩
  | ok after =>
      rw [make_of_accepted answer]
      exact ⟨(congrArg (Except.map Calculator.display) answer).symm, nofun,
        fun _ same => Except.ok.inj same⟩

end Entry

def log (display : List Char) : List Request → List Entry
  | [] => []
  | request :: requests =>
      let entry := Entry.make display request
      entry :: log entry.after requests

def displayAfter (display : List Char) (requests : List Request) : List Char :=
  requests.foldl (fun display request => (Entry.make display request).after) display

def acceptedLog (display : List Char) (requests : List Request) : List Entry :=
  (log display requests).filter Entry.isAccepted

section Steps

variable {display : List Char} {request : Request} (requests : List Request)

theorem accepted_log_of_refused {reason : Rejection}
    (refused : Calculator.perform ⟨display⟩ request.operation = .error reason) :
    acceptedLog display (request :: requests) = acceptedLog display requests := by
  rw [acceptedLog, log, Entry.make_of_refused refused]
  rfl

theorem accepted_log_of_accepted {after : Calculator}
    (accepted : Calculator.perform ⟨display⟩ request.operation = .ok after) :
    acceptedLog display (request :: requests) =
      ⟨request, display, .ok after.display, after.display⟩ ::
        acceptedLog after.display requests := by
  rw [acceptedLog, log, Entry.make_of_accepted accepted]
  rfl

end Steps

theorem settled_of_mem_log {display : List Char} {requests : List Request} :
    ∀ entry ∈ log display requests, entry.Settled := by
  induction requests generalizing display with
  | nil => exact nofun
  | cons request requests induction =>
      exact List.forall_mem_cons.mpr ⟨Entry.settled display request, induction⟩

/-- The accepted requests alone make up the accepted entries, and end in the same display. The
induction is over the requests on any display: a refused one leaves it, an accepted one moves it in
both logs. -/
theorem log_accepted (display : List Char) (requests : List Request) :
    log display ((acceptedLog display requests).map Entry.request) =
        acceptedLog display requests ∧
      displayAfter display ((acceptedLog display requests).map Entry.request) =
        displayAfter display requests := by
  induction requests generalizing display with
  | nil => exact ⟨rfl, rfl⟩
  | cons request requests induction =>
      cases answer : Calculator.perform ⟨display⟩ request.operation with
      | error reason =>
          have passed : displayAfter display (request :: requests) =
              displayAfter display requests := by
            rw [displayAfter, List.foldl_cons, Entry.make_of_refused answer]
            rfl
          rw [accepted_log_of_refused requests answer, passed]
          exact induction display
      | ok after =>
          rcases induction after.display with ⟨same, ending⟩
          rw [accepted_log_of_accepted requests answer, List.map_cons]
          constructor
          · rw [log, Entry.make_of_accepted answer, same]
          · rw [displayAfter, displayAfter, List.foldl_cons, List.foldl_cons,
              Entry.make_of_accepted answer]
            exact ending

theorem run_eq_display_after (display : List Char) (requests : List Request) :
    Calculator.run ⟨display⟩ (requests.map Request.operation) =
      ⟨displayAfter display requests⟩ := by
  induction requests generalizing display with
  | nil => rfl
  | cons request requests induction =>
      rw [List.map_cons, Calculator.run, List.foldl_cons, displayAfter, List.foldl_cons,
        Entry.after_make]
      exact induction _

/-- Refusals leave no trace. On a new calculator whose display is changed in place, every refused
request leaves the display as it was and every accepted one answers the display it leaves; and the
accepted requests alone, on another new calculator, are all accepted again, with the same answers
and the same displays between them, and end where the calculator ends that is asked for
everything. -/
theorem refusals_leave_no_trace (requests : List Request) :
    (∀ entry ∈ log Calculator.new.display requests, entry.Settled) ∧
      log Calculator.new.display
          ((acceptedLog Calculator.new.display requests).map Entry.request) =
        acceptedLog Calculator.new.display requests ∧
      displayAfter Calculator.new.display
          ((acceptedLog Calculator.new.display requests).map Entry.request) =
        displayAfter Calculator.new.display requests ∧
      Calculator.new.run (requests.map Request.operation) =
        ⟨displayAfter Calculator.new.display requests⟩ := by
  rcases log_accepted Calculator.new.display requests with ⟨same, ending⟩
  exact ⟨settled_of_mem_log, same, ending, run_eq_display_after _ requests⟩

end Keypad
