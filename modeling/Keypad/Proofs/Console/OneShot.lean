import Keypad.Proofs.Console.Interactive
import Keypad.Proofs.Display.Opening
import Keypad.Proofs.Listener.Evaluation

/-!
One-shot use. Key arguments are read twice, to check them and to evaluate them. As both readings are
of the same text, the evaluation can only fail for a key that was refused, and what is printed
depends on the keys alone. The input is read after an evaluation that succeeded and only if it is
asked for, on a calculator that knows nothing of the key arguments.
-/

namespace Keypad

theorem evaluate_text_of_keys {text : List Char} {keys : List Key}
    (read : parseKeys text = .ok keys) :
    evaluateText text = (evaluateKeys keys).mapError .rejected := by
  rw [evaluateText, read]
  rfl

theorem newline_not_in_evaluated {keys : List Key} {display : List Char}
    (evaluated : evaluateKeys keys = .ok display) : '\n' ∉ display := by
  rw [evaluate_keys_eq] at evaluated
  obtain ⟨after, pressed, rfl⟩ := ok_of_map evaluated
  intro member
  rcases (Reachable.new.press_all pressed).solid '\n' member with space | solid
  · contradiction
  · contradiction

namespace Console

/-- The run prints one line on the error stream and fails. It is over before it waits for any
input. -/
structure FailsUnread (settings : Settings) (message : String) : Prop where
  fails : ∀ input, settings.execute input = ⟨[.error ("Error: " ++ message)], .failure⟩
  unread : settings.opening = .finish ⟨[.error ("Error: " ++ message)], .failure⟩

def Transcript.after (lines : List Line) (transcript : Transcript) : Transcript :=
  ⟨lines ++ transcript.lines, transcript.status⟩

/-- The run prints the display first. If the input is to be read too, all that follows is what a run
without key arguments makes of the same input. -/
structure PrintsFirst (settings : Settings) (display : List Char) : Prop where
  one_line : '\n' ∉ display
  alone : settings.interactive = false →
    settings.opening = .finish ⟨[.output (String.ofList display)], .success⟩ ∧
    ∀ input, settings.execute input = ⟨[.output (String.ofList display)], .success⟩
  followed : settings.interactive = true → ∀ plain : Settings, plain.keys = [] →
    ∀ input, settings.execute input =
      (plain.execute input).after [.output (String.ofList display)]

theorem interact_new (printed : List Line) (lines : List (List UInt8)) :
    interact (Screen.new printed) lines = (interact (Screen.new []) lines).after printed := by
  by_cases broken : Breaks lines
  · rw [interact_of_breaks printed broken, interact_of_breaks [] broken]
    rfl
  · rw [interact_of_not_breaks printed broken, interact_of_not_breaks [] broken]
    rfl

namespace Settings

variable {settings : Settings}

theorem reads_input_of_keys (given : settings.keys ≠ []) :
    settings.readsInput = settings.interactive := by
  rw [readsInput, List.isEmpty_eq_false_iff.mpr given, Bool.or_false]

theorem evaluate_of_unknown_key (given : settings.keys ≠ []) {cause : UnknownKey}
    (unread : parseKeys settings.keyText = .error cause) :
    settings.evaluate = .error (.invalidKeys cause) := by
  rw [evaluate, List.isEmpty_eq_false_iff.mpr given, if_neg Bool.false_ne_true, unread]
  rfl

/-- What the key arguments print depends on their keys alone. -/
theorem evaluate_of_keys (given : settings.keys ≠ []) {keys : List Key}
    (read : parseKeys settings.keyText = .ok keys) :
    settings.evaluate = ((evaluateKeys keys).mapError fun reason =>
      .notEvaluated (.rejected reason)).map fun display => [.output (String.ofList display)] := by
  rw [evaluate, List.isEmpty_eq_false_iff.mpr given, if_neg Bool.false_ne_true, read,
    evaluate_text_of_keys read]
  cases evaluateKeys keys with
  | error reason => rfl
  | ok display => rfl

theorem opening_of_same_keys {other : Settings} (given : settings.keys ≠ [])
    (otherGiven : other.keys ≠ []) (alike : other.interactive = settings.interactive)
    {keys : List Key} (read : parseKeys settings.keyText = .ok keys)
    (otherRead : parseKeys other.keyText = .ok keys) : other.opening = settings.opening := by
  rw [opening, opening, evaluate_of_keys given read, evaluate_of_keys otherGiven otherRead,
    reads_input_of_keys given, reads_input_of_keys otherGiven, alike]

theorem execute_of_finished {transcript : Transcript}
    (finished : settings.opening = .finish transcript) (input : List UInt8) :
    settings.execute input = transcript := by
  rw [execute, finished]

theorem execute_of_no_keys (noKeys : settings.keys = []) (input : List UInt8) :
    settings.execute input = interact (Screen.new []) (inputLines input) := by
  refine execute_of_reads ?_ (evaluate_of_no_keys noKeys) input
  rw [readsInput, noKeys, List.isEmpty_nil, Bool.or_true]

theorem fails_unread {failure : Failure} (failed : settings.evaluate = .error failure) :
    FailsUnread settings failure.message := by
  have finished : settings.opening = .finish ⟨[failure.line], .failure⟩ := by
    rw [opening, failed]
  exact ⟨execute_of_finished finished, finished⟩

theorem prints_first (given : settings.keys ≠ []) {keys : List Key} {display : List Char}
    (read : parseKeys settings.keyText = .ok keys) (evaluated : evaluateKeys keys = .ok display) :
    PrintsFirst settings display := by
  have printed := evaluate_of_keys given read
  rw [evaluated] at printed
  refine ⟨newline_not_in_evaluated evaluated, fun alone => ?_, fun followed plain noKeys input => ?_⟩
  · have finished : settings.opening = .finish ⟨[.output (String.ofList display)], .success⟩ := by
      rw [opening, printed, reads_input_of_keys given, alone]
      rfl
    exact ⟨finished, execute_of_finished finished⟩
  · have reads := (reads_input_of_keys given).trans followed
    rw [execute_of_reads reads printed, execute_of_no_keys noKeys, interact_new]

end Settings

/-- Key arguments that are no keys fail for the first character that is none. Others fail only for
the reason of a refused key; both leave the input unread. Otherwise the display of the evaluation is
printed first, and the input is answered as without key arguments. Settings with the same keys,
which ask for the input alike, lead to the same output. -/
theorem one_shot {settings : Settings} (given : settings.keys ≠ []) :
    (∀ cause, parseKeys settings.keyText = .error cause →
      FailsUnread settings ("Invalid key sequence: " ++ cause.message)) ∧
    (∀ keys, parseKeys settings.keyText = .ok keys →
      (∃ reason : Rejection, evaluateText settings.keyText = .error (.rejected reason) ∧
        FailsUnread settings
          ("Could not evaluate the key sequence: " ++ reason.alert ++ ": " ++ reason.message)) ∨
      ∃ display, evaluateText settings.keyText = .ok display ∧ PrintsFirst settings display) ∧
    ∀ keys (other : Settings), parseKeys settings.keyText = .ok keys → other.keys ≠ [] →
      other.interactive = settings.interactive → parseKeys other.keyText = .ok keys →
      ∀ input, other.execute input = settings.execute input := by
  refine ⟨fun cause unread => ?_, fun keys read => ?_, ?_⟩
  · exact Settings.fails_unread (Settings.evaluate_of_unknown_key given unread)
  · have twice := evaluate_text_of_keys read
    have once := Settings.evaluate_of_keys given read
    cases evaluated : evaluateKeys keys with
    | error reason =>
        rw [evaluated] at twice once
        exact .inl ⟨reason, twice, Settings.fails_unread once⟩
    | ok display =>
        rw [evaluated] at twice
        exact .inr ⟨display, twice, Settings.prints_first given read evaluated⟩
  · intro keys other read otherGiven alike otherRead input
    have same := Settings.opening_of_same_keys given otherGiven alike read otherRead
    rw [Settings.execute, Settings.execute, same]

/-- A result that key arguments have kept is not there for the input, where the operator comes first
and is refused. -/
theorem one_shot_kept :
    PrintsFirst ⟨true, none, ["2+3", "=K"]⟩ ['5'] ∧
      Settings.execute ⟨true, none, ["2+3", "=K"]⟩ "+1".toUTF8.data.toList =
        ⟨[.output "5", .error "Error: This operation is impossible", .output "1"], .success⟩ := by
  let settings : Settings := ⟨true, none, ["2+3", "=K"]⟩
  let keys : List Key := [.digit 2, .operator .add, .digit 3, .equals, .keep]
  have read : parseKeys settings.keyText = .ok keys := rfl
  have evaluated : evaluateText settings.keyText = .ok ['5'] := ok_of_to_option (by decide +kernel)
  have given : settings.keys ≠ [] := List.cons_ne_nil _ _
  obtain ⟨-, evaluation, -⟩ := one_shot given
  rcases evaluation keys read with ⟨reason, refused, -⟩ | ⟨display, shown, first⟩
  · rw [evaluated] at refused
    contradiction
  · obtain rfl := Except.ok.inj (evaluated.symm.trans shown)
    refine ⟨first, ?_⟩
    rw [first.followed rfl (.ofKeys []) rfl]
    decide +kernel

end Console

end Keypad
