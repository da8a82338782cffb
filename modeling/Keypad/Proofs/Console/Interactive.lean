import Keypad.Console.Settings
import Keypad.Proofs.Console.Lines
import Keypad.Proofs.Listener.Events

/-!
Interactive use as a whole. The lines of the input only matter through the keys that they spell, up
to the line that ends the run: the program prints what a listener hears of all these keys on one
calculator. So it is of no account how keys are divided into lines, as long as every line spells
some.
-/

namespace Keypad.Console

/-- The lines before the first that ends the run. -/
def processed (lines : List (List UInt8)) : List (List UInt8) :=
  lines.takeWhile fun line => ¬IsUnreadable line ∧ ¬IsStop line

def pressedKeys (lines : List (List UInt8)) : List Key := (processed lines).flatMap lineKeys

/-- A line that is not UTF-8 comes before any stop word. -/
def Breaks (lines : List (List UInt8)) : Prop :=
  ∃ earlier line later, lines = earlier ++ line :: later ∧ IsUnreadable line ∧
    ∀ other ∈ earlier, ¬IsStop other

theorem not_breaks_nil : ¬Breaks [] := by
  rintro ⟨earlier, line, later, same, -⟩
  exact List.append_ne_nil_of_right_ne_nil earlier (List.cons_ne_nil line later) same.symm

theorem breaks_cons {line : List UInt8} {lines : List (List UInt8)} :
    Breaks (line :: lines) ↔ IsUnreadable line ∨ ¬IsStop line ∧ Breaks lines := by
  constructor
  · rintro ⟨earlier, bad, later, same, unreadable, unstopped⟩
    cases earlier with
    | nil =>
        cases same
        exact .inl unreadable
    | cons first earlier =>
        cases same
        rcases List.forall_mem_cons.mp unstopped with ⟨first, earlier⟩
        exact .inr ⟨first, _, bad, later, rfl, unreadable, earlier⟩
  · rintro (unreadable | ⟨unstopped, earlier, bad, later, rfl, unreadable, others⟩)
    · exact ⟨[], line, lines, rfl, unreadable, by simp⟩
    · exact ⟨line :: earlier, bad, later, rfl, unreadable,
        List.forall_mem_cons.mpr ⟨unstopped, others⟩⟩

def decideBreaks : (lines : List (List UInt8)) → Decidable (Breaks lines)
  | [] => isFalse not_breaks_nil
  | _ :: lines =>
      have := decideBreaks lines
      decidable_of_iff _ breaks_cons.symm

instance : DecidablePred Breaks := decideBreaks

def printedKeys (keys : List Key) : List Line := (recordKeys keys).map Line.ofEvent

namespace Screen

theorem press_all_append (screen : Screen) (earlier later : List Key) :
    screen.pressAll (earlier ++ later) = (screen.pressAll earlier).pressAll later := by
  rw [pressAll, List.map_append]
  exact List.foldl_append

theorem heard_new (printed : List Line) (keys : List Key) :
    ((new printed).pressAll keys).heard = printed ++ printedKeys keys := by
  have kept := Listener.kept Line.ofEvent printed (Calculator.new.events (keys.map Key.operation))
  rw [pressAll, Monitored.run_eq, printedKeys, record_keys_eq]
  exact kept

end Screen

/-- A run over lines presses the keys of the processed ones, on any screen. The induction follows
the lines; each of them ends the run or leaves the screen that the rest starts on. -/
theorem interact_cases (screen : Screen) (lines : List (List UInt8)) :
    (Breaks lines ∧ interact screen lines =
      ⟨(screen.pressAll (pressedKeys lines)).heard ++ [Failure.unreadableInput.line],
        .failure⟩) ∨
    (¬Breaks lines ∧ interact screen lines =
      ⟨(screen.pressAll (pressedKeys lines)).heard, .success⟩) := by
  induction lines generalizing screen with
  | nil => exact .inr ⟨not_breaks_nil, rfl⟩
  | cons line lines induction =>
      rw [interact, pressedKeys, processed, breaks_cons]
      by_cases unreadable : IsUnreadable line
      · left
        rw [screen.turn_of_unreadable unreadable, List.takeWhile_cons_of_neg (by simp [unreadable])]
        exact ⟨.inl unreadable, rfl⟩
      · by_cases stop : IsStop line
        · right
          rw [screen.turn_of_stop stop, List.takeWhile_cons_of_neg (by simp [stop])]
          exact ⟨by simp [unreadable, stop], rfl⟩
        · rw [screen.turn_of_keys unreadable stop,
            List.takeWhile_cons_of_pos (by simp [unreadable, stop]), List.flatMap_cons,
            screen.press_all_append]
          simp only [unreadable, stop, not_false_eq_true, true_and, false_or]
          exact induction (screen.pressAll (lineKeys line))

section New

variable (printed : List Line) {lines : List (List UInt8)}

theorem interact_of_breaks (broken : Breaks lines) :
    interact (Screen.new printed) lines =
      ⟨printed ++ (printedKeys (pressedKeys lines) ++ [Failure.unreadableInput.line]),
        .failure⟩ := by
  rcases interact_cases (Screen.new printed) lines with ⟨-, run⟩ | ⟨unbroken, -⟩
  · rw [run, Screen.heard_new, List.append_assoc]
  · exact absurd broken unbroken

theorem interact_of_not_breaks (unbroken : ¬Breaks lines) :
    interact (Screen.new printed) lines =
      ⟨printed ++ printedKeys (pressedKeys lines), .success⟩ := by
  rcases interact_cases (Screen.new printed) lines with ⟨broken, -⟩ | ⟨-, run⟩
  · exact absurd broken unbroken
  · rw [run, Screen.heard_new]

end New

theorem interact_append {later others : List (List UInt8)}
    (same : ∀ screen, interact screen later = interact screen others) (screen : Screen)
    (lines : List (List UInt8)) :
    interact screen (lines ++ later) = interact screen (lines ++ others) := by
  induction lines generalizing screen with
  | nil => exact same screen
  | cons line lines induction =>
      rw [List.cons_append, List.cons_append, interact, interact]
      cases screen.turn line with
      | finish transcript => rfl
      | goOn changed => exact induction changed

theorem SpellsKeys.interact_cons {line : List UInt8} {keys : List Key}
    (spelled : SpellsKeys line keys) (screen : Screen) (lines : List (List UInt8)) :
    interact screen (line :: lines) = interact (screen.pressAll keys) lines := by
  rw [interact, screen.turn_of_keys spelled.not_unreadable spelled.not_stop, spelled.line_keys]

def pieces (input : List UInt8) : List (List UInt8) := input.splitOnP (· == newline)

theorem pieces_append (before behind : List UInt8) :
    pieces (before ++ newline :: behind) = pieces before ++ pieces behind :=
  List.splitOnP_append_cons before behind (beq_self_eq_true newline)

theorem pieces_of_alone {line : List UInt8} (alone : newline ∉ line) : pieces line = [line] := by
  apply List.splitOnP_eq_singleton
  intro byte member
  exact beq_eq_false_iff_ne.mpr fun same => alone (same ▸ member)

/-- The empty piece behind the last line end is no line; as one it would press nothing. -/
theorem interact_input_lines (screen : Screen) (input : List UInt8) :
    interact screen (inputLines input) = interact screen (pieces input) := by
  have empty : SpellsKeys [] [] := ⟨[], characters_eq_some.mpr rfl, rfl⟩
  change interact screen (if (pieces input).getLast? = some [] then (pieces input).dropLast
    else pieces input) = _
  by_cases last : (pieces input).getLast? = some []
  · rcases List.getLast?_eq_some_iff.mp last with ⟨lines, same⟩
    have dropped := interact_append (fun behind => empty.interact_cons behind []) screen lines
    rw [if_pos last, same, List.dropLast_concat, dropped]
    exact congrArg (interact screen) (List.append_nil lines).symm
  · rw [if_neg last]

/-- Two lines that follow each other and spell keys. A carriage return may stand before the line
end between them. -/
structure Neighbours where
  before : List UInt8
  line : List UInt8
  ending : List UInt8
  other : List UInt8
  behind : List UInt8
  begins : before = [] ∨ before.getLast? = some newline
  plain_ending : ending = [] ∨ ending = [carriageReturn]
  ends : behind = [] ∨ behind.head? = some newline
  line_alone : newline ∉ line
  other_alone : newline ∉ other
  line_spelled : ∃ keys, SpellsKeys line keys
  other_spelled : ∃ keys, SpellsKeys other keys

namespace Neighbours

def apart (lines : Neighbours) : List UInt8 :=
  lines.before ++ (lines.line ++ lines.ending ++ newline :: (lines.other ++ lines.behind))

def joined (lines : Neighbours) : List UInt8 :=
  lines.before ++ (lines.line ++ space :: lines.other ++ lines.behind)

theorem pieces_before (lines : Neighbours) :
    ∃ earlier, ∀ rest, pieces (lines.before ++ rest) = earlier ++ pieces rest := by
  rcases lines.begins with empty | last
  · exact ⟨[], fun rest => by rw [empty]; rfl⟩
  · rcases List.getLast?_eq_some_iff.mp last with ⟨front, same⟩
    refine ⟨pieces front, fun rest => ?_⟩
    rw [same, List.append_assoc]
    exact pieces_append front rest

theorem pieces_behind (lines : Neighbours) :
    ∃ later, ∀ line, newline ∉ line → pieces (line ++ lines.behind) = line :: later := by
  rcases lines.ends with empty | first
  · refine ⟨[], fun line alone => ?_⟩
    rw [empty, List.append_nil, pieces_of_alone alone]
  · rcases List.head?_eq_some_iff.mp first with ⟨rest, same⟩
    refine ⟨pieces rest, fun line alone => ?_⟩
    rw [same, pieces_append, pieces_of_alone alone]
    rfl

theorem ended_spelled (lines : Neighbours) {keys : List Key} (spelled : SpellsKeys lines.line keys) :
    SpellsKeys (lines.line ++ lines.ending) keys := by
  rcases lines.plain_ending with empty | carriage
  · rw [empty, List.append_nil]
    exact spelled
  · rw [carriage]
    exact spelled.with_return

theorem ending_alone (lines : Neighbours) : newline ∉ lines.line ++ lines.ending := by
  rcases lines.plain_ending with empty | carriage
  · rw [empty, List.append_nil]
    exact lines.line_alone
  · rw [carriage, List.mem_append]
    exact not_or.mpr ⟨lines.line_alone, by decide⟩

theorem joined_alone (lines : Neighbours) : newline ∉ lines.line ++ space :: lines.other := by
  rw [List.mem_append, List.mem_cons]
  exact not_or.mpr ⟨lines.line_alone, not_or.mpr ⟨by decide, lines.other_alone⟩⟩

theorem interact_joined (lines : Neighbours) (screen : Screen) :
    interact screen (inputLines lines.joined) = interact screen (inputLines lines.apart) := by
  rcases lines.pieces_before with ⟨earlier, before⟩
  rcases lines.pieces_behind with ⟨later, behind⟩
  rcases lines.line_spelled with ⟨keys, spelled⟩
  rcases lines.other_spelled with ⟨more, otherSpelled⟩
  have joinedPieces : pieces lines.joined =
      earlier ++ (lines.line ++ space :: lines.other) :: later := by
    rw [joined, before, behind _ lines.joined_alone]
  have apartPieces : pieces lines.apart =
      earlier ++ (lines.line ++ lines.ending) :: lines.other :: later := by
    rw [apart, before, pieces_append, pieces_of_alone lines.ending_alone,
      behind _ lines.other_alone]
    rfl
  rw [interact_input_lines, interact_input_lines, joinedPieces, apartPieces]
  -- The lines before are the same; they may end the run, or leave any screen to go on from.
  apply interact_append
  intro reached
  rw [(spelled.with_space otherSpelled).interact_cons,
    (lines.ended_spelled spelled).interact_cons, otherSpelled.interact_cons,
    reached.press_all_append]

end Neighbours

namespace Settings

variable {settings : Settings}

theorem evaluate_of_no_keys (noKeys : settings.keys = []) : settings.evaluate = .ok [] := by
  rw [evaluate, noKeys]
  rfl

theorem execute_of_reads {printed : List Line} (reads : settings.readsInput = true)
    (evaluated : settings.evaluate = .ok printed) (input : List UInt8) :
    settings.execute input = interact (Screen.new printed) (inputLines input) := by
  rw [execute, opening, evaluated]
  dsimp only
  rw [if_pos reads]

end Settings

/-- The input is processed line by line, up to a stop word or to a line that is not UTF-8. Whatever
stands on these lines, the program prints what a listener hears of their keys on one calculator,
behind the lines that key arguments may have printed. A line that is not UTF-8, before any stop
word, makes the run a failure, which is reported in one more line; otherwise it is a success. When
two lines that follow each other spell keys, they may as well stand on one line. -/
theorem interactive_as_pressed {settings : Settings} {printed : List Line}
    (reads : settings.readsInput = true) (evaluated : settings.evaluate = .ok printed) :
    (settings.keys = [] → printed = []) ∧
    (∀ input, Breaks (inputLines input) →
      settings.execute input =
        ⟨printed ++ (printedKeys (pressedKeys (inputLines input)) ++
          [Failure.unreadableInput.line]), .failure⟩) ∧
    (∀ input, ¬Breaks (inputLines input) →
      settings.execute input =
        ⟨printed ++ printedKeys (pressedKeys (inputLines input)), .success⟩) ∧
    ∀ lines : Neighbours, settings.execute lines.joined = settings.execute lines.apart := by
  have executed := Settings.execute_of_reads reads evaluated
  refine ⟨fun noKeys => ?_, fun input broken => ?_, fun input unbroken => ?_, fun lines => ?_⟩
  · exact Except.ok.inj (evaluated.symm.trans (Settings.evaluate_of_no_keys noKeys))
  · rw [executed, interact_of_breaks printed broken]
  · rw [executed, interact_of_not_breaks printed unbroken]
  · rw [executed, executed, lines.interact_joined]

/-- A key argument, a line with a character that is no key, a stop word with a line behind it, and
two lines with a carriage return between them. -/
theorem interactive_as_pressed_stopped :
    Settings.execute ⟨true, none, ["1+1"]⟩ "5+\n7?\n3=\nquit\n9".toUTF8.data.toList =
      ⟨[.output "1 + 1 = 2", .output "5", .output "5 + ", .output "5 + 3", .output "5 + 3 = 8"],
        .success⟩ ∧
    ∃ lines : Neighbours, lines.apart = "5+\r\n3=\nq".toUTF8.data.toList ∧
      lines.joined = "5+ 3=\nq".toUTF8.data.toList ∧
      Settings.execute ⟨true, none, ["1+1"]⟩ lines.joined =
        Settings.execute ⟨true, none, ["1+1"]⟩ lines.apart := by
  let settings : Settings := ⟨true, none, ["1+1"]⟩
  have evaluated : settings.evaluate = .ok [.output "1 + 1 = 2"] :=
    ok_of_to_option (by decide +kernel)
  rcases interactive_as_pressed rfl evaluated with ⟨-, -, unbroken, neighbours⟩
  have line : SpellsKeys "5+".toUTF8.data.toList [.digit 5, .operator .add] :=
    ⟨['5', '+'], by decide +kernel, rfl⟩
  have other : SpellsKeys "3=".toUTF8.data.toList [.digit 3, .equals] :=
    ⟨['3', '='], by decide +kernel, rfl⟩
  let lines : Neighbours :=
    ⟨[], _, [carriageReturn], _, "\nq".toUTF8.data.toList, .inl rfl, .inr rfl,
      .inr (by decide +kernel), by decide +kernel, by decide +kernel, ⟨_, line⟩, ⟨_, other⟩⟩
  refine ⟨?_, lines, rfl, rfl, neighbours lines⟩
  rw [unbroken _ (by decide +kernel)]
  decide +kernel

/-- The report of a line that is not UTF-8 is no event of the keys. -/
theorem report_beyond_keys :
    ((Settings.ofKeys []).execute [53, 10, 255, 10]).lines ≠
      printedKeys (pressedKeys (inputLines [53, 10, 255, 10])) := by
  decide +kernel

end Keypad.Console
