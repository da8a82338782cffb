import Keypad.Proofs.Display.Frozen
import Keypad.Proofs.Key.Expression
import Keypad.Proofs.Listener.Evaluation
import Keypad.Proofs.Text.Words

/-!
Keys and their texts. The names of keys, written with blanks between them, are read as the keys
again, but for a number above nine, which is read as the keys of its decimal digits. These leave the
same display as the one key that adds all of the digits, also where they are refused.
-/

namespace Keypad

namespace Key

/-- The keys of the pad that a key is typed with. -/
def strokes : Key → List Key
  | digit number => (Nat.toDigits 10 number).map ofDigit
  | key => [key]

theorem digits_of_number (number : Nat) :
    ∀ character ∈ Nat.toDigits 10 number, character.isDigit = true :=
  fun _ member => Nat.isDigit_of_mem_toDigits (by decide) (by decide) member

theorem strokes_of_pad {key : Key} (pad : ∀ number, key = .digit number → number ≤ 9) :
    key.strokes = [key] := by
  cases key with
  | digit number =>
      have small : number < 10 := Nat.lt_succ_of_le (pad number rfl)
      have same : ofDigit (Nat.digitChar number) = .digit number := by
        rw [ofDigit, Nat.toNat_digitChar_of_lt_ten small]
        exact congrArg Key.digit (Nat.add_sub_cancel_left ..)
      rw [strokes, Nat.toDigits_of_lt_base small, List.map_singleton, same]
  | _ => rfl

theorem text_ne_nil (key : Key) : key.text ≠ [] := by
  cases key with
  | digit number => exact Nat.toDigits_ne_nil
  | _ => exact List.cons_ne_nil _ _

theorem text_solid (key : Key) : ∀ character ∈ key.text, Text.isBlank character = false := by
  cases key with
  | digit number =>
      intro character member
      exact Text.digit_is_not_blank character (digits_of_number number character member)
  | operator sign => exact (Token.operator sign).text_solid
  | allClear => exact List.forall_mem_cons.mpr ⟨rfl, List.forall_mem_singleton.mpr rfl⟩
  | _ => exact List.forall_mem_singleton.mpr rfl

theorem of_word_text (key : Key) : ofWord key.text = .ok key.strokes := by
  cases key with
  | digit number => exact of_word_of_marks (marks_digits (digits_of_number number))
  | operator sign => cases sign <;> rfl
  | _ => rfl

end Key

theorem parse_keys_joined {keys : List Key} {text : List Char}
    (joined : Text.Joined (keys.map Key.text) text) :
    parseKeys text = .ok (keys.flatMap Key.strokes) := by
  have valid (key : Key) :
      key.text ≠ [] ∧ ∀ character ∈ key.text, Text.isBlank character = false :=
    ⟨key.text_ne_nil, key.text_solid⟩
  rw [parseKeys, Text.read_joined valid Key.of_word_text joined, List.flatMap_def]
  rfl

theorem Key.strokes_of_pads {keys : List Key} (pads : ∀ number, .digit number ∈ keys → number ≤ 9) :
    keys.flatMap Key.strokes = keys := by
  have each : ∀ key ∈ keys, key.strokes = [key] := by
    intro key member
    apply strokes_of_pad
    rintro number rfl
    exact pads number member
  rw [List.flatMap_congr each, List.flatMap_singleton']

namespace Calculator

theorem run_append (calculator : Calculator) (earlier later : List Operation) :
    calculator.run (earlier ++ later) = (calculator.run earlier).run later :=
  List.foldl_append

/-- One key on one side, several on the other. On a draft all of them add digits, and behind a
result all of them are refused. -/
theorem run_strokes {calculator : Calculator} (reachable : Reachable calculator) (key : Key) :
    calculator.run (key.strokes.map Key.operation) = calculator.next key.operation := by
  cases key with
  | digit number =>
      have digits := Key.digits_of_number number
      cases reachable.displayable with
      | draft draft =>
          have single : Text.isDigitString (Nat.toDigits 10 number) = true :=
            (Text.is_digit_string_iff _).mpr ⟨Nat.toDigits_ne_nil, digits⟩
          have together : draft.shown.perform (Key.digit number).operation =
              .ok ⟨draft.text ++ Nat.toDigits 10 number⟩ :=
            (draft.append_digits_shown _).trans (if_pos single)
          have typed := draft.press_digits (Nat.toDigits 10 number) digits
          rw [next_of_accepted together]
          exact ((press_all_eq_ok _ _ _).mp typed).2
      | answer answer =>
          have alone : ∃ reason, answer.shown.perform (Key.digit number).operation = .error reason :=
            answer.refused nofun nofun
          rcases alone with ⟨reason, refused⟩
          rw [next_of_refused refused]
          apply answer.run_shown
          intro operation member
          rcases List.mem_map.mp member with ⟨stroke, typed, rfl⟩
          rcases List.mem_map.mp typed with ⟨character, -, rfl⟩
          exact ⟨nofun, nofun⟩
  | _ => rfl

/-- The induction is over the keys, from any reachable calculator: both sides come to the same one after
each key. -/
theorem run_all_strokes {calculator : Calculator} (reachable : Reachable calculator)
    (keys : List Key) :
    calculator.run ((keys.flatMap Key.strokes).map Key.operation) =
      calculator.run (keys.map Key.operation) := by
  induction keys generalizing calculator with
  | nil => rfl
  | cons key keys induction =>
      have next := reachable.perform key.operation
      rw [List.flatMap_cons, List.map_append, run_append, run_strokes reachable key, induction next]
      rfl

end Calculator

/-- Keys that are written and read again are the same keys, if each of their numbers is a digit, and
otherwise keys that do the same. -/
theorem keys_written_again {keys : List Key} {text : List Char}
    (joined : Text.Joined (keys.map Key.text) text) :
    ((∀ number, .digit number ∈ keys → number ≤ 9) → parseKeys text = .ok keys) ∧
    parseKeys text = .ok (keys.flatMap Key.strokes) ∧
    ∀ calculator, Reachable calculator →
      calculator.run ((keys.flatMap Key.strokes).map Key.operation) =
        calculator.run (keys.map Key.operation) := by
  have read := parse_keys_joined joined
  refine ⟨?_, read, fun calculator reachable => Calculator.run_all_strokes reachable keys⟩
  intro pads
  rw [read, Key.strokes_of_pads pads]

/-- Names of either kind beside a digit, and a number of three digits behind a result: what it adds
is refused as one key and as three. -/
theorem large_number_written_again :
    parseKeys "AC\t9 ÷\nC".toList = .ok [.allClear, .digit 9, .operator .divide, .correction] ∧
    parseKeys "255  K".toList = .ok [.digit 2, .digit 5, .digit 5, .keep] ∧
    (Calculator.mk "1 + 1 = 2".toList).run
        ([.digit 2, .digit 5, .digit 5, .keep].map Key.operation) =
      (Calculator.mk "1 + 1 = 2".toList).run ([.digit 255, .keep].map Key.operation) := by
  constructor
  · let keys : List Key := [.allClear, .digit 9, .operator .divide, .correction]
    have joined : Text.Joined (keys.map Key.text) "AC\t9 ÷\nC".toList :=
      .cons ['A', 'C'] ['\t'] (List.cons_ne_nil _ _) (List.forall_mem_singleton.mpr rfl)
        (.cons ['9'] [' '] (List.cons_ne_nil _ _) (List.forall_mem_singleton.mpr rfl)
          (.cons ['÷'] ['\n'] (List.cons_ne_nil _ _) (List.forall_mem_singleton.mpr rfl)
            (.single ['C'])))
    apply (keys_written_again joined).1
    intro number member
    simp only [keys, List.mem_cons, Key.digit.injEq, reduceCtorEq, false_or, List.not_mem_nil,
      or_false] at member
    omega
  · let keys : List Key := [.digit 255, .keep]
    have joined : Text.Joined (keys.map Key.text) "255  K".toList :=
      .cons ['2', '5', '5'] [' ', ' '] (List.cons_ne_nil _ _) (List.all_eq_true.mp rfl)
        (.single ['K'])
    have reachable : Reachable ⟨"1 + 1 = 2".toList⟩ := by
      apply (Reachable.iff_run _).mpr
      exact ⟨[.digits ['1'], .operator .add, .digits ['1'], .evaluate], by decide +kernel⟩
    have again := (keys_written_again joined).2
    exact ⟨again.1, again.2 _ reachable⟩

end Keypad
