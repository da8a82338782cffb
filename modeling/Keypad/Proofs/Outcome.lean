import Mathlib.Data.List.Forall2

/-!
Outcomes that chains of calls can have: a chain succeeds only through the success of its
parts, and fails where one of them does.
-/

namespace Keypad

variable {Failure Value Result : Type}

theorem ok_bind (value : Value) (next : Value → Except Failure Result) :
    (Except.ok value >>= next) = next value := rfl

theorem ok_of_bind {first : Except Failure Value} {next : Value → Except Failure Result}
    {result : Result} (succeeded : (first >>= next) = .ok result) :
    ∃ value, first = .ok value ∧ next value = .ok result := by
  cases first with
  | error failure => contradiction
  | ok value => exact ⟨value, rfl, succeeded⟩

theorem ok_of_map {first : Except Failure Value} {change : Value → Result} {result : Result}
    (succeeded : first.map change = .ok result) :
    ∃ value, first = .ok value ∧ change value = result := by
  cases first with
  | error failure => contradiction
  | ok value => exact ⟨value, rfl, Except.ok.inj succeeded⟩

theorem error_of_map {first : Except Failure Value} {change : Value → Result} {cause : Failure}
    (failed : first.map change = .error cause) : first = .error cause := by
  cases first with
  | error earlier =>
      cases failed
      rfl
  | ok value => contradiction

theorem ok_of_map_error {first : Except Failure Value} {change : Failure → Result} {value : Value}
    (succeeded : first.mapError change = .ok value) : first = .ok value := by
  cases first with
  | error failure => contradiction
  | ok found =>
      cases succeeded
      rfl

theorem error_of_map_error {first : Except Failure Value} {change : Failure → Result}
    {cause : Result} (failed : first.mapError change = .error cause) :
    ∃ earlier, first = .error earlier ∧ change earlier = cause := by
  cases first with
  | error earlier => exact ⟨earlier, rfl, Except.error.inj failed⟩
  | ok found => contradiction

theorem ok_unique {first : Except Failure Value} {value other : Value}
    (succeeded : first = .ok value) (found : first.toOption = some other) : value = other := by
  rw [succeeded] at found
  exact Option.some.inj found

theorem ok_of_to_option {first : Except Failure Value} {value : Value}
    (found : first.toOption = some value) : first = .ok value := by
  cases first with
  | error failure => contradiction
  | ok other => exact congrArg Except.ok (Option.some.inj found)

theorem error_of_bind {first : Except Failure Value} {next : Value → Except Failure Result}
    {cause : Failure} (failed : (first >>= next) = .error cause) :
    first = .error cause ∨ ∃ value, first = .ok value ∧ next value = .error cause := by
  cases first with
  | error earlier =>
      cases failed
      exact .inl rfl
  | ok value => exact .inr ⟨value, rfl, failed⟩

/-! Calls for the items of a list, one after the other. -/

section Items

variable {Item : Type} {call : Item → Except Failure Value}

theorem ok_of_each (items : List Item) (values : List Value) :
    items.mapM call = .ok values ↔
      List.Forall₂ (fun item value => call item = .ok value) items values := by
  induction items generalizing values with
  | nil =>
      rw [List.forall₂_nil_left_iff]
      constructor
      · exact fun succeeded => (Except.ok.inj succeeded).symm
      · rintro rfl
        rfl
  | cons item items induction =>
      rw [List.mapM_cons, List.forall₂_cons_left_iff]
      constructor
      · intro succeeded
        rcases ok_of_bind succeeded with ⟨value, first, succeeded⟩
        rcases ok_of_bind succeeded with ⟨others, rest, same⟩
        exact ⟨value, others, first, (induction others).mp rest, (Except.ok.inj same).symm⟩
      · rintro ⟨value, others, first, rest, rfl⟩
        rw [first, (induction others).mpr rest]
        rfl

theorem exists_ok_of_all (items : List Item) :
    (∃ values, items.mapM call = .ok values) ↔ ∀ item ∈ items, ∃ value, call item = .ok value := by
  simp only [ok_of_each]
  induction items with
  | nil => simp
  | cons item items induction =>
      rw [List.forall_mem_cons, ← induction]
      constructor
      · rintro ⟨_, succeeded⟩
        cases succeeded with
        | cons first rest => exact ⟨⟨_, first⟩, _, rest⟩
      · rintro ⟨⟨value, first⟩, values, rest⟩
        exact ⟨value :: values, .cons first rest⟩

/-- A failure is that of the first item whose call fails. -/
theorem error_of_first (items : List Item) (cause : Failure) :
    items.mapM call = .error cause ↔ ∃ before item after, items = before ++ item :: after ∧
      (∀ earlier ∈ before, ∃ value, call earlier = .ok value) ∧ call item = .error cause := by
  constructor
  · intro failed
    induction items with
    | nil => contradiction
    | cons item items induction =>
        rw [List.mapM_cons] at failed
        rcases error_of_bind failed with first | ⟨value, first, failed⟩
        · exact ⟨[], item, items, rfl, nofun, first⟩
        · rcases error_of_bind failed with rest | ⟨others, -, impossible⟩
          · rcases induction rest with ⟨before, other, after, rfl, succeeded, failing⟩
            exact ⟨item :: before, other, after, rfl,
              List.forall_mem_cons.mpr ⟨⟨value, first⟩, succeeded⟩, failing⟩
          · contradiction
  · rintro ⟨before, item, after, rfl, succeeded, failed⟩
    rcases (exists_ok_of_all before).mpr succeeded with ⟨values, earlier⟩
    rw [List.mapM_append, earlier, List.mapM_cons, failed]
    rfl

end Items

end Keypad
