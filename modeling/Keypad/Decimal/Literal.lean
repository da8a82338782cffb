import Keypad.Decimal.Basic

/-!
Decimal numbers as text. A literal may leave out the digits on one side of its point and may
carry zeros that say nothing; the text of a number writes both sides and is one of its
literals, so what is written reads back.
-/

namespace Keypad.Decimal

/-- Reads digits with at most one point. At least one digit has to stand on a side of it. -/
def ofUnsigned? (negative : Bool) (unsigned : List Char) : Option Decimal :=
  let whole := unsigned.takeWhile Char.isDigit
  match unsigned.dropWhile Char.isDigit with
  | [] => if whole = [] then none else some ⟨negative, Nat.ofDigitChars 10 whole 0, 0⟩
  | point :: fraction =>
      if point = '.' ∧ fraction.all Char.isDigit ∧ whole ++ fraction ≠ [] then
        some ⟨negative, Nat.ofDigitChars 10 (whole ++ fraction) 0, fraction.length⟩
      else none

def ofLiteral? : List Char → Option Decimal
  | '-' :: unsigned => ofUnsigned? true unsigned
  | unsigned => ofUnsigned? false unsigned

def lowDigits : Nat → Nat → List Char
  | 0, _ => []
  | count + 1, number => lowDigits count (number / 10) ++ [Nat.digitChar (number % 10)]

/-- A number without fractional places is written without a point. -/
def text (number : Decimal) : List Char :=
  let sign := if number.negative then ['-'] else []
  let whole := Nat.toDigits 10 (number.digits / 10 ^ number.places)
  let fraction := if number.places = 0 then [] else '.' :: lowDigits number.places number.digits
  sign ++ whole ++ fraction

theorem low_digits_length (count number : Nat) : (lowDigits count number).length = count := by
  induction count generalizing number with
  | zero => rfl
  | succ count induction => simp [lowDigits, induction]

theorem low_digits_is_digit (count number : Nat) :
    ∀ character ∈ lowDigits count number, character.isDigit = true := by
  induction count generalizing number with
  | zero => simp [lowDigits]
  | succ count induction =>
      intro character member
      rcases List.mem_append.mp member with earlier | last
      · exact induction _ character earlier
      · rw [List.mem_singleton.mp last, Nat.isDigit_digitChar]
        exact decide_eq_true (Nat.mod_lt _ (by decide))

theorem of_digit_chars_low_digits (count number start : Nat) :
    Nat.ofDigitChars 10 (lowDigits count number) start =
      10 ^ count * start + number % 10 ^ count := by
  induction count generalizing number with
  | zero => simp [lowDigits, Nat.mod_one]
  | succ count induction =>
      rw [lowDigits, Nat.ofDigitChars_append, induction,
        Nat.ofDigitChars_cons_digitChar_of_lt_ten (Nat.mod_lt _ (by decide)), Nat.ofDigitChars_nil,
        Nat.pow_succ', Nat.mod_mul, Nat.mul_add, Nat.mul_assoc]
      omega

theorem of_digit_chars_split (number places : Nat) :
    Nat.ofDigitChars 10 (Nat.toDigits 10 (number / 10 ^ places) ++ lowDigits places number) 0 =
      number := by
  rw [Nat.ofDigitChars_append, Nat.ofDigitChars_ten_toDigits, of_digit_chars_low_digits,
    Nat.div_add_mod]

theorem of_unsigned_digits (negative : Bool) (whole : List Char) (nonempty : whole ≠ [])
    (digits : ∀ character ∈ whole, character.isDigit = true) :
    ofUnsigned? negative whole = some ⟨negative, Nat.ofDigitChars 10 whole 0, 0⟩ := by
  have kept : (whole ++ []).takeWhile Char.isDigit = whole := by
    rw [List.takeWhile_append_of_pos digits]
    simp
  have rest : (whole ++ []).dropWhile Char.isDigit = [] := by
    rw [List.dropWhile_append_of_pos digits]
    simp
  rw [List.append_nil] at kept rest
  simp [ofUnsigned?, kept, rest, nonempty]

theorem of_unsigned_point (negative : Bool) (whole fraction : List Char)
    (nonempty : whole ++ fraction ≠ [])
    (wholeDigits : ∀ character ∈ whole, character.isDigit = true)
    (fractionDigits : ∀ character ∈ fraction, character.isDigit = true) :
    ofUnsigned? negative (whole ++ '.' :: fraction) =
      some ⟨negative, Nat.ofDigitChars 10 (whole ++ fraction) 0, fraction.length⟩ := by
  have kept : (whole ++ '.' :: fraction).takeWhile Char.isDigit = whole := by
    rw [List.takeWhile_append_of_pos wholeDigits]
    simp
  have rest : (whole ++ '.' :: fraction).dropWhile Char.isDigit = '.' :: fraction := by
    rw [List.dropWhile_append_of_pos wholeDigits]
    simp
  have all : fraction.all Char.isDigit = true := List.all_eq_true.mpr fractionDigits
  simp only [ofUnsigned?, kept, rest, all, true_and]
  rw [if_pos nonempty]

theorem of_literal_unsigned (unsigned : List Char) (unmarked : unsigned.head? ≠ some '-') :
    ofLiteral? unsigned = ofUnsigned? false unsigned := by
  unfold ofLiteral?
  split
  · simp at unmarked
  · rfl

theorem of_literal_text (number : Decimal) : ofLiteral? number.text = some number := by
  obtain ⟨negative, digits, places⟩ := number
  have whole : ∀ character ∈ Nat.toDigits 10 (digits / 10 ^ places), character.isDigit = true :=
    fun character member => Nat.isDigit_of_mem_toDigits (by decide) (by decide) member
  have unsigned : ofUnsigned? negative (Nat.toDigits 10 (digits / 10 ^ places) ++
      if places = 0 then [] else '.' :: lowDigits places digits) =
        some ⟨negative, digits, places⟩ := by
    split
    · rename_i zero
      subst zero
      rw [List.append_nil, of_unsigned_digits _ _ Nat.toDigits_ne_nil whole,
        Nat.ofDigitChars_ten_toDigits, Nat.pow_zero, Nat.div_one]
    · rw [of_unsigned_point _ _ _ (by simp [Nat.toDigits_ne_nil]) whole
        (low_digits_is_digit places digits), of_digit_chars_split, low_digits_length]
  cases negative with
  | true => exact unsigned
  | false =>
      rw [← unsigned]
      apply of_literal_unsigned
      intro marked
      cases first : Nat.toDigits 10 (digits / 10 ^ places) with
      | nil => exact Nat.toDigits_ne_nil first
      | cons character rest =>
          have digit := whole character (by simp [first])
          simp [text, first] at marked
          subst marked
          contradiction

theorem of_unsigned_eq_some {negative : Bool} {unsigned : List Char} {number : Decimal}
    (found : ofUnsigned? negative unsigned = some number) :
    ∃ whole fraction, whole ++ fraction ≠ [] ∧
      (∀ character ∈ whole ++ fraction, character.isDigit = true) ∧
      (unsigned = whole ++ fraction ∨ unsigned = whole ++ '.' :: fraction) ∧
      number = ⟨negative, Nat.ofDigitChars 10 (whole ++ fraction) 0, fraction.length⟩ := by
  have rejoined := List.takeWhile_append_dropWhile (p := Char.isDigit) (l := unsigned)
  have wholeDigits : ∀ character ∈ unsigned.takeWhile Char.isDigit, character.isDigit = true :=
    List.all_eq_true.mp List.all_takeWhile
  simp only [ofUnsigned?] at found
  split at found
  · rename_i nothing
    split at found
    · contradiction
    · rename_i nonempty
      rw [nothing, List.append_nil] at rejoined
      refine ⟨unsigned.takeWhile Char.isDigit, [], ?_⟩
      rw [List.append_nil]
      exact ⟨nonempty, wholeDigits, .inl rejoined.symm, (Option.some.inj found).symm⟩
  · rename_i point fraction rest
    split at found
    · rename_i shape
      refine ⟨unsigned.takeWhile Char.isDigit, fraction, shape.2.2, ?_, .inr ?_,
        (Option.some.inj found).symm⟩
      · exact List.forall_mem_append.mpr ⟨wholeDigits, List.all_eq_true.mp shape.2.1⟩
      · rw [← shape.1, ← rest, rejoined]
    · contradiction

theorem digit_of_of_unsigned {negative : Bool} {unsigned : List Char} {number : Decimal}
    (found : ofUnsigned? negative unsigned = some number) :
    ∃ character ∈ unsigned, character.isDigit = true := by
  obtain ⟨whole, fraction, nonempty, digits, shape, _⟩ := of_unsigned_eq_some found
  obtain ⟨character, member⟩ := List.exists_mem_of_ne_nil _ nonempty
  refine ⟨character, ?_, digits character member⟩
  rcases shape with rfl | rfl
  · exact member
  · rcases List.mem_append.mp member with inWhole | inFraction
    · exact List.mem_append_left _ inWhole
    · exact List.mem_append_right _ (List.mem_cons_of_mem _ inFraction)

theorem digit_of_of_literal {literal : List Char} {number : Decimal}
    (found : ofLiteral? literal = some number) :
    ∃ character ∈ literal, character.isDigit = true := by
  unfold ofLiteral? at found
  split at found
  · obtain ⟨character, member, digit⟩ := digit_of_of_unsigned found
    exact ⟨character, List.mem_cons_of_mem _ member, digit⟩
  · exact digit_of_of_unsigned found

end Keypad.Decimal
