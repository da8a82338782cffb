import Keypad.Numeral

/-!
Numbers while they are typed: digits, and perhaps a point with digits behind it or with none yet.
Adding digits, adding a point and taking back one character lead from one such number to another,
or to none at all.
-/

namespace Keypad

structure Literal where
  whole : List Char
  fraction : Option (List Char)
  nonempty : whole ≠ []
  wholeDigits : ∀ character ∈ whole, character.isDigit = true
  fractionDigits : ∀ character ∈ fraction.getD [], character.isDigit = true

namespace Literal

def pointText : Option (List Char) → List Char
  | none => []
  | some digits => '.' :: digits

def text (literal : Literal) : List Char := literal.whole ++ pointText literal.fraction

/-- A minus sign, or nothing. Only a kept result can bring one. -/
def minus (negative : Bool) : List Char := if negative then ['-'] else []

/-- Digits stand on both sides of the point, or there is no point. -/
def IsClosed (literal : Literal) : Prop := literal.fraction ≠ some []

instance (literal : Literal) : Decidable literal.IsClosed :=
  inferInstanceAs (Decidable (_ ≠ _))

def decimal (negative : Bool) (literal : Literal) : Decimal :=
  ⟨negative, Nat.ofDigitChars 10 (literal.whole ++ literal.fraction.getD []) 0,
    (literal.fraction.getD []).length⟩

theorem of_unsigned_text (negative : Bool) (literal : Literal) :
    Decimal.ofUnsigned? negative literal.text = some (literal.decimal negative) := by
  obtain ⟨whole, fraction, nonempty, wholeDigits, fractionDigits⟩ := literal
  cases fraction with
  | none =>
      simp only [text, pointText, decimal, Option.getD_none, List.append_nil]
      exact Decimal.of_unsigned_digits negative whole nonempty wholeDigits
  | some digits =>
      exact Decimal.of_unsigned_point negative whole digits (by simp [nonempty]) wholeDigits
        fractionDigits

theorem head_text (literal : Literal) :
    ∃ first rest, literal.text = first :: rest ∧ first.isDigit = true := by
  obtain ⟨whole, fraction, nonempty, wholeDigits, _⟩ := literal
  cases whole with
  | nil => contradiction
  | cons first others => exact ⟨first, _, rfl, wholeDigits first (List.mem_cons_self ..)⟩

theorem of_literal_signed (negative : Bool) (literal : Literal) :
    Decimal.ofLiteral? (minus negative ++ literal.text) = some (literal.decimal negative) := by
  rw [← of_unsigned_text]
  cases negative with
  | true => rfl
  | false =>
      apply Decimal.of_literal_unsigned
      obtain ⟨first, rest, shape, digit⟩ := head_text literal
      rw [minus, if_neg Bool.false_ne_true, List.nil_append, shape, List.head?_cons]
      intro same
      cases same
      contradiction

def numeral (negative : Bool) (literal : Literal) : Numeral :=
  ⟨minus negative ++ literal.text, literal.decimal negative, of_literal_signed negative literal⟩

theorem text_ne_nil (literal : Literal) : literal.text ≠ [] := by
  obtain ⟨first, rest, shape, _⟩ := head_text literal
  simp [shape]

theorem not_point_of_digit {character : Char} (digit : character.isDigit = true) :
    character ≠ '.' := by
  intro same
  cases same
  contradiction

theorem has_point_numeral (negative : Bool) (literal : Literal) :
    (literal.numeral negative).hasPoint = literal.fraction.isSome := by
  have unsigned : literal.text.contains '.' = literal.fraction.isSome := by
    have absent : '.' ∉ literal.whole :=
      fun member => not_point_of_digit (literal.wholeDigits '.' member) rfl
    rw [text]
    cases literal.fraction with
    | none => simpa [pointText] using absent
    | some digits => simp [pointText]
  cases negative with
  | true => simpa [numeral, minus, Numeral.hasPoint] using unsigned
  | false => exact unsigned

theorem last_text_ne_point (literal : Literal) (closed : literal.IsClosed) :
    literal.text.getLast? ≠ some '.' := by
  obtain ⟨whole, fraction, nonempty, wholeDigits, fractionDigits⟩ := literal
  intro last
  cases fraction with
  | none =>
      rw [text, pointText, List.append_nil] at last
      exact not_point_of_digit (wholeDigits _ (List.mem_of_getLast? last)) rfl
  | some digits =>
      have present : digits ≠ [] := fun empty => closed (congrArg some empty)
      rw [text, pointText, List.getLast?_append, List.getLast?_cons] at last
      obtain ⟨final, found⟩ := Option.isSome_iff_exists.mp
        (List.getLast?_isSome.mpr present)
      simp only [found, Option.getD_some, Option.some_or, Option.some.injEq] at last
      exact not_point_of_digit (fractionDigits final (List.mem_of_getLast? found)) last

theorem ends_with_point_numeral (negative : Bool) (literal : Literal) :
    (literal.numeral negative).endsWithPoint = decide (¬literal.IsClosed) := by
  have signed : (minus negative ++ literal.text).getLast? = literal.text.getLast? := by
    rw [List.getLast?_append]
    obtain ⟨final, found⟩ := Option.isSome_iff_exists.mp
      (List.getLast?_isSome.mpr literal.text_ne_nil)
    rw [found, Option.some_or]
  rw [Numeral.endsWithPoint, numeral, signed]
  by_cases closed : literal.IsClosed
  · rw [decide_eq_false (not_not_intro closed), beq_eq_false_iff_ne]
    exact literal.last_text_ne_point closed
  · rw [decide_eq_true closed, text, Decidable.not_not.mp closed]
    simp [pointText]

theorem complete_numeral (negative : Bool) (literal : Literal) (closed : literal.IsClosed) :
    (literal.numeral negative).endsWithPoint = false := by
  rw [literal.ends_with_point_numeral, decide_eq_false (not_not_intro closed)]

/-! Editing. -/

def ofDigits (digits : List Char) (nonempty : digits ≠ [])
    (valid : ∀ character ∈ digits, character.isDigit = true) : Literal :=
  ⟨digits, none, nonempty, valid, by simp⟩

theorem text_of_digits (digits : List Char) (nonempty : digits ≠ [])
    (valid : ∀ character ∈ digits, character.isDigit = true) :
    (ofDigits digits nonempty valid).text = digits := by
  simp [ofDigits, text, pointText]

theorem exists_append_digits (literal : Literal) (digits : List Char)
    (valid : ∀ character ∈ digits, character.isDigit = true) :
    ∃ longer : Literal, longer.text = literal.text ++ digits := by
  obtain ⟨whole, fraction, nonempty, wholeDigits, fractionDigits⟩ := literal
  cases fraction with
  | none =>
      refine ⟨⟨whole ++ digits, none, by simp [nonempty], ?_, by simp⟩, by simp [text, pointText]⟩
      intro character member
      exact (List.mem_append.mp member).elim (wholeDigits character) (valid character)
  | some earlier =>
      refine ⟨⟨whole, some (earlier ++ digits), nonempty, wholeDigits, ?_⟩,
        by simp [text, pointText]⟩
      intro character member
      exact (List.mem_append.mp member).elim (fractionDigits character) (valid character)

theorem exists_append_point (literal : Literal) (whole : literal.fraction = none) :
    ∃ longer : Literal, longer.text = literal.text ++ ['.'] :=
  ⟨⟨literal.whole, some [], literal.nonempty, literal.wholeDigits, by simp⟩,
    by simp [text, pointText, whole]⟩

theorem exists_shorter (literal : Literal) :
    literal.text.length = 1 ∨ ∃ shorter : Literal, shorter.text = literal.text.dropLast := by
  obtain ⟨whole, fraction, nonempty, wholeDigits, fractionDigits⟩ := literal
  cases fraction with
  | none =>
      by_cases last : whole.dropLast = []
      · left
        have length := congrArg List.length last
        have positive := List.length_pos_iff.mpr nonempty
        simp only [List.length_dropLast, List.length_nil] at length
        simp only [text, pointText, List.append_nil]
        omega
      · right
        refine ⟨⟨whole.dropLast, none, last, ?_, by simp⟩, by simp [text, pointText]⟩
        intro character member
        exact wholeDigits character (List.dropLast_subset whole member)
  | some digits =>
      right
      by_cases empty : digits = []
      · subst empty
        exact ⟨⟨whole, none, nonempty, wholeDigits, by simp⟩, by simp [text, pointText]⟩
      · refine ⟨⟨whole, some digits.dropLast, nonempty, wholeDigits, ?_⟩, ?_⟩
        · intro character member
          exact fractionDigits character (List.dropLast_subset digits member)
        · simp [text, pointText, List.dropLast_append_of_ne_nil, List.dropLast_cons_of_ne_nil empty]

/-! Numbers as the display writes them. -/

def ofDecimal (number : Decimal) : Literal where
  whole := Nat.toDigits 10 (number.digits / 10 ^ number.places)
  fraction :=
    if number.places = 0 then none
    else some (Decimal.lowDigits number.places number.digits)
  nonempty := Nat.toDigits_ne_nil
  wholeDigits _ member := Nat.isDigit_of_mem_toDigits (by decide) (by decide) member
  fractionDigits := by
    split
    · simp
    · exact Decimal.low_digits_is_digit number.places number.digits

theorem fraction_of_decimal (number : Decimal) :
    (ofDecimal number).fraction.getD [] = Decimal.lowDigits number.places number.digits := by
  obtain ⟨negative, digits, places⟩ := number
  cases places with
  | zero => rfl
  | succ places => rfl

theorem closed_of_decimal (number : Decimal) : (ofDecimal number).IsClosed := by
  rw [IsClosed, ofDecimal]
  split
  · simp
  · rename_i fractional
    intro dangling
    have length := congrArg List.length (Option.some.inj dangling)
    rw [Decimal.low_digits_length] at length
    exact fractional length

theorem text_of_decimal (number : Decimal) :
    number.text = minus number.negative ++ (ofDecimal number).text := by
  rw [Decimal.text, text, ofDecimal]
  by_cases integer : number.places = 0
  · simp [pointText, minus, integer]
  · simp [pointText, minus, integer]

theorem exists_of_decimal (number : Decimal) :
    ∃ literal : Literal, literal.IsClosed ∧
      number.text = minus number.negative ++ literal.text :=
  ⟨ofDecimal number, closed_of_decimal number, text_of_decimal number⟩

end Literal

end Keypad
