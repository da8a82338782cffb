import Mathlib.Data.List.TakeWhile
import Keypad.Proofs.Token.Spacing

/-!
Binary values in the general grammar of floating-point text: a sign of either kind, digits with a
point among them or at either end, a power of ten behind the letter e, and words for the infinities
and for what is not a number. The literals of decimal numbers are among these texts, and there they
have their own values.
-/

namespace Keypad.Binary64

def digits? (text : List Char) : Option Nat :=
  if text ≠ [] ∧ text.all Char.isDigit then some (Nat.ofDigitChars 10 text 0) else none

/-- The powers of ten that a number is multiplied and divided by. Without the letter both are 0. -/
def scale? : List Char → Option (Nat × Nat)
  | [] => some (0, 0)
  | letter :: exponent =>
      if letter.toLower = 'e' then
        match exponent with
        | '+' :: digits => (digits? digits).map fun power => (power, 0)
        | '-' :: digits => (digits? digits).map fun power => (0, power)
        | digits => (digits? digits).map fun power => (power, 0)
      else none

def fraction : List Char → List Char × List Char
  | '.' :: behind => (behind.takeWhile Char.isDigit, behind.dropWhile Char.isDigit)
  | rest => ([], rest)

def number? (negative : Bool) (text : List Char) : Option Binary64 :=
  let whole := text.takeWhile Char.isDigit
  let (behind, rest) := fraction (text.dropWhile Char.isDigit)
  if whole ++ behind = [] then none
  else (scale? rest).map fun (raised, lowered) =>
    .ofQuotient negative (Nat.ofDigitChars 10 (whole ++ behind) 0 * 10 ^ raised * unitsPerOne)
      (10 ^ (behind.length + lowered)) (Nat.pow_pos (by decide))

/-- Words for values that are no numbers, in letters of either case. -/
def special? (negative : Bool) (text : List Char) : Option Binary64 :=
  match text.map Char.toLower with
  | ['i', 'n', 'f'] => some (.infinity negative)
  | ['i', 'n', 'f', 'i', 'n', 'i', 't', 'y'] => some (.infinity negative)
  | ['n', 'a', 'n'] => some .nan
  | _ => none

def ofUnsigned? (negative : Bool) (text : List Char) : Option Binary64 :=
  (number? negative text).or (special? negative text)

def ofText? : List Char → Option Binary64
  | '-' :: unsigned => ofUnsigned? true unsigned
  | '+' :: unsigned => ofUnsigned? false unsigned
  | unsigned => ofUnsigned? false unsigned

theorem number_of_decimal {negative : Bool} {text : List Char} {number : Decimal}
    (found : Decimal.ofUnsigned? negative text = some number) :
    number? negative text = some number.value := by
  simp only [Decimal.ofUnsigned?] at found
  split at found
  · rename_i nothing
    split at found
    · contradiction
    · rename_i nonempty
      cases found
      simp [number?, fraction, scale?, nothing, nonempty, Decimal.value]
  · rename_i point digits rest
    split at found
    · rename_i shape
      rcases shape with ⟨rfl, valid, nonempty⟩
      have valid := List.all_eq_true.mp valid
      have kept : digits.takeWhile Char.isDigit = digits := List.takeWhile_eq_self_iff.mpr valid
      have ended : digits.dropWhile Char.isDigit = [] := List.dropWhile_eq_nil_iff.mpr valid
      cases found
      simp only [number?, rest, fraction, kept, ended, scale?, if_neg nonempty, Option.map_some,
        Nat.pow_zero, Nat.mul_one, Nat.add_zero, Decimal.value]
    · contradiction

/-- A literal has the value of the number that it denotes. -/
theorem of_text_of_literal {literal : List Char} {number : Decimal}
    (found : Decimal.ofLiteral? literal = some number) : ofText? literal = some number.value := by
  unfold Decimal.ofLiteral? at found
  split at found
  · rw [ofText?, ofUnsigned?, number_of_decimal found, Option.some_or]
  · rename_i unmarked
    have read : ofUnsigned? false literal = some number.value := by
      rw [ofUnsigned?, number_of_decimal found, Option.some_or]
    unfold ofText?
    split
    · rename_i rest
      exact absurd rfl (unmarked rest)
    · rename_i rest
      -- A literal has no plus sign.
      have inside := Decimal.characters_of_of_unsigned found '+' (List.mem_cons_self ..)
      simp at inside
    · exact read

/-- The grammar goes beyond that of literals. -/
example : ofText? "+2.5E-1".toList = ofText? ".25".toList ∧
    ofText? "-Inf".toList = some (.infinity true) ∧ ofText? "1e".toList = none := by
  decide +kernel

end Keypad.Binary64
