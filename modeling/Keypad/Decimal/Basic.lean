import Keypad.Binary64.Basic

/-!
Decimal numbers with a fixed number of fractional places. The binary value of a decimal number
is the one nearest to it, however many digits it has, and trimming the zeros at the end of its
fraction does not change the number.
-/

namespace Keypad

/-- A sign and a whole number of the last place: `⟨true, 125, 2⟩` is -1.25. Zero may be
negative, as its binary value may. -/
structure Decimal where
  negative : Bool
  digits : Nat
  places : Nat
  deriving DecidableEq

namespace Decimal

def value (number : Decimal) : Binary64 :=
  .ofQuotient number.negative (number.digits * Binary64.unitsPerOne) (10 ^ number.places)
    (Nat.pow_pos (by decide))

def trimPlaces (negative : Bool) : Nat → Nat → Decimal
  | 0, digits => ⟨negative, digits, 0⟩
  | places + 1, digits =>
      if digits % 10 = 0 then trimPlaces negative places (digits / 10)
      else ⟨negative, digits, places + 1⟩

def trimmed (number : Decimal) : Decimal :=
  trimPlaces number.negative number.places number.digits

theorem trim_places_le (negative : Bool) (places digits : Nat) :
    (trimPlaces negative places digits).places ≤ places := by
  induction places generalizing digits with
  | zero => exact Nat.le_refl 0
  | succ places induction =>
      simp only [trimPlaces]
      split
      · exact Nat.le_succ_of_le (induction _)
      · exact Nat.le_refl _

theorem trim_places_scaled (negative : Bool) (places digits : Nat) :
    (trimPlaces negative places digits).digits *
      10 ^ (places - (trimPlaces negative places digits).places) = digits := by
  induction places generalizing digits with
  | zero => simp [trimPlaces]
  | succ places induction =>
      simp only [trimPlaces]
      split
      · rename_i zero
        have kept := induction (digits / 10)
        have fewer := trim_places_le negative places (digits / 10)
        rw [Nat.succ_sub fewer, Nat.pow_succ, ← Nat.mul_assoc, kept]
        omega
      · simp

end Decimal

end Keypad
