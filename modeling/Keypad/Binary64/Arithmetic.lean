import Keypad.Binary64.Basic

/-!
The four operations on binary values. Each forms its exact result in units and rounds it once;
the values at the edge of the format follow IEEE 754: an indeterminate form is not a number, a
quotient by zero is infinite, and a sum that cancels is the positive zero unless both of its
terms were negative zeros.
-/

namespace Keypad.Binary64

def signed (negative : Bool) (units : Nat) : Int := if negative then -units else units

def neg : Binary64 → Binary64
  | .nan => .nan
  | .infinity negative => .infinity !negative
  | .finite negative units representable => .finite (!negative) units representable

def add : Binary64 → Binary64 → Binary64
  | .nan, _ => .nan
  | _, .nan => .nan
  | .infinity left, .infinity right => if left = right then .infinity left else .nan
  | .infinity left, .finite .. => .infinity left
  | .finite .., .infinity right => .infinity right
  | .finite leftNegative left _, .finite rightNegative right _ =>
      let total := signed leftNegative left + signed rightNegative right
      if total = 0 then zero (leftNegative && rightNegative)
      else ofQuotient (total < 0) total.natAbs 1 Nat.one_pos

def sub (left right : Binary64) : Binary64 := add left (neg right)

def mul : Binary64 → Binary64 → Binary64
  | .nan, _ => .nan
  | _, .nan => .nan
  | .infinity left, .infinity right => .infinity (left ^^ right)
  | .infinity left, .finite right units _ =>
      if units = 0 then .nan else .infinity (left ^^ right)
  | .finite left units _, .infinity right =>
      if units = 0 then .nan else .infinity (left ^^ right)
  | .finite leftNegative left _, .finite rightNegative right _ =>
      ofQuotient (leftNegative ^^ rightNegative) (left * right) unitsPerOne
        units_per_one_positive

def div : Binary64 → Binary64 → Binary64
  | .nan, _ => .nan
  | _, .nan => .nan
  | .infinity _, .infinity _ => .nan
  | .infinity left, .finite right .. => .infinity (left ^^ right)
  | .finite left .., .infinity right => zero (left ^^ right)
  | .finite leftNegative left _, .finite rightNegative right _ =>
      if positive : 0 < right then
        ofQuotient (leftNegative ^^ rightNegative) (left * unitsPerOne) right positive
      else if left = 0 then .nan
      else .infinity (leftNegative ^^ rightNegative)

instance : Neg Binary64 := ⟨neg⟩
instance : Add Binary64 := ⟨add⟩
instance : Sub Binary64 := ⟨sub⟩
instance : Mul Binary64 := ⟨mul⟩
instance : Div Binary64 := ⟨div⟩

end Keypad.Binary64
