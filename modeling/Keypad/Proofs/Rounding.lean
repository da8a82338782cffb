import Mathlib
import Keypad.Rounding

/-!
Rounding as a choice among the whole numbers. No other is closer than the nearest, and where
another is as close the nearest is the even one of the two, so every number has at most one. A
quotient is rounded to its nearest whole number.
-/

namespace Keypad

theorem scaled_distance {scale : ℚ} (positive : 0 < scale) (left right : ℚ) :
    |left - right| * scale = |left * scale - right * scale| := by
  rw [← sub_mul, abs_mul, abs_of_pos positive]

/-- No whole number is closer. Where another is as close, this is the even one. -/
structure Nearest (exact : ℚ) (whole : ℤ) : Prop where
  closest : ∀ other : ℤ, |exact - whole| ≤ |exact - other|
  even : ∀ other : ℤ, other ≠ whole → |exact - other| = |exact - whole| → Even whole

namespace Nearest

variable {whole other : ℤ}

theorem apart (exact : ℚ) (different : other ≠ whole) : 1 ≤ |exact - whole| + |exact - other| := by
  have distance : (1 : ℚ) ≤ |(whole : ℚ) - other| := by
    exact_mod_cast Int.one_le_abs (sub_ne_zero.mpr different.symm)
  have triangle := abs_sub_le (whole : ℚ) exact other
  rw [abs_sub_comm (whole : ℚ) exact] at triangle
  exact distance.trans triangle

variable {exact : ℚ}

theorem of_within (close : |exact - whole| ≤ 1 / 2)
    (even : |exact - whole| = 1 / 2 → Even whole) : Nearest exact whole where
  closest other := by
    by_cases same : other = whole
    · rw [same]
    · have far := apart exact same
      linarith
  even other different same := by
    have far := apart exact different
    exact even (le_antisymm close (by linarith))

theorem within (nearest : Nearest exact whole) : |exact - whole| ≤ 1 / 2 := by
  have above := nearest.closest (whole + 1)
  have below := nearest.closest (whole - 1)
  push_cast at above below
  rcases le_total 0 (exact - whole) with right | left
  · rw [abs_of_nonneg right] at above ⊢
    by_contra far
    have closer : |exact - (whole + 1)| < exact - whole := by
      rw [abs_lt]
      constructor <;> linarith
    exact absurd above (not_le.mpr closer)
  · rw [abs_of_nonpos left] at below ⊢
    by_contra far
    have closer : |exact - (whole - 1)| < -(exact - whole) := by
      rw [abs_lt]
      constructor <;> linarith
    exact absurd below (not_le.mpr closer)

theorem even_of_tie (nearest : Nearest exact whole) (tie : |exact - whole| = 1 / 2) :
    Even whole := by
  rcases (abs_eq (by norm_num)).mp tie with above | below
  · apply nearest.even (whole + 1) (by omega)
    rw [tie, Int.cast_add, Int.cast_one, ← sub_sub, above]
    norm_num
  · apply nearest.even (whole - 1) (by omega)
    rw [tie, Int.cast_sub, Int.cast_one, ← sub_add, below]
    norm_num

theorem unique (first : Nearest exact whole) (second : Nearest exact other) : whole = other := by
  by_contra different
  have same : |exact - other| = |exact - whole| :=
    le_antisymm (second.closest whole) (first.closest other)
  have wholeEven := first.even other (Ne.symm different) same
  have otherEven := second.even whole different same.symm
  have triangle := abs_sub_le (whole : ℚ) exact other
  rw [abs_sub_comm (whole : ℚ) exact, same] at triangle
  have near : |(whole : ℚ) - other| ≤ 1 := by linarith [first.within]
  have nearWhole : |whole - other| ≤ 1 := by exact_mod_cast near
  rcases wholeEven with ⟨half, rfl⟩
  rcases otherEven with ⟨otherHalf, rfl⟩
  rw [abs_le] at nearWhole
  omega

theorem neg (nearest : Nearest exact whole) : Nearest (-exact) (-whole) := by
  have mirrored : |-exact - ((-whole : ℤ) : ℚ)| = |exact - whole| := by
    rw [Int.cast_neg, ← neg_sub', abs_neg]
  apply of_within
  · rw [mirrored]
    exact nearest.within
  · rw [mirrored, even_neg]
    exact nearest.even_of_tie

/-- What is at most as far from a whole number as something nearest to it is nearest to it too. -/
theorem of_closer {closer : ℚ} (nearest : Nearest exact whole)
    (close : |closer - whole| ≤ |exact - whole|) : Nearest closer whole := by
  apply of_within (close.trans nearest.within)
  intro tie
  exact nearest.even_of_tie (le_antisymm nearest.within (tie ▸ close))

end Nearest

theorem round_div_even_of_tie (numerator denominator : Nat) (positive : 0 < denominator)
    (tie : 2 * numerator = 2 * (roundDiv numerator denominator * denominator) + denominator ∨
      2 * numerator + denominator = 2 * (roundDiv numerator denominator * denominator)) :
    Even (roundDiv numerator denominator) := by
  have divided := Nat.div_add_mod numerator denominator
  have commuted := Nat.mul_comm denominator (numerator / denominator)
  have small := Nat.mod_lt numerator positive
  simp only [roundDiv] at tie ⊢
  split at tie
  · omega
  · split at tie
    · rw [Nat.add_mul] at tie
      omega
    · rename_i upper lower
      rw [if_neg upper, if_neg lower, Nat.even_iff]
      omega

theorem nearest_round_div (numerator denominator : Nat) (positive : 0 < denominator) :
    Nearest (numerator / denominator) (roundDiv numerator denominator : ℤ) := by
  have upper := round_div_mul_le numerator denominator positive
  have lower := le_round_div_mul numerator denominator positive
  have even := round_div_even_of_tie numerator denominator positive
  have scale : (0 : ℚ) < denominator := by exact_mod_cast positive
  generalize roundDiv numerator denominator = rounded at upper lower even ⊢
  have distance : (numerator / denominator : ℚ) - (rounded : ℤ) =
      (numerator - rounded * denominator) / denominator := by
    rw [Int.cast_natCast]
    field_simp
  have upperRat : 2 * ((rounded : ℚ) * denominator) ≤ 2 * numerator + denominator := by
    exact_mod_cast upper
  have lowerRat : 2 * (numerator : ℚ) ≤ 2 * (rounded * denominator) + denominator := by
    exact_mod_cast lower
  apply Nearest.of_within
  · rw [distance, abs_div, abs_of_pos scale, div_le_iff₀ scale, abs_le]
    constructor <;> linarith
  · intro tie
    rw [distance, abs_div, abs_of_pos scale, div_eq_iff scale.ne', abs_eq (by positivity)] at tie
    rw [Int.even_coe_nat]
    apply even
    rcases tie with above | below
    · left
      have doubled : 2 * (numerator : ℚ) = 2 * (rounded * denominator) + denominator := by linarith
      exact_mod_cast doubled
    · right
      have doubled : 2 * (numerator : ℚ) + denominator = 2 * (rounded * denominator) := by linarith
      exact_mod_cast doubled

end Keypad
