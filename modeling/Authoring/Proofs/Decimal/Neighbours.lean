import Mathlib
import Authoring.Proofs.Decimal.Words

/-! Integers that floats do not tell apart. The nearest floats of two integers are in the order of the
integers, unless one float is the nearest to both. That takes integers of more than 53 binary digits
that lie close together. -/

namespace Authoring.Decimal

theorem rounded_monotone : Monotone rounded := by
  intro x y le
  rcases le_total 0 x with nonneg | negative
  · exact rounded_mono nonneg le
  rcases le_total y 0 with below | above
  · have flipped := rounded_mono (neg_nonneg.mpr below) (neg_le_neg le)
    rw [rounded_neg, rounded_neg] at flipped
    exact neg_le_neg_iff.mp flipped
  · have least := rounded_nonneg (neg_nonneg.mpr negative)
    rw [rounded_neg] at least
    linarith [rounded_nonneg above]

/-- One float is the nearest to both integers. -/
def SameFloat (left right : ℤ) : Prop :=
  rounded left = rounded right

variable {left right : ℤ}

theorem rounded_lt_iff :
    rounded left < rounded right ↔ left < right ∧ ¬SameFloat left right := by
  have order {first second : ℤ} (le : first ≤ second) : rounded first ≤ rounded second :=
    rounded_monotone (Int.cast_le.mpr le)
  constructor
  · exact fun less => ⟨lt_of_not_ge fun le => (order le).not_gt less, less.ne⟩
  · exact fun ⟨less, apart⟩ => (order less.le).lt_of_ne apart

theorem ofInt_lt_iff (leftWide : left.natAbs < 2 ^ 65) (rightWide : right.natAbs < 2 ^ 65) :
    Float.ofInt left < Float.ofInt right ↔ left < right ∧ ¬SameFloat left right := by
  obtain ⟨near, value, found⟩ := rational?_ofInt_rounded leftWide
  obtain ⟨other, otherValue, otherFound⟩ := rational?_ofInt_rounded rightWide
  rw [lt_iff found otherFound, value, otherValue, rounded_lt_iff]

theorem isHeld_of_power {exponent : ℕ} (full : left.natAbs = 2 ^ exponent) : IsHeld left := by
  rcases Int.natAbs_eq left with same | same
  · exact ⟨1, exponent, by decide, by rw [same, full]; simp⟩
  · exact ⟨-1, exponent, by decide, by rw [same, full]; simp⟩

theorem isHeld_of_le (small : left.natAbs ≤ 2 ^ 53) : IsHeld left :=
  small.lt_or_eq.elim isHeld_of_small isHeld_of_power

theorem rounded_near_of_digits {digits : ℕ} (small : left.natAbs < 2 ^ (53 + digits)) :
    |rounded left - left| ≤ 2 ^ digits / 2 := by
  rcases eq_or_ne left 0 with rfl | nonzero
  · rw [Int.cast_zero, rounded_zero, sub_zero, abs_zero]
    positivity
  · have bound : |(left : ℚ)| < 2 ^ 53 * 2 ^ (digits : ℤ) := by
      rw [zpow_natCast, ← pow_add, ← Int.cast_abs, Int.abs_eq_natAbs]
      exact_mod_cast small
    have fine := place_le_of_lt (Int.cast_ne_zero.mpr nonzero) bound (by omega)
    have power : (2 : ℚ) ^ place left ≤ 2 ^ (digits : ℤ) := zpow_le_zpow_right₀ (by norm_num) fine
    rw [zpow_natCast] at power
    linarith [rounded_near (left : ℚ)]

namespace SameFloat

theorem symm (same : SameFloat left right) : SameFloat right left :=
  Eq.symm same

theorem eq_of_isHeld (same : SameFloat left right) (leftHeld : IsHeld left)
    (rightHeld : IsHeld right) : left = right := by
  rw [SameFloat, rounded_of_isHeld leftHeld, rounded_of_isHeld rightHeld] at same
  exact Int.cast_injective same

theorem eq_of_small (same : SameFloat left right) (small : left.natAbs < 2 ^ 53) :
    left = right := by
  have value := rounded_of_isHeld (isHeld_of_small small)
  rw [SameFloat, value] at same
  rcases lt_trichotomy left right with less | equal | more
  · have held : IsHeld (left + 1) := isHeld_of_le (by omega)
    have order := rounded_monotone (Int.cast_le (R := ℚ).mpr (Int.add_one_le_of_lt less))
    rw [rounded_of_isHeld held, ← same, Int.cast_le] at order
    omega
  · exact equal
  · have held : IsHeld (left - 1) := isHeld_of_le (by omega)
    have order := rounded_monotone (Int.cast_le (R := ℚ).mpr (Int.le_sub_one_of_lt more))
    rw [rounded_of_isHeld held, ← same, Int.cast_le] at order
    omega

theorem near (same : SameFloat left right) (leftWide : left.natAbs < 2 ^ 64)
    (rightWide : right.natAbs ≤ 2 ^ 63) : |left - right| ≤ 1536 := by
  have first : |rounded left - left| ≤ 2 ^ 11 / 2 := rounded_near_of_digits leftWide
  have second : |rounded right - right| ≤ 2 ^ 10 / 2 := by
    rcases rightWide.lt_or_eq with less | full
    · exact rounded_near_of_digits less
    · rw [rounded_of_isHeld (isHeld_of_power full), sub_self, abs_zero]
      positivity
  rw [SameFloat] at same
  rw [same, abs_sub_comm] at first
  have between : |(left : ℚ) - right| ≤ 2 ^ 11 / 2 + 2 ^ 10 / 2 :=
    (abs_sub_le _ (rounded right) _).trans (add_le_add first second)
  norm_num at between
  exact_mod_cast between

end SameFloat

example : SameFloat 9223372036854776832 9223372036854775296 := by
  unfold SameFloat
  decide +kernel

end Authoring.Decimal
