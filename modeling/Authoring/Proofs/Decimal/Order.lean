import Mathlib
import Authoring.Proofs.Decimal.Packing

/-! The exact values of finite floats. Comparing two finite floats compares their values. -/

namespace Authoring

open Float.Model

namespace Dyadic

def size (number : Dyadic) : ℚ :=
  number.significand * 2 ^ number.exponent

def value (number : Dyadic) : ℚ :=
  if number.negative then -number.size else number.size

theorem size_nonneg (number : Dyadic) : 0 ≤ number.size := by
  unfold size
  positivity

theorem size_eq_div (number : Dyadic) :
    number.size = (number.significand <<< number.exponent.toNat : ℕ) /
      (1 <<< (-number.exponent).toNat : ℕ) := by
  have power : (2 : ℚ) ^ number.exponent =
      2 ^ number.exponent.toNat / 2 ^ (-number.exponent).toNat := by
    rw [← zpow_natCast, ← zpow_natCast, ← zpow_sub₀ (by norm_num)]
    congr 1
    omega
  rw [size, power, Nat.shiftLeft_eq, Nat.one_shiftLeft]
  push_cast
  ring

theorem size_pos_iff (number : Dyadic) : 0 < number.size ↔ 0 < number.significand := by
  have positive : (0 : ℚ) < 2 ^ number.exponent := by positivity
  simp [size, positive]

theorem size_lt_of_exponent_lt {left right : Dyadic} (leftFits : left.Fits)
    (rightFits : right.Fits) (smaller : left.exponent < right.exponent) :
    left.size < right.size := by
  have full : 2 ^ 52 ≤ right.significand := by
    have least := leftFits.least
    exact rightFits.full.resolve_right (by omega)
  have positive : (0 : ℚ) < 2 ^ left.exponent := by positivity
  calc
    left.size < 2 ^ 53 * 2 ^ left.exponent := by
      unfold size
      gcongr
      exact_mod_cast leftFits.upper
    _ = 2 ^ 52 * 2 ^ (left.exponent + 1) := by
      rw [zpow_add₀ (by norm_num)]
      ring
    _ ≤ right.significand * 2 ^ right.exponent := by
      gcongr
      · exact_mod_cast full
      · norm_num
      · omega

theorem size_lt_iff {left right : Dyadic} (leftFits : left.Fits) (rightFits : right.Fits) :
    left.size < right.size ↔ left.exponent < right.exponent ∨
      left.exponent = right.exponent ∧ left.significand < right.significand := by
  have positive : (0 : ℚ) < 2 ^ left.exponent := by positivity
  rcases lt_trichotomy left.exponent right.exponent with smaller | same | larger
  · simp [smaller, size_lt_of_exponent_lt leftFits rightFits smaller]
  · simp only [size, same, lt_irrefl, true_and, false_or]
    rw [← same, mul_lt_mul_iff_left₀ positive]
    exact Nat.cast_lt
  · have reverse := size_lt_of_exponent_lt rightFits leftFits larger
    constructor
    · intro less
      exact (lt_asymm less reverse).elim
    · omega

theorem compare_parts {left right : Dyadic} (leftFits : left.Fits) (rightFits : right.Fits) :
    (compare left.exponent right.exponent).then (compare left.significand right.significand) =
      compare left.size right.size := by
  have forward := size_lt_iff leftFits rightFits
  have backward := size_lt_iff rightFits leftFits
  rcases lt_trichotomy left.size right.size with less | same | more
  · rw [compare_lt_iff_lt.mpr less]
    rcases forward.mp less with smaller | ⟨level, smaller⟩
    · rw [compare_lt_iff_lt.mpr smaller]
      rfl
    · rw [compare_eq_iff_eq.mpr level, compare_lt_iff_lt.mpr smaller]
      rfl
  · have level : left.exponent = right.exponent := by
      by_contra different
      rcases lt_or_gt_of_ne different with smaller | larger
      · exact (forward.mpr (.inl smaller)).ne same
      · exact (backward.mpr (.inl larger)).ne same.symm
    have equal : left.significand = right.significand := by
      by_contra different
      rcases lt_or_gt_of_ne different with smaller | larger
      · exact (forward.mpr (.inr ⟨level, smaller⟩)).ne same
      · exact (backward.mpr (.inr ⟨level.symm, larger⟩)).ne same.symm
    rw [compare_eq_iff_eq.mpr same, compare_eq_iff_eq.mpr level, compare_eq_iff_eq.mpr equal]
    rfl
  · rw [compare_gt_iff_gt.mpr more]
    rcases backward.mp more with larger | ⟨level, larger⟩
    · rw [compare_gt_iff_gt.mpr larger]
      rfl
    · rw [compare_eq_iff_eq.mpr level.symm, compare_gt_iff_gt.mpr larger]
      rfl

theorem compare_neg (left right : ℚ) : (compare left right).swap = compare (-left) (-right) := by
  rcases lt_trichotomy left right with less | same | more
  · rw [compare_lt_iff_lt.mpr less, compare_gt_iff_gt.mpr (neg_lt_neg less)]
    rfl
  · rw [compare_eq_iff_eq.mpr same, compare_eq_iff_eq.mpr (congrArg Neg.neg same)]
    rfl
  · rw [compare_gt_iff_gt.mpr more, compare_lt_iff_lt.mpr (neg_lt_neg more)]
    rfl

theorem compare_unpacked {left right : Dyadic} (leftFits : left.Fits) (rightFits : right.Fits) :
    left.unpacked.compare right.unpacked = some (compare left.value right.value) := by
  have parts := compare_parts leftFits rightFits
  have swapped := compare_neg left.size right.size
  have leftSize := left.size_nonneg
  have rightSize := right.size_nonneg
  have leftPositive := left.size_pos_iff
  have rightPositive := right.size_pos_iff
  unfold unpacked value
  split <;> split <;> cases left.negative <;> cases right.negative <;>
    simp only [signOf, UnpackedFloat.compare, parts, swapped, if_true, if_false,
      Bool.false_eq_true, Option.some.injEq]
  -- What is left compares numbers of different signs, or a number with zero.
  all_goals
    symm
    first
    | exact compare_gt_iff_gt.mpr (by grind)
    | exact compare_lt_iff_lt.mpr (by grind)
    | exact compare_eq_iff_eq.mpr (by grind)

end Dyadic

namespace Decimal

def rational? (x : Float) : Option ℚ :=
  (Dyadic.ofFloat? x).map Dyadic.value

variable {x y : Float} {left right : ℚ}

theorem compare_rational (leftValue : rational? x = some left)
    (rightValue : rational? y = some right) :
    x.toModel.unpack.compare y.toModel.unpack = some (compare left right) := by
  obtain ⟨first, firstFound, rfl⟩ := Option.map_eq_some_iff.mp leftValue
  obtain ⟨second, secondFound, rfl⟩ := Option.map_eq_some_iff.mp rightValue
  rw [Dyadic.unpack_eq firstFound, Dyadic.unpack_eq secondFound]
  exact Dyadic.compare_unpacked (Dyadic.ofFloat?_fits firstFound)
    (Dyadic.ofFloat?_fits secondFound)

theorem lt_iff_compare : x < y ↔ x.toModel.unpack.compare y.toModel.unpack = some .lt := by
  change x.lt y = true ↔ _
  simp only [Float.lt, LT.lt, Float.Model.lt, UnpackedFloat.lt, decide_eq_true_eq, beq_iff_eq]

theorem lt_iff (leftValue : rational? x = some left) (rightValue : rational? y = some right) :
    x < y ↔ left < right := by
  rw [lt_iff_compare, compare_rational leftValue rightValue, Option.some.injEq, compare_lt_iff_lt]

theorem le_iff_compare : x ≤ y ↔ (x.toModel.unpack.compare y.toModel.unpack).any (·.isLE) := by
  change x.le y = true ↔ _
  simp only [Float.le, LE.le, Float.Model.le, UnpackedFloat.le]
  exact decide_eq_true_iff

theorem le_iff (leftValue : rational? x = some left) (rightValue : rational? y = some right) :
    x ≤ y ↔ left ≤ right := by
  rw [le_iff_compare, compare_rational leftValue rightValue, Option.any_some, ← not_lt,
    Ordering.isLE_iff_ne_gt, compare_gt_iff_gt]

theorem beq_iff (leftValue : rational? x = some left) (rightValue : rational? y = some right) :
    (x == y) = true ↔ left = right := by
  change (x.toModel.unpack.compare y.toModel.unpack == some .eq) = true ↔ _
  rw [compare_rational leftValue rightValue, beq_iff_eq, Option.some.injEq, compare_eq_iff_eq]

theorem rational?_neg {x : Float} {value : ℚ} (exact : rational? x = some value) :
    rational? x.neg = some (-value) := by
  obtain ⟨number, found, rfl⟩ := Option.map_eq_some_iff.mp exact
  rw [rational?, Dyadic.ofFloat?_neg found]
  cases sign : number.negative <;> simp [Dyadic.value, Dyadic.size, sign]

theorem unpacked_of_rational {x : Float} {value : ℚ} (exact : rational? x = some value) :
    ∃ number : Dyadic, x.toModel.unpack = number.unpacked := by
  obtain ⟨number, found, _⟩ := Option.map_eq_some_iff.mp exact
  exact ⟨number, Dyadic.unpack_eq found⟩

end Decimal

end Authoring
