import Mathlib
import Authoring.Proofs.Decimal.Nearest

/-! What sums, differences, products and quotients of finite floats are: the exact results, rounded
to the nearest floats. -/

namespace Authoring

open Float.Model Float.Model.UnpackedFloat

namespace Decimal

variable {a b : Float} {left right : ℚ}

theorem decreaseExponent_value (number : Dyadic) {least : ℤ} (le : least ≤ number.exponent) :
    ((signOf number.negative).apply
        (decreaseExponent number.significand number.exponent least).1 : ℤ) * (2 : ℚ) ^ least =
      number.value := by
  have scaled : (2 : ℚ) ^ (number.exponent - least).toNat * 2 ^ least = 2 ^ number.exponent := by
    rw [pow_mul_zpow, Int.toNat_of_nonneg (by omega), sub_add_cancel]
  have size : ((decreaseExponent number.significand number.exponent least).1 : ℚ) * 2 ^ least =
      number.size := by
    simp only [decreaseExponent, Nat.shiftLeft_eq]
    push_cast
    rw [mul_assoc, scaled, Dyadic.size]
  rw [Dyadic.value, ← size]
  cases number.negative <;> simp [signOf, Sign.apply]

theorem rational?_add (leftValue : rational? a = some left)
    (rightValue : rational? b = some right) : rational? (a + b) = rounded? (left + right) := by
  obtain ⟨first, firstFound, rfl⟩ := Option.map_eq_some_iff.mp leftValue
  obtain ⟨second, secondFound, rfl⟩ := Option.map_eq_some_iff.mp rightValue
  change rational? (.ofModel (.pack (UnpackedFloat.add _ a.toModel.unpack b.toModel.unpack))) = _
  have firstFits := Dyadic.ofFloat?_fits firstFound
  have secondFits := Dyadic.ofFloat?_fits secondFound
  rw [Dyadic.unpack_eq firstFound, Dyadic.unpack_eq secondFound]
  rcases Nat.eq_zero_or_pos first.significand with firstZero | firstPositive
  · rcases Nat.eq_zero_or_pos second.significand with secondZero | secondPositive
    · rw [first.value_of_zero firstZero, second.value_of_zero secondZero, add_zero, rounded?_zero,
        first.unpacked_of_zero firstZero, second.unpacked_of_zero secondZero, UnpackedFloat.add]
      split <;> exact rational?_zero _
    · rw [first.value_of_zero firstZero, zero_add, rounded?_value secondFits,
        ← rational?_pack_value secondFits, first.unpacked_of_zero firstZero,
        second.unpacked_of_pos secondPositive]
      rfl
  · rcases Nat.eq_zero_or_pos second.significand with secondZero | secondPositive
    · rw [second.value_of_zero secondZero, add_zero, rounded?_value firstFits,
        ← rational?_pack_value firstFits, first.unpacked_of_pos firstPositive,
        second.unpacked_of_zero secondZero]
      rfl
    · rw [first.unpacked_of_pos firstPositive, second.unpacked_of_pos secondPositive]
      simp only [UnpackedFloat.add]
      rw [rational?_normalize, Int.cast_add, add_mul,
        decreaseExponent_value first (min_le_left _ _),
        decreaseExponent_value second (min_le_right _ _)]

theorem unpackedSub_eq_add_neg (format : Format) (x y : UnpackedFloat) :
    UnpackedFloat.sub format x y = UnpackedFloat.add format x y.neg := by
  cases x <;> cases y <;> try rfl
  case finite.finite s₁ m₁ e₁ p₁ s₂ m₂ e₂ p₂ =>
    simp only [UnpackedFloat.sub, UnpackedFloat.add, UnpackedFloat.neg, sub_eq_add_neg]
    congr 2
    cases s₂ with
    | negative => exact neg_neg _
    | positive => rfl

theorem rational?_sub (leftValue : rational? a = some left)
    (rightValue : rational? b = some right) : rational? (a - b) = rounded? (left - right) := by
  have negated := rational?_neg rightValue
  rw [sub_eq_add_neg left, ← rational?_add leftValue negated]
  change rational? (.ofModel (.pack (UnpackedFloat.sub _ a.toModel.unpack b.toModel.unpack))) =
    rational? (.ofModel (.pack (UnpackedFloat.add _ a.toModel.unpack b.neg.toModel.unpack)))
  obtain ⟨number, found, rfl⟩ := Option.map_eq_some_iff.mp rightValue
  have flipped : b.neg.toModel.unpack = b.toModel.unpack.neg := by
    rw [Dyadic.unpack_eq (Dyadic.ofFloat?_neg found), Dyadic.unpack_eq found, Dyadic.unpacked,
      Dyadic.unpacked]
    split <;> cases number.negative <;> rfl
  rw [unpackedSub_eq_add_neg, flipped]

/-! Products and quotients -/

section Sizes

variable (first second : Dyadic)

theorem value_mul : first.value * second.value =
    if first.negative ^^ second.negative then -(first.size * second.size)
    else first.size * second.size := by
  rw [Dyadic.value, Dyadic.value]
  cases first.negative <;> cases second.negative <;> simp

theorem value_div : first.value / second.value =
    if first.negative ^^ second.negative then -(first.size / second.size)
    else first.size / second.size := by
  rw [Dyadic.value, Dyadic.value]
  cases first.negative <;> cases second.negative <;> simp [neg_div, div_neg]

theorem size_mul : first.size * second.size = (first.significand * second.significand : ℕ) *
    2 ^ (first.exponent + second.exponent) := by
  rw [Dyadic.size, Dyadic.size, zpow_add₀ (by norm_num)]
  push_cast
  ring

theorem size_div {exponent : ℤ} (fine : exponent ≤ first.exponent - second.exponent) :
    first.size / second.size / 2 ^ exponent =
      (first.significand * 2 ^ (first.exponent - second.exponent - exponent).toNat : ℕ) /
        second.significand := by
  have power : (2 : ℚ) ^ (first.exponent - second.exponent - exponent).toNat =
      2 ^ first.exponent / 2 ^ second.exponent / 2 ^ exponent := by
    rw [← zpow_natCast, Int.toNat_of_nonneg (by omega), zpow_sub₀ (by norm_num),
      zpow_sub₀ (by norm_num)]
  rw [Nat.cast_mul, Nat.cast_pow, Nat.cast_ofNat, power, Dyadic.size, Dyadic.size]
  field_simp

theorem le_log_div (firstPositive : 0 < first.significand)
    (secondPositive : 0 < second.significand) :
    first.significand.log2 + first.exponent - (second.significand.log2 + second.exponent) - 1 ≤
      Int.log 2 (first.size / second.size) := by
  have divisor := second.size_pos_iff.mpr secondPositive
  have positive := div_pos (first.size_pos_iff.mpr firstPositive) divisor
  have below : second.size ≤ 2 ^ (second.significand.log2 + 1) * 2 ^ second.exponent := by
    unfold Dyadic.size
    gcongr
    exact_mod_cast Nat.lt_log2_self.le
  have above : 2 ^ first.significand.log2 * 2 ^ first.exponent ≤ first.size := by
    unfold Dyadic.size
    gcongr
    exact_mod_cast Nat.log2_self_le firstPositive.ne'
  rw [← Int.zpow_le_iff_le_log (by norm_num) positive, le_div_iff₀ divisor]
  refine (mul_le_mul_of_nonneg_left below (by positivity)).trans ?_
  refine le_trans (le_of_eq ?_) above
  rw [pow_mul_zpow, pow_mul_zpow, Nat.cast_ofNat, ← zpow_add₀ (by norm_num)]
  congr 1
  push_cast
  ring

end Sizes

theorem rational?_mul (leftValue : rational? a = some left)
    (rightValue : rational? b = some right) : rational? (a * b) = rounded? (left * right) := by
  obtain ⟨first, firstFound, rfl⟩ := Option.map_eq_some_iff.mp leftValue
  obtain ⟨second, secondFound, rfl⟩ := Option.map_eq_some_iff.mp rightValue
  change rational? (.ofModel (.pack (UnpackedFloat.mul _ a.toModel.unpack b.toModel.unpack))) = _
  have firstFits := Dyadic.ofFloat?_fits firstFound
  have secondFits := Dyadic.ofFloat?_fits secondFound
  rw [Dyadic.unpack_eq firstFound, Dyadic.unpack_eq secondFound]
  rcases Nat.eq_zero_or_pos first.significand with firstZero | firstPositive
  · rw [first.value_of_zero firstZero, zero_mul, rounded?_zero, first.unpacked_of_zero firstZero,
      Dyadic.unpacked]
    split <;> exact rational?_zero _
  rcases Nat.eq_zero_or_pos second.significand with secondZero | secondPositive
  · rw [second.value_of_zero secondZero, mul_zero, rounded?_zero,
      first.unpacked_of_pos firstPositive, second.unpacked_of_zero secondZero]
    exact rational?_zero _
  rw [first.unpacked_of_pos firstPositive, second.unpacked_of_pos secondPositive]
  have positive := Nat.mul_pos firstPositive secondPositive
  have product := size_mul first second
  have sign : signOf first.negative * signOf second.negative =
      signOf (first.negative ^^ second.negative) := by
    cases first.negative <;> cases second.negative <;> rfl
  have target := targetExponent_of_bounds (x := first.size * second.size) positive.ne' product.ge
    (by rw [product]; gcongr; linarith)
  simp only [UnpackedFloat.mul]
  rw [sign, value_mul]
  refine rational?_roundWithAccuracy _ (by rw [product]; positivity) ?_ ?_
  · rw [product, mul_div_cancel_right₀ _ (by positivity)]
    exact .whole _
  · -- Either the product has all the digits of a float, or both exponents are the least.
    have digits : 52 ≤ (first.significand * second.significand).log2 ∨
        first.exponent + second.exponent ≤ -1074 := by
      by_cases short : first.significand * second.significand < 2 ^ 52
      · have left := firstFits.full.resolve_left
          (Nat.lt_of_le_of_lt (Nat.le_mul_of_pos_right _ secondPositive) short).not_ge
        have right := secondFits.full.resolve_left
          (Nat.lt_of_le_of_lt (Nat.le_mul_of_pos_left _ firstPositive) short).not_ge
        omega
      · exact .inl ((Nat.le_log2 positive.ne').mpr (not_lt.mp short))
    rw [← target, targetExponent_eq]
    omega

theorem rational?_div (leftValue : rational? a = some left)
    (rightValue : rational? b = some right) (nonzero : right ≠ 0) :
    rational? (a / b) = rounded? (left / right) := by
  obtain ⟨first, firstFound, rfl⟩ := Option.map_eq_some_iff.mp leftValue
  obtain ⟨second, secondFound, rfl⟩ := Option.map_eq_some_iff.mp rightValue
  change rational? (.ofModel (.pack (UnpackedFloat.div _ a.toModel.unpack b.toModel.unpack))) = _
  rw [Dyadic.unpack_eq firstFound, Dyadic.unpack_eq secondFound]
  have secondPositive : 0 < second.significand := by
    by_contra zero
    exact nonzero (second.value_of_zero (by omega))
  rcases Nat.eq_zero_or_pos first.significand with firstZero | firstPositive
  · rw [first.value_of_zero firstZero, zero_div, rounded?_zero, first.unpacked_of_zero firstZero,
      second.unpacked_of_pos secondPositive]
    exact rational?_zero _
  rw [first.unpacked_of_pos firstPositive, second.unpacked_of_pos secondPositive]
  have positive : 0 < first.size / second.size :=
    div_pos (first.size_pos_iff.mpr firstPositive) (second.size_pos_iff.mpr secondPositive)
  have sign : signOf first.negative / signOf second.negative =
      signOf (first.negative ^^ second.negative) := by
    cases first.negative <;> cases second.negative <;> rfl
  have least : Format.binary64.minExponent = -1074 := by decide
  simp only [UnpackedFloat.div, divCore, Nat.shiftLeft_eq]
  rw [sign, value_div]
  generalize bound : Format.binary64.targetExponent
      (totalExponent first.significand first.exponent -
        totalExponent second.significand second.exponent) = target
  simp only [Format.targetExponent, totalExponent, Format.mantissaBits, least] at bound
  refine rational?_roundWithAccuracy _ positive ?_ ?_
  · rw [size_div first second (min_le_left _ _)]
    exact .quotient _ secondPositive
  · have log := le_log_div first second firstPositive secondPositive
    rw [place, abs_of_pos positive]
    omega

/-! Finite parts -/

theorem rational?_pack_infinite {unpacked : UnpackedFloat} (infinite : unpacked.isFinite = false) :
    rational? (.ofModel (.pack unpacked)) = none := by
  cases unpacked with
  | notANumber =>
      have none : Dyadic.ofFloat? (.ofModel (.pack .notANumber)) = none := by decide +kernel
      rw [rational?, none]
      rfl
  | infinity sign =>
      have none : Dyadic.ofFloat? (.ofModel (.pack (.infinity sign))) = none := by
        cases sign <;> decide +kernel
      rw [rational?, none]
      rfl
  | zero | finite => cases infinite

theorem exists_of_isFinite (finite : a.isFinite = true) : ∃ value, rational? a = some value := by
  cases found : rational? a with
  | some value => exact ⟨value, rfl⟩
  | none =>
      have infinite := Dyadic.isFinite_of_none (Option.map_eq_none_iff.mp found)
      exact absurd finite (Bool.eq_false_iff.mp infinite)

theorem exists_of_add {total : ℚ} (found : rational? (a + b) = some total) :
    (∃ left, rational? a = some left) ∧ ∃ right, rational? b = some right := by
  have finite : (UnpackedFloat.add Format.binary64 a.toModel.unpack b.toModel.unpack).isFinite =
      true := by
    by_contra infinite
    have none := rational?_pack_infinite (Bool.eq_false_iff.mpr infinite)
    exact Option.some_ne_none _ (found.symm.trans none)
  have parts : a.toModel.unpack.isFinite = true ∧ b.toModel.unpack.isFinite = true := by
    generalize a.toModel.unpack = x at finite
    generalize b.toModel.unpack = y at finite
    cases x <;> cases y <;> try first | exact ⟨rfl, rfl⟩ | cases finite
    simp only [UnpackedFloat.add] at finite
    split at finite <;> cases finite
  exact ⟨exists_of_isFinite parts.1, exists_of_isFinite parts.2⟩

end Decimal

end Authoring
