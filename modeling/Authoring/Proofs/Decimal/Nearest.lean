import Mathlib
import Authoring.Proofs.Decimal.Order
import Authoring.Proofs.Decimal.Rounding

/-! How floats are made of more digits than they have room for. The digits that are shifted out
leave enough behind to find the nearest float to the exact number. -/

namespace Authoring

open Float.Model Float.Model.UnpackedFloat

namespace Decimal

/-! Digits that are shifted out -/

/-- The digits that are kept, and two bits that tell where `x` lies between them and the next. -/
structure Describes (digits : ExtendedMantissa) (x : ℚ) : Prop where
  lower : digits.mantissa ≤ x
  upper : x < digits.mantissa + 1
  round : digits.roundBit = true ↔ digits.mantissa + 1 / 2 ≤ x
  sticky : digits.stickyBit = true ↔ x ≠ digits.mantissa ∧ x ≠ digits.mantissa + 1 / 2

namespace Describes

variable {digits : ExtendedMantissa} {x : ℚ}

theorem lost (described : Describes digits x) :
    (digits.roundBit || digits.stickyBit) = true ↔ x ≠ digits.mantissa := by
  rw [Bool.or_eq_true, described.round, described.sticky]
  constructor
  · rintro (above | ⟨apart, -⟩)
    · intro same
      linarith
    · exact apart
  · intro apart
    by_contra! below
    have half := below.2 apart
    linarith [below.1]

theorem shiftRightOne (described : Describes digits x) :
    Describes digits.shiftRightOne (x / 2) := by
  have lost := described.lost
  obtain ⟨mantissa, roundBit, stickyBit⟩ := digits
  obtain ⟨lower, upper, round, sticky⟩ := described
  have split : (mantissa : ℚ) = 2 * (mantissa / 2 : ℕ) + (mantissa % 2 : ℕ) := by
    exact_mod_cast (Nat.div_add_mod mantissa 2).symm
  simp only at lower upper round sticky lost
  -- The digit that goes becomes the round bit; the bits before it only tell whether more is lost.
  rcases Nat.mod_two_eq_zero_or_one mantissa with even | odd
  · rw [even] at split
    push_cast at split
    constructor <;> simp only [ExtendedMantissa.shiftRightOne]
    · linarith
    · linarith
    · simp only [even, bne_self_eq_false, Bool.false_eq_true, false_iff, not_le]
      linarith
    · rw [lost]
      constructor
      · intro apart
        exact ⟨fun same => apart (by linarith), by intro; linarith⟩
      · rintro ⟨apart, -⟩ same
        exact apart (by linarith)
  · rw [odd] at split
    push_cast at split
    constructor <;> simp only [ExtendedMantissa.shiftRightOne]
    · linarith
    · linarith
    · simp only [odd, bne_iff_ne, ne_eq, one_ne_zero, not_false_eq_true, true_iff]
      linarith
    · rw [lost]
      constructor
      · intro apart
        exact ⟨by intro; linarith, fun same => apart (by linarith)⟩
      · rintro ⟨-, apart⟩ same
        exact apart (by linarith)

theorem shiftRight (described : Describes digits x) (count : ℕ) :
    Describes (digits >>> count) (x / 2 ^ count) := by
  change Describes (count.repeat ExtendedMantissa.shiftRightOne digits) _
  induction count with
  | zero => simpa [Nat.repeat] using described
  | succ count ih =>
      rw [pow_succ, ← div_div]
      exact ih.shiftRightOne

theorem floor (described : Describes digits x) : ⌊x⌋ = (digits.mantissa : ℤ) := by
  rw [Int.floor_eq_iff]
  exact ⟨by exact_mod_cast described.lower, by exact_mod_cast described.upper⟩

theorem roundedMantissa (described : Describes digits x) :
    (digits.roundedMantissa : ℤ) = halfEven x := by
  have floor := described.floor
  obtain ⟨lower, upper, round, sticky⟩ := described
  obtain ⟨mantissa, roundBit, stickyBit⟩ := digits
  simp only at lower upper round sticky floor
  unfold halfEven
  rw [floor, Int.cast_natCast]
  cases roundBit with
  | false =>
      have below : x < mantissa + 1 / 2 := by simpa using round
      rw [if_pos below]
      cases stickyBit <;> rfl
  | true =>
      have above : mantissa + 1 / 2 ≤ x := by simpa using round
      rw [if_neg above.not_gt]
      cases stickyBit with
      | false =>
          have half : x = mantissa + 1 / 2 := by
            by_contra apart
            simp only [Bool.false_eq_true, false_iff, not_and_or, not_not, apart, or_false]
              at sticky
            linarith
          rw [if_neg half.not_gt]
          rfl
      | true =>
          rw [if_pos (above.lt_of_ne' (sticky.mp rfl).2)]
          rfl

theorem whole (count : ℕ) : Describes (.ofMantissaAndAccuracy count .exact) count := by
  constructor <;> simp [ExtendedMantissa.ofMantissaAndAccuracy]

theorem quotient (above : ℕ) {below : ℕ} (positive : 0 < below) :
    Describes (.ofMantissaAndAccuracy (above / below) (accuracyOfFraction (above % below) below))
      (above / below) := by
  have divided : (0 : ℚ) < below := by exact_mod_cast positive
  have split : (above : ℚ) / below = (above / below : ℕ) + (above % below : ℕ) / below := by
    rw [div_eq_iff divided.ne', add_mul, div_mul_cancel₀ _ divided.ne']
    exact_mod_cast (Nat.div_add_mod' above below).symm
  have less := Nat.mod_lt above positive
  rw [split]
  generalize above / below = mantissa
  generalize above % below = left at less
  by_cases nothing : left = 0
  · simpa [accuracyOfFraction, nothing] using whole mantissa
  have some : 0 < (left : ℚ) / below := by positivity
  have most : (left : ℚ) / below < 1 := by
    rw [div_lt_one divided]
    exact_mod_cast less
  rw [accuracyOfFraction, if_neg nothing]
  rcases lt_trichotomy (2 * left) below with lower | middle | upper
  · have half : (left : ℚ) / below < 1 / 2 := by
      rw [div_lt_div_iff₀ divided two_pos]
      exact_mod_cast (by omega : left * 2 < 1 * below)
    rw [compare_lt_iff_lt.mpr lower]
    constructor <;> simp [ExtendedMantissa.ofMantissaAndAccuracy, nothing, positive.ne'] <;>
      linarith
  · have half : (left : ℚ) / below = 1 / 2 := by
      rw [div_eq_div_iff divided.ne' two_ne_zero]
      exact_mod_cast (by omega : left * 2 = 1 * below)
    rw [compare_eq_iff_eq.mpr middle, half]
    constructor <;> simp [ExtendedMantissa.ofMantissaAndAccuracy]
    norm_num
  · have half : 1 / 2 < (left : ℚ) / below := by
      rw [div_lt_div_iff₀ two_pos divided]
      exact_mod_cast (by omega : 1 * below < left * 2)
    rw [compare_gt_iff_gt.mpr upper]
    constructor <;> simp [ExtendedMantissa.ofMantissaAndAccuracy, nothing, positive.ne'] <;>
      linarith

end Describes

end Decimal

/-! Rounding in the word of a float -/

structure Dyadic.Normal (number : Dyadic) : Prop where
  upper : number.significand < 2 ^ 53
  least : -1074 ≤ number.exponent
  full : 2 ^ 52 ≤ number.significand ∨ number.exponent = -1074

theorem Dyadic.Fits.normal {number : Dyadic} (fits : number.Fits) : number.Normal :=
  ⟨fits.upper, fits.least, fits.full⟩

theorem Dyadic.Normal.size_lt_iff {number : Dyadic} (normal : number.Normal) :
    number.size < 2 ^ (1024 : ℤ) ↔ number.exponent ≤ 971 := by
  obtain ⟨upper, least, full⟩ := normal
  unfold size
  constructor
  · intro small
    by_contra! large
    have least : (2 : ℚ) ^ 52 ≤ number.significand := by
      exact_mod_cast full.resolve_right (by omega)
    have reached : (2 : ℚ) ^ (1024 : ℤ) ≤ number.significand * 2 ^ number.exponent := by
      calc
        (2 : ℚ) ^ (1024 : ℤ) ≤ 2 ^ 52 * 2 ^ number.exponent := by
          rw [Decimal.pow_mul_zpow]
          apply zpow_le_zpow_right₀ (by norm_num)
          omega
        _ ≤ number.significand * 2 ^ number.exponent := by gcongr
    exact absurd small reached.not_gt
  · intro small
    calc
      number.significand * (2 : ℚ) ^ number.exponent < 2 ^ 53 * 2 ^ number.exponent := by
        gcongr
        exact_mod_cast upper
      _ ≤ 2 ^ (1024 : ℤ) := by
        rw [Decimal.pow_mul_zpow]
        apply zpow_le_zpow_right₀ (by norm_num)
        omega

theorem Dyadic.value_of_zero (number : Dyadic) (zero : number.significand = 0) :
    number.value = 0 := by
  simp [value, size, zero]

theorem Dyadic.unpacked_of_zero (number : Dyadic) (zero : number.significand = 0) :
    number.unpacked = .zero (signOf number.negative) :=
  dif_neg (by omega)

theorem Dyadic.unpacked_of_pos (number : Dyadic) (positive : 0 < number.significand) :
    number.unpacked =
      .finite (signOf number.negative) number.significand number.exponent positive :=
  dif_pos positive

theorem Dyadic.exists_multiple (number : Dyadic) :
    ∃ count : ℤ, number.value = count * 2 ^ number.exponent := by
  rw [value]
  split
  · exact ⟨-number.significand, by simp [size]⟩
  · exact ⟨number.significand, by simp [size]⟩

theorem Dyadic.abs_value (number : Dyadic) : |number.value| = number.size := by
  rw [value]
  split
  · rw [abs_neg, abs_of_nonneg number.size_nonneg]
  · rw [abs_of_nonneg number.size_nonneg]

namespace Decimal

theorem rational?_of_infinite {x : Float} {sign : Sign}
    (infinite : x.toModel.unpack = .infinity sign) : rational? x = none := by
  cases found : rational? x with
  | none => rfl
  | some value =>
      obtain ⟨number, unpacked⟩ := unpacked_of_rational found
      rw [infinite, Dyadic.unpacked] at unpacked
      split at unpacked <;> cases unpacked

theorem rational?_pack {number : Dyadic} (normal : number.Normal) :
    rational? (.ofModel (.pack number.unpacked)) =
      if |number.value| < 2 ^ (1024 : ℤ) then some number.value else none := by
  simp only [number.abs_value, normal.size_lt_iff]
  split_ifs with bounded
  · rw [rational?, Dyadic.ofFloat?_pack ⟨normal.upper, normal.least, bounded, normal.full⟩]
    rfl
  · have positive : 0 < number.significand := by
      have full := normal.full
      omega
    have infinite := Dyadic.unpack_pack_overflow number.negative positive
      (by omega : 971 < number.exponent)
    rw [Dyadic.unpacked, dif_pos positive]
    exact rational?_of_infinite infinite

variable {mantissa : ℕ} {exponent : ℤ} {accuracy : Accuracy} {x : ℚ}

theorem targetExponent_eq (mantissa : Nat) (exponent : Int) :
    Format.binary64.targetExponent (totalExponent mantissa exponent) =
      max (mantissa.log2 + exponent - 52) (-1074) := by
  have least : Format.binary64.minExponent = -1074 := by decide
  simp only [Format.targetExponent, totalExponent, Format.mantissaBits, least]
  omega

theorem targetExponent_of_bounds (nonzero : mantissa ≠ 0) (lower : mantissa * 2 ^ exponent ≤ x)
    (upper : x < (mantissa + 1) * 2 ^ exponent) :
    Format.binary64.targetExponent (totalExponent mantissa exponent) = place x := by
  have least : (2 : ℚ) ^ (mantissa.log2 + exponent : ℤ) ≤ x := by
    rw [← pow_mul_zpow]
    refine le_trans ?_ lower
    gcongr
    exact_mod_cast Nat.log2_self_le nonzero
  have most : x < (2 : ℚ) ^ ((mantissa.log2 + 1 : ℕ) + exponent : ℤ) := by
    rw [← pow_mul_zpow]
    refine upper.trans_le ?_
    gcongr
    exact_mod_cast Nat.lt_log2_self (n := mantissa)
  have positive : 0 < x := least.trans_lt' (by positivity)
  have low := (Int.zpow_le_iff_le_log (b := 2) (by norm_num) positive).mp least
  have high := (Int.lt_zpow_iff_log_lt (b := 2) (by norm_num) positive).mp most
  rw [targetExponent_eq, place, abs_of_pos positive]
  omega

theorem targetExponent_of_described (positive : 0 < x)
    (described : Describes (.ofMantissaAndAccuracy mantissa accuracy) (x / 2 ^ exponent))
    (fine : exponent ≤ place x) :
    Format.binary64.targetExponent (totalExponent mantissa exponent) = place x := by
  have kept : (ExtendedMantissa.ofMantissaAndAccuracy mantissa accuracy).mantissa = mantissa := by
    unfold ExtendedMantissa.ofMantissaAndAccuracy
    split <;> rfl
  have lower := described.lower
  have upper := described.upper
  rw [kept] at lower upper
  rw [le_div_iff₀ (by positivity)] at lower
  rw [div_lt_iff₀ (by positivity)] at upper
  by_cases zero : mantissa = 0
  · have below : Int.log 2 x < exponent := by
      rw [← Int.lt_zpow_iff_log_lt (by norm_num) positive]
      simpa [zero] using upper
    rw [place, abs_of_pos positive] at fine ⊢
    rw [targetExponent_eq, zero, Nat.log2_zero]
    omega
  · exact targetExponent_of_bounds zero lower upper

theorem shiftToTarget_carried {count : ℕ} (upper : count ≤ 2 ^ 53) (least : -1074 ≤ exponent) :
    shiftToTargetExponent Format.binary64 count exponent .exact =
      if count = 2 ^ 53 then (⟨2 ^ 52, false, false⟩, exponent + 1)
      else (⟨count, false, false⟩, exponent) := by
  split_ifs with carried
  · subst carried
    have target : Format.binary64.targetExponent (totalExponent (2 ^ 53) exponent) =
        exponent + 1 := by
      rw [targetExponent_eq, Nat.log2_two_pow]
      omega
    simp only [shiftToTargetExponent, shiftToExponent, target,
      ExtendedMantissa.ofMantissaAndAccuracy, add_sub_cancel_left]
    rfl
  · have target : Format.binary64.targetExponent (totalExponent count exponent) ≤ exponent := by
      have log : count.log2 ≤ 52 := by
        by_cases zero : count = 0
        · simp [zero]
        · have bound := (Nat.log2_lt zero (k := 53)).mpr (by omega)
          omega
      rw [targetExponent_eq]
      omega
    have unshifted : (⟨count, false, false⟩ : ExtendedMantissa) >>> 0 = ⟨count, false, false⟩ := rfl
    simp only [shiftToTargetExponent, shiftToExponent, ExtendedMantissa.ofMantissaAndAccuracy,
      Int.toNat_eq_zero.mpr (sub_nonpos.mpr target), unshifted]
    simp

theorem roundWithAccuracy_eq (negative : Bool) (positive : 0 < x)
    (described : Describes (.ofMantissaAndAccuracy mantissa accuracy) (x / 2 ^ exponent))
    (fine : exponent ≤ place x) :
    ∃ number : Dyadic, number.Normal ∧ number.value = rounded (if negative then -x else x) ∧
      roundWithAccuracy Format.binary64 (signOf negative) mantissa exponent accuracy =
        number.unpacked := by
  obtain ⟨count, shift⟩ := Int.le.dest fine
  have target := targetExponent_of_described positive described fine
  have first : shiftToTargetExponent Format.binary64 mantissa exponent accuracy =
      (ExtendedMantissa.ofMantissaAndAccuracy mantissa accuracy >>> count, place x) := by
    simp only [shiftToTargetExponent, shiftToExponent, target, ← shift, add_sub_cancel_left,
      Int.toNat_natCast]
  have shifted := described.shiftRight count
  rw [div_div, ← zpow_natCast, ← zpow_add₀ (by norm_num), shift] at shifted
  generalize ExtendedMantissa.ofMantissaAndAccuracy mantissa accuracy >>> count = digits
    at first shifted
  have nearest := shifted.roundedMantissa
  have least : -1074 ≤ place x := le_max_right _ _
  have upper : digits.roundedMantissa ≤ 2 ^ 53 := by
    have below := halfEven_place_le positive.le
    omega
  have full : 2 ^ 52 ≤ digits.roundedMantissa ∨ place x = -1074 := by
    rw [or_iff_not_imp_right]
    intro coarse
    have above := le_halfEven_place positive (by omega)
    omega
  have value : rounded x = digits.roundedMantissa * 2 ^ place x := by
    rw [rounded, ← nearest, Int.cast_natCast]
  have second := shiftToTarget_carried upper least
  have signed (number : Dyadic) (sign : number.negative = negative)
      (size : number.size = rounded x) : number.value = rounded (if negative then -x else x) := by
    rw [Dyadic.value, sign, size]
    split
    · rw [rounded_neg]
    · rfl
  -- Rounding up may carry into a digit more than there is room for.
  by_cases carried : digits.roundedMantissa = 2 ^ 53
  · rw [if_pos carried] at second
    refine ⟨⟨negative, 2 ^ 52, place x + 1⟩, ⟨by norm_num, by simp only; omega, .inl le_rfl⟩,
      signed _ rfl ?_, ?_⟩
    · rw [Dyadic.size, value, carried]
      rw [Nat.cast_pow, Nat.cast_pow, Nat.cast_ofNat, pow_mul_zpow, pow_mul_zpow]
      congr 1
      push_cast
      ring
    · simp only [roundWithAccuracy, first, second]
      rfl
  · rw [if_neg carried] at second
    refine ⟨⟨negative, digits.roundedMantissa, place x⟩, ⟨by simp only; omega, least, full⟩,
      signed _ rfl value.symm, ?_⟩
    simp only [roundWithAccuracy, first, second, Dyadic.unpacked]
    split_ifs <;> first | rfl | omega

theorem rational?_roundWithAccuracy (negative : Bool) (positive : 0 < x)
    (described : Describes (.ofMantissaAndAccuracy mantissa accuracy) (x / 2 ^ exponent))
    (fine : exponent ≤ place x) :
    rational? (.ofModel (.pack
        (roundWithAccuracy Format.binary64 (signOf negative) mantissa exponent accuracy))) =
      rounded? (if negative then -x else x) := by
  obtain ⟨number, normal, value, same⟩ := roundWithAccuracy_eq negative positive described fine
  rw [same, rational?_pack normal, value, rounded?]

/-! Rounding whole multiples of powers -/

theorem rational?_round (negative : Bool) (positive : 0 < mantissa) (exponent : ℤ) :
    rational? (.ofModel (.pack
        (UnpackedFloat.round Format.binary64 (signOf negative) mantissa exponent))) =
      rounded? (if negative then -(mantissa * 2 ^ exponent) else mantissa * 2 ^ exponent) := by
  have nonzero : (0 : ℚ) < mantissa * 2 ^ exponent := by positivity
  have target : Format.binary64.targetExponent (totalExponent mantissa exponent) =
      place (mantissa * 2 ^ exponent) :=
    targetExponent_of_bounds positive.ne' le_rfl (by gcongr; linarith)
  simp only [UnpackedFloat.round, target, decreaseExponent, Nat.shiftLeft_eq]
  refine rational?_roundWithAccuracy negative nonzero ?_ (by omega)
  have scaled : (mantissa * 2 ^ exponent : ℚ) /
      2 ^ (exponent - (exponent - place (mantissa * 2 ^ exponent)).toNat) =
      (mantissa * 2 ^ (exponent - place (mantissa * 2 ^ exponent)).toNat : ℕ) := by
    rw [mul_div_assoc, ← zpow_sub₀ (by norm_num), sub_sub_cancel, zpow_natCast]
    push_cast
    rfl
  rw [scaled]
  exact .whole _

theorem rational?_pack_value {number : Dyadic} (fits : number.Fits) :
    rational? (.ofModel (.pack number.unpacked)) = some number.value := by
  rw [rational?, Dyadic.ofFloat?_pack fits]
  rfl

theorem rational?_zero (sign : Sign) : rational? (.ofModel (.pack (.zero sign))) = some 0 := by
  have fits (negative : Bool) : Dyadic.Fits ⟨negative, 0, -1074⟩ :=
    ⟨by simp, by simp, by simp, .inr rfl⟩
  have value (negative : Bool) : Dyadic.value ⟨negative, 0, -1074⟩ = 0 := by
    simp [Dyadic.value, Dyadic.size]
  cases sign with
  | negative => exact (rational?_pack_value (fits true)).trans (by rw [value])
  | positive => exact (rational?_pack_value (fits false)).trans (by rw [value])

theorem rounded?_zero : rounded? 0 = some 0 := by
  rw [rounded?, rounded_zero, abs_zero, if_pos (by positivity)]

theorem rational?_normalize (count exponent : ℤ) (sign : Sign) :
    rational? (.ofModel (.pack (UnpackedFloat.normalize Format.binary64 count exponent sign))) =
      rounded? (count * 2 ^ exponent) := by
  unfold UnpackedFloat.normalize
  rcases lt_trichotomy count 0 with negative | rfl | positive
  · rw [compare_lt_iff_lt.mpr negative]
    obtain ⟨size, rfl⟩ := Int.exists_eq_neg_ofNat negative.le
    have rounds := rational?_round true (by omega : 0 < size) exponent
    simpa [signOf] using rounds
  · rw [compare_eq_iff_eq.mpr rfl, Int.cast_zero, zero_mul, rounded?_zero]
    exact rational?_zero sign
  · rw [compare_gt_iff_gt.mpr positive]
    obtain ⟨size, rfl⟩ := Int.eq_ofNat_of_zero_le positive.le
    have rounds := rational?_round false (by omega : 0 < size) exponent
    simpa [signOf] using rounds

theorem rounded?_value {number : Dyadic} (fits : number.Fits) :
    rounded? number.value = some number.value := by
  obtain ⟨count, multiple⟩ := number.exists_multiple
  refine rounded?_of_digits multiple ?_ fits.least fits.greatest
  rw [number.abs_value, Dyadic.size]
  gcongr
  exact_mod_cast fits.upper

end Decimal

end Authoring
