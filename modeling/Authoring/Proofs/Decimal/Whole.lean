import Mathlib
import Authoring.Proofs.Decimal.Arithmetic

/-! Whole numbers as floats. Below `2 ^ 53` they are held exactly; larger ones, whatever they are
rounded to, stay beyond every number below that bound. -/

namespace Authoring

open Float.Model Float.Model.UnpackedFloat

namespace Dyadic

theorem size_isWhole_iff (number : Dyadic) :
    number.isWhole = true ↔ ∃ whole : Int, number.size = whole := by
  obtain ⟨negative, significand, exponent⟩ := number
  obtain ⟨count, rfl | rfl⟩ := exponent.eq_nat_or_neg
  · have whole : (⟨negative, significand, count⟩ : Dyadic).size =
        (significand * 2 ^ count : Int) := by
      simp [size]
    simp only [isWhole, Int.natCast_nonneg, decide_true, Bool.true_or, true_iff]
    exact ⟨_, whole⟩
  · have divides : (⟨negative, significand, -count⟩ : Dyadic).isWhole = true ↔
        2 ^ count ∣ significand := by
      simp only [isWhole, Nat.dvd_iff_mod_eq_zero, neg_neg, Int.toNat_natCast, Nat.one_shiftLeft,
        Bool.or_eq_true, decide_eq_true_eq, beq_iff_eq, or_iff_right_iff_imp]
      intro level
      obtain rfl : count = 0 := by omega
      exact Nat.mod_one _
    have quotient : (⟨negative, significand, -count⟩ : Dyadic).size = significand / 2 ^ count := by
      simp [size, div_eq_mul_inv]
    rw [divides, quotient]
    constructor
    · rintro ⟨whole, rfl⟩
      exact ⟨whole, by push_cast; field_simp⟩
    · rintro ⟨whole, same⟩
      rw [div_eq_iff (by positivity)] at same
      have product : (significand : Int) = whole * (2 ^ count : Nat) := by exact_mod_cast same
      exact Int.natCast_dvd_natCast.mp ⟨whole, by rw [product, mul_comm]⟩

theorem isWhole_iff (number : Dyadic) :
    number.isWhole = true ↔ ∃ whole : Int, number.value = whole := by
  rw [size_isWhole_iff, value]
  split
  · constructor
    · rintro ⟨whole, same⟩
      exact ⟨-whole, by rw [same, Int.cast_neg]⟩
    · rintro ⟨whole, same⟩
      exact ⟨-whole, by rw [Int.cast_neg, ← same, neg_neg]⟩
  · rfl

theorem ofFloat?_one :
    ofFloat? Float.exactlyRepresentablePowersOfTen[0] = some ⟨false, 2 ^ 52, -52⟩ := by
  decide +kernel

end Dyadic

namespace Decimal

theorem ofScientific_large {count : Nat} (large : 2 ^ 53 ≤ count) :
    Float.ofNat count = .ofModel (.pack
      (roundWithAccuracy Format.binary64 .positive (count * 2 ^ 53) (-53) .exact)) := by
  have nonzero : count ≠ 0 := by omega
  have sized : ¬(0 : Int) < -(2 ^ 11 + count.log2) := by omega
  have product : UnpackedFloat.ofScientific Format.binary64 count 0 =
      roundWithAccuracy Format.binary64 .positive (count * 2 ^ 53) (-53) .exact := by
    simp only [UnpackedFloat.ofScientific, nonzero, dite_false]
    rw [if_neg (by decide), if_neg sized, if_pos (Int.le_refl 0)]
    simp only [UnpackedFloat.mul, Nat.shiftLeft_eq, Int.toNat_zero, Nat.pow_zero, Nat.mul_one]
    rfl
  simp only [Float.ofNat, OfScientific.ofScientific, Float.ofScientific]
  rw [dif_neg (by omega)]
  simp only [Float.Model.ofScientific]
  rw [← product]
  rfl

theorem ofNat_nearest {count : Nat} (large : 2 ^ 53 ≤ count) :
    ∃ number : Dyadic, number.Normal ∧ number.value = rounded count ∧
      Float.ofNat count = .ofModel (.pack number.unpacked) := by
  have positive : (1 : ℚ) ≤ count := by exact_mod_cast (by omega : 1 ≤ count)
  have scaled : (count : ℚ) / 2 ^ (-53 : ℤ) = (count * 2 ^ 53 : ℕ) := by
    rw [zpow_neg, div_inv_eq_mul]
    push_cast
    rfl
  have described : Describes (.ofMantissaAndAccuracy (count * 2 ^ 53) .exact)
      ((count : ℚ) / 2 ^ (-53 : ℤ)) := by
    rw [scaled]
    exact .whole _
  have fine : -53 ≤ place count := by
    have log := (Int.zpow_le_iff_le_log (b := 2) (r := (count : ℚ)) (x := 0) (by norm_num)
      (by linarith)).mp (by simpa using positive)
    rw [place, abs_of_pos (by linarith)]
    omega
  obtain ⟨number, normal, value, same⟩ := roundWithAccuracy_eq false (by linarith) described fine
  exact ⟨number, normal, value, by rw [ofScientific_large large, ← same]; rfl⟩

theorem rational?_ofNat_rounded (count : Nat) : rational? (Float.ofNat count) = rounded? count := by
  by_cases small : count < 2 ^ 53
  · have word : count.toUInt64.toNat = count := by
      simp only [Nat.toUInt64, UInt64.toNat_ofNat']
      omega
    have converted : rational? count.toUInt64.toFloat = some (count : ℚ) := by
      have normalized := rational?_normalize count 0 .positive
      rw [zpow_zero, mul_one, Int.cast_natCast, rounded?_natCast small] at normalized
      simpa only [UInt64.toFloat, Float.Model.ofUInt64, UnpackedFloat.ofUInt64, word,
        UnpackedFloat.ofNat, UnpackedFloat.ofInt] using normalized
    have product : Float.ofNat count =
        count.toUInt64.toFloat * Float.exactlyRepresentablePowersOfTen[0] := by
      simp only [Float.ofNat, OfScientific.ofScientific, Float.ofScientific]
      rw [dif_pos ⟨small, by omega⟩]
      rfl
    have one : rational? Float.exactlyRepresentablePowersOfTen[0] = some 1 := by
      rw [rational?, Dyadic.ofFloat?_one]
      norm_num [Dyadic.value, Dyadic.size]
    rw [product, rational?_mul converted one, mul_one]
  · obtain ⟨number, normal, value, same⟩ := ofNat_nearest (not_lt.mp small)
    rw [same, rational?_pack normal, value, rounded?]

theorem rational?_ofNat {count : Nat} (small : count < 2 ^ 53) :
    rational? (Float.ofNat count) = some (count : ℚ) := by
  rw [rational?_ofNat_rounded, rounded?_natCast small]

theorem rational?_ofInt {whole : Int} (small : whole.natAbs < 2 ^ 53) :
    rational? (Float.ofInt whole) = some (whole : ℚ) := by
  cases whole with
  | ofNat count => exact rational?_ofNat small
  | negSucc count =>
      have positive : rational? (Float.ofNat count.succ) = some (count.succ : ℚ) :=
        rational?_ofNat small
      rw [Float.ofInt, rational?_neg positive, Int.negSucc_eq]
      push_cast
      rfl

theorem le_rounded {x : ℚ} (large : 2 ^ 53 ≤ x) : 2 ^ 53 ≤ rounded x := by
  have multiple : (2 : ℚ) ^ 53 = (2 ^ 52 : ℤ) * 2 ^ (1 : ℤ) := by norm_num
  have bound := rounded_of_digits multiple (by norm_num) (by norm_num)
  have order := rounded_mono (by norm_num) large
  rwa [bound] at order

theorem ofNat_large {count : Nat} (large : 2 ^ 53 ≤ count) :
    (∃ near : Nat, rational? (Float.ofNat count) = some (near : ℚ) ∧ 2 ^ 53 ≤ near) ∨
      (Float.ofNat count).toModel.unpack = .infinity .positive ∧ rounded? count = none := by
  have beyond : (2 : ℚ) ^ 53 ≤ rounded count := le_rounded (by exact_mod_cast large)
  have least : (2 : ℚ) ^ 52 ≤ count := by exact_mod_cast (by omega : 2 ^ 52 ≤ count)
  obtain ⟨whole, same⟩ := exists_whole_rounded least
  by_cases bounded : |rounded (count : ℚ)| < 2 ^ (1024 : ℤ)
  · left
    rw [same] at beyond
    have order : (2 : ℤ) ^ 53 ≤ whole := by exact_mod_cast beyond
    obtain ⟨near, rfl⟩ := Int.eq_ofNat_of_zero_le (by omega : 0 ≤ whole)
    refine ⟨near, ?_, by omega⟩
    rw [rational?_ofNat_rounded, rounded?, if_pos bounded, same]
    rfl
  · right
    obtain ⟨number, normal, value, packed⟩ := ofNat_nearest large
    rw [← value] at bounded beyond
    have sign : number.negative = false := by
      by_contra negative
      rw [Dyadic.value, if_pos (eq_true_of_ne_false negative)] at beyond
      have size := number.size_nonneg
      linarith
    have exponent : 971 < number.exponent := by
      rw [number.abs_value, normal.size_lt_iff] at bounded
      omega
    have positive : 0 < number.significand := by
      have full := normal.full
      omega
    have infinite := Dyadic.unpack_pack_overflow false positive exponent
    rw [packed, number.unpacked_of_pos positive, sign, rounded?, ← value, if_neg bounded]
    exact ⟨infinite, rfl⟩

theorem isFinite_of_rational {x : Float} {value : ℚ} (exact : rational? x = some value) :
    x.isFinite = true := by
  obtain ⟨number, same⟩ := unpacked_of_rational exact
  change x.toModel.unpack.isFinite = true
  rw [same, Dyadic.unpacked]
  split <;> rfl

theorem lt_ofNat_of_large {x : Float} {value : ℚ} (exact : rational? x = some value)
    (below : value < 2 ^ 53) {count : Nat} (large : 2 ^ 53 ≤ count) : x < Float.ofNat count := by
  rcases ofNat_large large with ⟨greater, found, beyond⟩ | ⟨infinite, _⟩
  · exact (lt_iff exact found).mpr (below.trans_le (by exact_mod_cast beyond))
  · obtain ⟨number, unpacked⟩ := unpacked_of_rational exact
    rw [lt_iff_compare, infinite, unpacked]
    unfold Dyadic.unpacked
    split <;> cases number.negative <;> rfl

theorem eq_of_beq_ofNat {x : Float} {value : ℚ} (exact : rational? x = some value)
    (small : value < 2 ^ 53) {count : Nat} (same : (x == Float.ofNat count) = true) :
    value = count := by
  by_cases large : 2 ^ 53 ≤ count
  · have less := lt_iff_compare.mp (lt_ofNat_of_large exact small large)
    change (x.toModel.unpack.compare (Float.ofNat count).toModel.unpack == some .eq) = true at same
    rw [less] at same
    cases same
  · exact (beq_iff exact (rational?_ofNat (not_le.mp large))).mp same

theorem ofNat_le_of_not_lt {x : Float} {value : ℚ} (exact : rational? x = some value)
    (small : value < 2 ^ 53) {count : Nat} (notLess : ¬ x < Float.ofNat count) :
    (count : ℚ) ≤ value := by
  by_cases large : 2 ^ 53 ≤ count
  · exact absurd (lt_ofNat_of_large exact small large) notLess
  · rw [lt_iff exact (rational?_ofNat (not_le.mp large))] at notLess
    exact not_lt.mp notLess

/-! Whole floats -/

theorem isWhole_iff {x : Float} :
    isWhole x = true ↔ ∃ whole : Int, rational? x = some (whole : ℚ) := by
  unfold isWhole rational?
  cases Dyadic.ofFloat? x with
  | none => simp
  | some number => simp [Dyadic.isWhole_iff]

theorem exists_near_ofNat {count : Nat} (wide : count < 2 ^ 65) :
    ∃ near : Nat, rational? (Float.ofNat count) = some (near : ℚ) ∧
      (near = count ∨ 2 ^ 53 ≤ near ∧ 2 ^ 53 ≤ count) := by
  by_cases small : count < 2 ^ 53
  · exact ⟨count, rational?_ofNat small, .inl rfl⟩
  · have large : 2 ^ 53 ≤ count := by omega
    rcases ofNat_large large with ⟨near, found, beyond⟩ | ⟨_, overflow⟩
    · exact ⟨near, found, .inr ⟨beyond, large⟩⟩
    · have multiple : (2 : ℚ) ^ 65 = (2 ^ 52 : ℤ) * 2 ^ (13 : ℤ) := by norm_num
      have bound := rounded?_of_digits multiple (by norm_num) (by norm_num) (by norm_num)
      have order : (count : ℚ) ≤ 2 ^ 65 := by exact_mod_cast wide.le
      obtain ⟨near, found, -⟩ := rounded?_below (Nat.cast_nonneg count) order bound
      rw [overflow] at found
      cases found

theorem exists_near {whole : Int} (wide : whole.natAbs < 2 ^ 65) :
    ∃ near : Int, rational? (Float.ofInt whole) = some (near : ℚ) ∧
      ∀ limit : Int, limit.natAbs < 2 ^ 53 →
        (limit ≤ near ↔ limit ≤ whole) ∧ (near ≤ limit ↔ whole ≤ limit) := by
  cases whole with
  | ofNat count =>
      obtain ⟨near, found, close⟩ := @exists_near_ofNat count wide
      refine ⟨near, found, fun limit small => ?_⟩
      rw [Int.ofNat_eq_natCast]
      omega
  | negSucc count =>
      obtain ⟨near, found, close⟩ := @exists_near_ofNat count.succ wide
      refine ⟨-near, ?_, fun limit small => by omega⟩
      rw [Float.ofInt, rational?_neg found, Int.cast_neg, Int.cast_natCast]

end Decimal

end Authoring
