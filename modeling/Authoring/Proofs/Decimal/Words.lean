import Mathlib
import Authoring.Proofs.Decimal.Estimates

/-! Integers of a signed word that go through a float and back. One comes back as it was if 53 binary
digits are enough for it, and so does the greatest of all. -/

namespace Authoring

namespace Dyadic

theorem floorSize_eq (number : Dyadic) : (number.floorSize : ℤ) = ⌊number.size⌋ := by
  rw [size_eq_div, Rat.floor_natCast_div_natCast, floorSize, Nat.shiftRight_eq_div_pow,
    Nat.one_shiftLeft]
  rfl

end Dyadic

namespace Decimal

theorem toInt64_eq {x : Float} {whole : ℤ} (exact : rational? x = some (whole : ℚ)) :
    (toInt64 x).toInt = max (-0x8000000000000000) (min 0x7fffffffffffffff whole) := by
  obtain ⟨number, found, value⟩ := Option.map_eq_some_iff.mp exact
  have signed : (if number.negative then -(number.floorSize : ℤ) else number.floorSize) = whole := by
    rw [Dyadic.floorSize_eq]
    unfold Dyadic.value at value
    split at value
    next negative =>
      have size : number.size = (-whole : ℤ) := by
        rw [Int.cast_neg, ← value, neg_neg]
      rw [if_pos negative, size, Int.floor_intCast, neg_neg]
    next positive => rw [if_neg positive, value, Int.floor_intCast]
  simp only [toInt64, found, signed]
  exact Int64.toInt_ofInt_of_le (by omega) (by omega)

theorem eq_rounded_of_rounded? {x near : ℚ} (found : rounded? x = some near) : near = rounded x := by
  unfold rounded? at found
  split at found
  · exact (Option.some.inj found).symm
  · cases found

theorem rational?_ofInt_rounded {whole : ℤ} (wide : whole.natAbs < 2 ^ 65) :
    ∃ near : ℤ, (near : ℚ) = rounded whole ∧ rational? (Float.ofInt whole) = some (near : ℚ) := by
  obtain ⟨near, found, -⟩ := exists_near wide
  refine ⟨near, ?_, found⟩
  cases whole with
  | ofNat count =>
      rw [Float.ofInt, rational?_ofNat_rounded] at found
      exact eq_rounded_of_rounded? found
  | negSucc count =>
      obtain ⟨size, sizeFound, -⟩ := @exists_near_ofNat count.succ wide
      have same := found
      rw [Float.ofInt, rational?_neg sizeFound, Option.some.injEq] at same
      rw [rational?_ofNat_rounded] at sizeFound
      rw [← same, eq_rounded_of_rounded? sizeFound, ← rounded_neg, Int.negSucc_eq]
      push_cast
      rfl

def IsHeld (whole : ℤ) : Prop :=
  ∃ (count : ℤ) (exponent : ℕ), count.natAbs < 2 ^ 53 ∧ whole = count * 2 ^ exponent

theorem isHeld_of_small {whole : ℤ} (small : whole.natAbs < 2 ^ 53) : IsHeld whole :=
  ⟨whole, 0, small, by rw [pow_zero, mul_one]⟩

theorem natAbs_lt_iff {count : ℤ} : count.natAbs < 2 ^ 53 ↔ |(count : ℚ)| < 2 ^ 53 := by
  rw [← Int.cast_abs, Int.abs_eq_natAbs]
  exact_mod_cast Iff.rfl

theorem rounded_of_isHeld {whole : ℤ} (held : IsHeld whole) : rounded whole = whole := by
  obtain ⟨count, exponent, small, rfl⟩ := held
  have multiple : ((count * 2 ^ exponent : ℤ) : ℚ) = count * 2 ^ (exponent : ℤ) := by
    rw [zpow_natCast]
    push_cast
    rfl
  have positive : (0 : ℚ) < 2 ^ (exponent : ℤ) := by positivity
  refine rounded_of_digits multiple ?_ (by omega)
  rw [multiple, abs_mul, abs_of_pos positive]
  exact (mul_lt_mul_iff_left₀ positive).mpr (natAbs_lt_iff.mp small)

theorem isHeld_of_rounded {whole : ℤ} (same : rounded whole = whole) : IsHeld whole := by
  have bound := abs_lt_of_place (whole : ℚ)
  by_cases coarse : 0 ≤ place whole
  · obtain ⟨exponent, place⟩ := Int.eq_ofNat_of_zero_le coarse
    have multiple := same.symm
    have positive : (0 : ℚ) < 2 ^ (exponent : ℤ) := by positivity
    rw [rounded, place] at multiple
    rw [place, multiple, abs_mul, abs_of_pos positive, mul_lt_mul_iff_left₀ positive] at bound
    exact ⟨_, exponent, natAbs_lt_iff.mpr bound, by exact_mod_cast multiple⟩
  · refine isHeld_of_small (natAbs_lt_iff.mpr (bound.trans_le ?_))
    have fine : (2 : ℚ) ^ place whole ≤ 1 := zpow_le_one_of_nonpos₀ (by norm_num) (by omega)
    linarith

theorem toInt64_ofInt_maxValue :
    toInt64 (Float.ofInt Int64.maxValue.toInt) = Int64.maxValue := by
  decide +kernel

theorem toInt64_ofInt_eq_iff (word : Int64) :
    toInt64 (Float.ofInt word.toInt) = word ↔ IsHeld word.toInt ∨ word = Int64.maxValue := by
  have least := word.le_toInt
  have greatest := word.toInt_lt
  obtain ⟨near, value, found⟩ := @rational?_ofInt_rounded word.toInt (by omega)
  have back := toInt64_eq found
  constructor
  · intro same
    rw [same] at back
    by_cases whole : near = word.toInt
    · exact .inl (isHeld_of_rounded (by rw [← value, whole]))
    · -- The nearest float is beyond one of the ends, and the integer is that end.
      have ends : word.toInt = -2 ^ 63 ∨ word.toInt = Int64.maxValue.toInt := by
        rw [Int64.toInt_maxValue]
        omega
      rcases ends with lowest | highest
      · exact .inl ⟨-1, 63, by decide, by rw [lowest]; rfl⟩
      · exact .inr (Int64.toInt_inj.mp highest)
  · rintro (held | rfl)
    · rw [rounded_of_isHeld held, Int.cast_inj] at value
      rw [← Int64.toInt_inj, back, value]
      omega
    · exact toInt64_ofInt_maxValue

end Decimal

end Authoring
