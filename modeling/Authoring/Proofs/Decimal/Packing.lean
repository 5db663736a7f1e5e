import Mathlib
import Authoring.Decimal.Dyadic

/-! Floats and dyadic numbers. The words of finite floats stand for exactly the dyadic numbers that
fit, and reading the word of a float is the inverse of packing a number into one. -/

namespace Authoring

open Float.Model Float.Model.UnpackedFloat

def signOf (negative : Bool) : Sign :=
  if negative then .negative else .positive

theorem unpackMantissa_toNat (word : BitVec 64) :
    (@unpackMantissa Format.binary64 word).toNat = word.toNat % 2 ^ 52 := by
  simp [unpackMantissa]

theorem unpackExponent_toNat (word : BitVec 64) :
    (@unpackExponent Format.binary64 word).toNat = word.toNat / 2 ^ 52 % 2 ^ 11 := by
  simp [unpackExponent, Nat.shiftRight_eq_div_pow]

theorem unpackSign_eq (word : BitVec 64) :
    Sign.ofBitVec (@unpackSign Format.binary64 word) =
      signOf (decide (2 ^ 63 ≤ word.toNat)) := by
  have bound : word.toNat < 2 ^ 64 := word.isLt
  have top : (@unpackSign Format.binary64 word).toNat = word.toNat / 2 ^ 63 := by
    simp only [unpackSign, BitVec.toNat_cast, BitVec.extractLsb_toNat, Nat.shiftRight_eq_div_pow]
    omega
  by_cases high : 2 ^ 63 ≤ word.toNat
  · have one : @unpackSign Format.binary64 word = 1#1 := by
      apply BitVec.eq_of_toNat_eq
      rw [top, BitVec.toNat_ofNat]
      omega
    rw [one, decide_eq_true high]
    rfl
  · have zero : @unpackSign Format.binary64 word = 0#1 := by
      apply BitVec.eq_of_toNat_eq
      rw [top, BitVec.toNat_ofNat]
      omega
    rw [zero, decide_eq_false high]
    rfl

theorem append_one_toNat (fraction : BitVec 52) :
    (1#1 ++ fraction).toNat = 2 ^ 52 + fraction.toNat := by
  rw [BitVec.toNat_append, ← Nat.shiftLeft_add_eq_or_of_lt fraction.isLt]
  simp [Nat.shiftLeft_eq]

theorem packComponents_toNat (negative : Bool) (scale : BitVec 11) (fraction : BitVec 52) :
    (packComponents Format.binary64 (signOf negative) scale fraction).toNat =
      (if negative then 2 ^ 63 else 0) + scale.toNat * 2 ^ 52 + fraction.toNat := by
  simp only [packComponents, BitVec.toNat_append]
  rw [← Nat.shiftLeft_add_eq_or_of_lt scale.isLt, ← Nat.shiftLeft_add_eq_or_of_lt fraction.isLt]
  cases negative
  · simp only [signOf, Sign.toBitVec, Nat.shiftLeft_eq, Bool.false_eq_true, if_false,
      BitVec.toNat_ofNat]
    omega
  · simp only [signOf, Sign.toBitVec, Nat.shiftLeft_eq, if_true, BitVec.toNat_ofNat]
    omega

theorem bias_eq : (Format.binary64.exponentBias : Int) = 1023 := by decide

namespace Dyadic

/-- One of the numbers that finite floats stand for, in the form in which floats hold it. -/
structure Fits (number : Dyadic) : Prop where
  upper : number.significand < 2 ^ 53
  least : -1074 ≤ number.exponent
  greatest : number.exponent ≤ 971
  full : 2 ^ 52 ≤ number.significand ∨ number.exponent = -1074

def unpacked (number : Dyadic) : UnpackedFloat :=
  if positive : 0 < number.significand then
    .finite (signOf number.negative) number.significand number.exponent positive
  else .zero (signOf number.negative)

theorem ofFloat?_eq (x : Float) :
    ofFloat? x =
      if x.toBits.toNat / 2 ^ 52 % 2 ^ 11 = 2047 then none
      else if x.toBits.toNat / 2 ^ 52 % 2 ^ 11 = 0 then
        some ⟨decide (2 ^ 63 ≤ x.toBits.toNat), x.toBits.toNat % 2 ^ 52, -1074⟩
      else
        some ⟨decide (2 ^ 63 ≤ x.toBits.toNat), 2 ^ 52 + x.toBits.toNat % 2 ^ 52,
          (x.toBits.toNat / 2 ^ 52 % 2 ^ 11 : Nat) - 1075⟩ := by
  simp only [ofFloat?, Nat.shiftRight_eq_div_pow, Nat.reducePow]

theorem ofFloat?_fits {x : Float} {number : Dyadic} (found : ofFloat? x = some number) :
    number.Fits := by
  rw [ofFloat?_eq] at found
  split at found
  · simp at found
  · split at found
    · rw [← Option.some.inj found]
      refine ⟨?_, ?_, ?_, .inr rfl⟩
      · exact Nat.lt_trans (Nat.mod_lt _ (by omega)) (by omega)
      · exact Int.le_refl _
      · exact (by omega : (-1074 : Int) ≤ 971)
    · rw [← Option.some.inj found]
      constructor <;> simp only
      · omega
      · omega
      · omega
      · omega

theorem unpack_eq {x : Float} {number : Dyadic} (found : ofFloat? x = some number) :
    x.toModel.unpack = number.unpacked := by
  rw [ofFloat?_eq] at found
  have same : x.toBits.toNat = x.toModel.toBits.toBitVec.toNat := rfl
  rw [same] at found
  change UnpackedFloat.unpack Format.binary64 x.toModel.toBits.toBitVec = _
  generalize x.toModel.toBits.toBitVec = word at found ⊢
  have mantissa := unpackMantissa_toNat word
  have exponent := unpackExponent_toNat word
  unfold UnpackedFloat.unpack
  simp only [unpackSign_eq]
  split at found
  · simp at found
  next notMaximal =>
    have finite : @unpackExponent Format.binary64 word ≠ -1#11 := by
      intro maximal
      rw [maximal] at exponent
      exact notMaximal exponent.symm
    rw [if_neg finite]
    split at found
    next zero =>
      have subnormal : @unpackExponent Format.binary64 word = 0#11 :=
        BitVec.eq_of_toNat_eq (exponent.trans zero)
      rw [if_pos subnormal, ← Option.some.inj found]
      by_cases nothing : word.toNat % 2 ^ 52 = 0
      · have blank : @unpackMantissa Format.binary64 word = 0#52 :=
          BitVec.eq_of_toNat_eq (mantissa.trans nothing)
        rw [dif_pos blank]
        simp only [unpacked, nothing, Nat.lt_irrefl, dite_false]
      · rw [dif_neg fun blank => nothing (by rw [← mantissa, blank]; rfl)]
        simp only [unpacked]
        rw [dif_pos (by omega)]
        simp only [mantissa, exponent, zero, bias_eq]
        congr 1
    next nonzero =>
      have normal : @unpackExponent Format.binary64 word ≠ 0#11 := by
        intro blank
        rw [blank] at exponent
        exact nonzero exponent.symm
      rw [if_neg normal, ← Option.some.inj found]
      simp only [unpacked]
      rw [dif_pos (by omega)]
      simp only [append_one_toNat, mantissa, exponent, bias_eq]
      congr 1

theorem isFinite_of_none {x : Float} (unfounded : ofFloat? x = none) :
    x.toModel.unpack.isFinite = false := by
  rw [ofFloat?_eq, show x.toBits.toNat = x.toModel.toBits.toBitVec.toNat from rfl] at unfounded
  change (UnpackedFloat.unpack Format.binary64 x.toModel.toBits.toBitVec).isFinite = false
  generalize x.toModel.toBits.toBitVec = word at unfounded ⊢
  have exponent := unpackExponent_toNat word
  split at unfounded
  next maximal =>
    have top : @unpackExponent Format.binary64 word = -1#11 :=
      BitVec.eq_of_toNat_eq (exponent.trans maximal)
    unfold UnpackedFloat.unpack
    rw [if_pos top]
    split <;> rfl
  next =>
    split at unfounded <;> cases unfounded

theorem ofFloat?_packComponents (negative : Bool) (scale : BitVec 11) (fraction : BitVec 52)
    (valid) :
    ofFloat? (.ofModel
        ⟨.ofBitVec (packComponents Format.binary64 (signOf negative) scale fraction), valid⟩) =
      if scale.toNat = 2047 then none
      else if scale.toNat = 0 then some ⟨negative, fraction.toNat, -1074⟩
      else some ⟨negative, 2 ^ 52 + fraction.toNat, scale.toNat - 1075⟩ := by
  have scaleBound := scale.isLt
  have fractionBound := fraction.isLt
  have word := packComponents_toNat negative scale fraction
  generalize packComponents Format.binary64 (signOf negative) scale fraction = bits
    at valid word ⊢
  have scaleEq : bits.toNat / 2 ^ 52 % 2 ^ 11 = scale.toNat := by
    cases negative <;> simp only [if_true, if_false, Bool.false_eq_true] at word <;> omega
  have fractionEq : bits.toNat % 2 ^ 52 = fraction.toNat := by
    cases negative <;> simp only [if_true, if_false, Bool.false_eq_true] at word <;> omega
  have signEq : decide (2 ^ 63 ≤ bits.toNat) = negative := by
    cases negative <;> simp only [if_true, if_false, Bool.false_eq_true] at word
    · exact decide_eq_false (by omega)
    · exact decide_eq_true (by omega)
  rw [← scaleEq, ← fractionEq, ← signEq, ofFloat?_eq]
  rfl

theorem ofFloat?_pack {number : Dyadic} (fits : number.Fits) :
    ofFloat? (.ofModel (.pack number.unpacked)) = some number := by
  obtain ⟨negative, significand, exponent⟩ := number
  obtain ⟨upper, least, greatest, full⟩ := fits
  simp only at upper least greatest full
  unfold unpacked
  simp only
  split
  next positive =>
    have log : significand.log2 + 1 = 53 ↔ 2 ^ 52 ≤ significand := by
      have lower := Nat.le_log2 (n := significand) (k := 52) (by omega)
      have bound := (Nat.log2_lt (n := significand) (k := 53) (by omega)).mpr upper
      omega
    have packed : UnpackedFloat.pack Format.binary64
        (.finite (signOf negative) significand exponent positive) =
        if 2 ^ 52 ≤ significand then
          packComponents Format.binary64 (signOf negative) (.ofNat 11 (exponent + 1075).toNat)
            (.ofNat 52 significand)
        else packComponents Format.binary64 (signOf negative) 0#11 (.ofNat 52 significand) := by
      simp only [UnpackedFloat.pack, bias_eq, Format.mantissaBits]
      rw [if_neg (by omega)]
      simp only [Nat.add_comm 1 52, log]
      congr 4
      omega
    simp only [Float.Model.pack, packed]
    split
    next normal =>
      have scale : (exponent + 1075).toNat % 2 ^ 11 = (exponent + 1075).toNat :=
        Nat.mod_eq_of_lt (by omega)
      rw [ofFloat?_packComponents, BitVec.toNat_ofNat, BitVec.toNat_ofNat, scale,
        if_neg (by omega), if_neg (by omega)]
      congr 2
      · omega
      · omega
    next subnormal =>
      have fraction : significand % 2 ^ 52 = significand := Nat.mod_eq_of_lt (by omega)
      obtain rfl : exponent = -1074 := full.resolve_left subnormal
      rw [ofFloat?_packComponents, BitVec.toNat_ofNat, BitVec.toNat_ofNat, fraction]
      rfl
  next zero =>
    obtain rfl : significand = 0 := by omega
    obtain rfl : exponent = -1074 := full.resolve_left (by omega)
    exact ofFloat?_packComponents negative 0 0 _

theorem unpack_pack_overflow (negative : Bool) {significand : Nat} {exponent : Int}
    (positive : 0 < significand) (large : 971 < exponent) :
    (Float.Model.pack (.finite (signOf negative) significand exponent positive)).unpack =
      .infinity (signOf negative) := by
  have packed : UnpackedFloat.pack Format.binary64
      (.finite (signOf negative) significand exponent positive) =
      packedInfinity Format.binary64 (signOf negative) := by
    simp only [UnpackedFloat.pack, bias_eq]
    rw [if_pos (by omega)]
  simp only [Float.Model.pack, Float.Model.unpack, packed]
  cases negative <;> rfl

theorem ofFloat?_neg {x : Float} {number : Dyadic} (found : ofFloat? x = some number) :
    ofFloat? x.neg = some { number with negative := !number.negative } := by
  have fits := ofFloat?_fits found
  have flipped : Fits { number with negative := !number.negative } :=
    ⟨fits.upper, fits.least, fits.greatest, fits.full⟩
  have back := ofFloat?_pack flipped
  rw [← back]
  change ofFloat? (.ofModel (.pack x.toModel.unpack.neg)) = _
  rw [unpack_eq found]
  congr 3
  unfold unpacked
  simp only
  split <;> cases number.negative <;> rfl

end Dyadic

end Authoring
