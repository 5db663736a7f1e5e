/-! Finite floats as exact numbers, and the whole numbers nearest to them. -/

namespace Authoring

/-- Has the value `significand * 2 ^ exponent`, negated when `negative`. -/
structure Dyadic where
  negative : Bool
  significand : Nat
  exponent : Int
deriving DecidableEq, Repr

namespace Dyadic

def ofFloat? (x : Float) : Option Dyadic :=
  let bits := x.toBits.toNat
  let negative := decide (0x8000000000000000 ≤ bits)
  let scale : Nat := (bits >>> 52) % 0x800
  let fraction := bits % 0x10000000000000
  if scale = 2047 then none
  else if scale = 0 then some ⟨negative, fraction, -1074⟩
  else some ⟨negative, 0x10000000000000 + fraction, scale - 1075⟩

def isWhole (number : Dyadic) : Bool :=
  0 ≤ number.exponent || number.significand % (1 <<< (-number.exponent).toNat) == 0

def floorSize (number : Dyadic) : Nat :=
  (number.significand <<< number.exponent.toNat) >>> (-number.exponent).toNat

def roundSize (number : Dyadic) : Nat :=
  (2 * (number.significand <<< number.exponent.toNat) + 1 <<< (-number.exponent).toNat) /
    (2 <<< (-number.exponent).toNat)

end Dyadic

namespace Decimal

def isWhole (x : Float) : Bool :=
  match Dyadic.ofFloat? x with
  | none => false
  | some number => number.isWhole

/-- Drops the fraction; what lies outside the 64-bit range goes to its nearer end. -/
def toInt64 (x : Float) : Int64 :=
  match Dyadic.ofFloat? x with
  | none => if x.isNaN then 0 else if x < 0 then Int64.minValue else Int64.maxValue
  | some number =>
      let value : Int := if number.negative then -number.floorSize else number.floorSize
      Int64.ofInt (max (-0x8000000000000000) (min 0x7fffffffffffffff value))

/-- The nearest whole number between 0 and 100, a half going up; NaN counts as 0. -/
def toPercent (x : Float) : UInt8 :=
  match Dyadic.ofFloat? x with
  | none => if x.isNaN || x < 0 then 0 else 100
  | some number => if number.negative then 0 else UInt8.ofNat (min 100 number.roundSize)

end Decimal

end Authoring
