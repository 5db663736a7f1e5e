import Authoring.Decimal.Dyadic

/-! The fewest decimal digits that still identify a float. -/

namespace Authoring.Decimal

/-- Stands for `0.d₁d₂… * 10 ^ point`; the digits end in no zero. -/
structure Digits where
  digits : List Char
  point : Int
deriving DecidableEq, Repr

inductive Tie where
  | toEven
  | up

def Digits.ofScaled (count : Nat) (scale : Int) : Digits :=
  let digits := Nat.toDigits 10 count
  ⟨(digits.reverse.dropWhile (· == '0')).reverse, digits.length + scale⟩

def leadingPlace (significand : Nat) (exponent : Int) : Int :=
  let above := significand <<< exponent.toNat
  let below := 1 <<< (-exponent).toNat
  if below ≤ above then (Nat.toDigits 10 (above / below)).length
  else 1 - (Nat.toDigits 10 ((below + above - 1) / above - 1)).length

/-- A multiple of `10 ^ scale` that rounds to the float, the nearer of the two around its value.
The reals that round to a float reach halfway to its neighbours, ends included when its
significand is even. -/
def onGrid? (tie : Tie) (significand : Nat) (exponent : Int) (scale : Int) : Option Nat :=
  let above := (significand <<< exponent.toNat) * Nat.pow 10 (-scale).toNat
  let below := (1 <<< (-exponent).toNat) * Nat.pow 10 scale.toNat
  let narrow := significand == 0x10000000000000 && -1074 < exponent
  let unit := (1 <<< exponent.toNat) * Nat.pow 10 (-scale).toNat
  let least := 4 * above - (if narrow then unit else 2 * unit)
  let greatest := 4 * above + 2 * unit
  let inside (candidate : Nat) : Bool :=
    let place := 4 * below * candidate
    if significand % 2 == 0 then least ≤ place && place ≤ greatest
    else least < place && place < greatest
  let low := above / below
  let high := low + 1
  match inside low, inside high with
  | false, false => none
  | true, false => some low
  | false, true => some high
  | true, true =>
      match compare (2 * above) ((low + high) * below) with
      | .lt => some low
      | .gt => some high
      | .eq =>
          match tie with
          | .up => some high
          | .toEven => if low % 2 == 0 then some low else some high

/-- The coarsest grid with a hit wins; `count` is the number of digits tried first. -/
def searchGrids (tie : Tie) (significand : Nat) (exponent place : Int) : Nat → Nat → Digits
  | 0, _ => Digits.ofScaled ((significand <<< exponent.toNat) * Nat.pow 5 (-exponent).toNat)
      (min 0 exponent)
  | left + 1, count =>
      match onGrid? tie significand exponent (place - count) with
      | some candidate => Digits.ofScaled candidate (place - count)
      | none => searchGrids tie significand exponent place left (count + 1)

/-- The fewest digits that read back to the same float, and of those the nearest. Seventeen always
suffice. Zero has no digits. -/
def shortest (tie : Tie) (number : Dyadic) : Digits :=
  if number.significand = 0 then ⟨[], 0⟩
  else
    searchGrids tie number.significand number.exponent
      (leadingPlace number.significand number.exponent) 17 1

end Authoring.Decimal
