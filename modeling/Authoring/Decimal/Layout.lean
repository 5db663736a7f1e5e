import Authoring.Decimal.Shortest

/-! How numbers are laid out. Floats are positional in messages; in JSON the very large and the very
small have an exponent. -/

namespace Authoring.Decimal

def integerText (value : Int) : List Char :=
  if value < 0 then '-' :: Nat.toDigits 10 value.natAbs else Nat.toDigits 10 value.natAbs

def zeros (count : Nat) : List Char :=
  List.replicate count '0'

def Digits.sides (number : Digits) : List Char × List Char :=
  if number.point ≤ 0 then (['0'], zeros (-number.point).toNat ++ number.digits)
  else
    let place := number.point.toNat
    (number.digits.take place ++ zeros (place - number.digits.length), number.digits.drop place)

def Digits.positional (number : Digits) : List Char :=
  match number.sides with
  | (whole, []) => whole
  | (whole, fraction) => whole ++ '.' :: fraction

def Digits.pointed (number : Digits) : List Char :=
  match number.sides with
  | (whole, []) => whole ++ ['.', '0']
  | (whole, fraction) => whole ++ '.' :: fraction

def Digits.scientific (number : Digits) : List Char :=
  let exponent := number.point - 1
  let sign := if exponent < 0 then '-' else '+'
  let power := 'e' :: sign :: Nat.toDigits 10 exponent.natAbs
  match number.digits with
  | [] => '0' :: power
  | [lead] => lead :: power
  | lead :: rest => lead :: '.' :: rest ++ power

def display (x : Float) : String :=
  match Dyadic.ofFloat? x with
  | none => if x.isNaN then "NaN" else if x < 0 then "-inf" else "inf"
  | some number =>
      let text := (shortest .up number).positional
      String.ofList (if number.negative then '-' :: text else text)

/-- A finite float as JSON: positional while its first digit stands between the fifth place after
the point and the sixteenth before it. -/
def jsonText (x : Float) : List Char :=
  match Dyadic.ofFloat? x with
  | none => "null".toList
  | some number =>
      let decimal := shortest .toEven number
      let text :=
        if decimal.digits.isEmpty || (-5 < decimal.point && decimal.point ≤ 16) then
          decimal.pointed
        else decimal.scientific
      if number.negative then '-' :: text else text

end Authoring.Decimal
