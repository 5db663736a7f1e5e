/-! Floats read from decimal text, each rounded to the nearest. -/

namespace Authoring.Decimal

def isDigit (c : Char) : Bool :=
  '0' ≤ c && c ≤ '9'

def digitValue (c : Char) : Nat :=
  c.toNat - '0'.toNat

def valueOf (digits : List Char) : Nat :=
  digits.foldl (fun value c => value * 10 + digitValue c) 0

/-- The float nearest to `count * 10 ^ scale`. Sizes far outside the range of floats are settled
before the power is computed. -/
def nearest (count : Nat) (scale : Int) : Float :=
  if count = 0 then 0
  else
    let place := (Nat.toDigits 10 count).length + scale
    if 310 < place then 1 / 0
    else if place < -330 then 0
    else if 0 ≤ scale then Float.ofScientific count false scale.toNat
    else Float.ofScientific count true (-scale).toNat

def exponentOf? : List Char → Option Int
  | [] => some 0
  | mark :: rest =>
      if mark = 'e' ∨ mark = 'E' then
        let (negative, digits) :=
          match rest with
          | '-' :: digits => (true, digits)
          | '+' :: digits => (false, digits)
          | digits => (false, digits)
        if digits.isEmpty || !digits.all isDigit then none
        else if negative then some (-(valueOf digits : Int)) else some (valueOf digits)
      else none

def unsignedOf? (text : List Char) : Option Float :=
  let whole := text.takeWhile isDigit
  let (fraction, rest) :=
    match text.dropWhile isDigit with
    | '.' :: rest => (rest.takeWhile isDigit, rest.dropWhile isDigit)
    | rest => ([], rest)
  if whole.isEmpty && fraction.isEmpty then none
  else (exponentOf? rest).map fun exponent =>
    nearest (valueOf (whole ++ fraction)) (exponent - fraction.length)

def float? (text : List Char) : Option Float :=
  let (negative, size) :=
    match text with
    | '-' :: size => (true, size)
    | '+' :: size => (false, size)
    | size => (false, size)
  let lower := String.ofList (size.map Char.toLower)
  let value? : Option Float :=
    if lower = "inf" ∨ lower = "infinity" then some (1 / 0)
    else if lower = "nan" then some (0 / 0)
    else unsignedOf? size
  value?.map fun value => if negative then -value else value

end Authoring.Decimal
