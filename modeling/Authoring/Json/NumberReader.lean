import Authoring.Json.Outline
import Authoring.Decimal.Reader

/-! Numbers in JSON text. The digits that fit a 64-bit word are read exactly; the power of ten is
applied to the float nearest to them, so the result may miss the nearest float by a little. -/

namespace Authoring.Json

open Decimal

structure Numeral where
  negative : Bool
  whole : List Char
  fraction : Option (List Char)
  exponent : Option (Bool × List Char)

abbrev NumeralScan := Except Break (Numeral × List Char)

def scanDigits (text : List Char) : Except Break (List Char × List Char) :=
  match text with
  | [] => .error .unfinished
  | c :: _ =>
      if isDigit c then .ok (text.takeWhile isDigit, text.dropWhile isDigit)
      else .error .malformed

theorem scanDigits_length {text digits rest : List Char}
    (scan : scanDigits text = .ok (digits, rest)) : rest.length < text.length := by
  unfold scanDigits at scan
  split at scan
  · simp at scan
  · split at scan
    next c tail isDigit =>
      injection scan with found
      injection found with _ later
      rw [← later]
      simp only [List.dropWhile_cons, isDigit, ↓reduceIte, List.length_cons]
      exact Nat.lt_succ_of_le (List.dropWhile_sublist _).length_le
    next => simp at scan

def scanWhole (text : List Char) : Except Break (List Char × List Char) := do
  let (whole, rest) ← scanDigits text
  if whole.head? = some '0' ∧ whole.length ≠ 1 then .error .malformed else .ok (whole, rest)

theorem scanWhole_length {text digits rest : List Char}
    (scan : scanWhole text = .ok (digits, rest)) : rest.length < text.length := by
  simp only [scanWhole, bind, Except.bind] at scan
  split at scan
  · simp at scan
  next found eq =>
    split at scan
    · simp at scan
    · injection scan with same
      injection same with _ later
      rw [← later]
      exact scanDigits_length eq

def scanFraction (text : List Char) : Except Break (Option (List Char) × List Char) :=
  match text with
  | '.' :: rest => do
      let (digits, rest) ← scanDigits rest
      return (some digits, rest)
  | rest => .ok (none, rest)

theorem scanFraction_length {text rest : List Char} {digits : Option (List Char)}
    (scan : scanFraction text = .ok (digits, rest)) : rest.length ≤ text.length := by
  unfold scanFraction at scan
  split at scan
  next tail =>
    simp only [bind, Except.bind, pure, Except.pure] at scan
    split at scan
    · simp at scan
    next found eq =>
      injection scan with same
      injection same with _ later
      have shorter := scanDigits_length eq
      simp only [List.length_cons, ← later]
      omega
  · injection scan with same
    injection same with _ later
    exact Nat.le_of_eq (congrArg List.length later.symm)

def scanExponent (text : List Char) : Except Break (Option (Bool × List Char) × List Char) :=
  match text with
  | [] => .ok (none, [])
  | mark :: rest =>
      if mark = 'e' ∨ mark = 'E' then do
        let (negative, rest) :=
          match rest with
          | '-' :: rest => (true, rest)
          | '+' :: rest => (false, rest)
          | rest => (false, rest)
        let (digits, rest) ← scanDigits rest
        return (some (negative, digits), rest)
      else .ok (none, mark :: rest)

theorem scanExponent_length {text rest : List Char} {digits : Option (Bool × List Char)}
    (scan : scanExponent text = .ok (digits, rest)) : rest.length ≤ text.length := by
  unfold scanExponent at scan
  split at scan
  · simp at scan
    simp [scan]
  next mark tail =>
    split at scan
    · simp only [bind, Except.bind, pure, Except.pure] at scan
      split at scan
      · simp at scan
      next found eq =>
        injection scan with same
        injection same with _ later
        have shorter := scanDigits_length eq
        rw [← later]
        split at shorter <;> simp only [List.length_cons] at * <;> omega
    · injection scan with same
      injection same with _ later
      simp [← later]

def scanNumeral (text : List Char) : NumeralScan := do
  let (negative, rest) :=
    match text with
    | '-' :: rest => (true, rest)
    | rest => (false, rest)
  let (whole, rest) ← scanWhole rest
  let (fraction, rest) ← scanFraction rest
  let (exponent, rest) ← scanExponent rest
  return (⟨negative, whole, fraction, exponent⟩, rest)

theorem scanNumeral_length {text rest : List Char} {numeral : Numeral}
    (scan : scanNumeral text = .ok (numeral, rest)) : rest.length < text.length := by
  simp only [scanNumeral, bind, Except.bind, pure, Except.pure] at scan
  split at scan
  · simp at scan
  next whole wholeEq =>
    split at scan
    · simp at scan
    next fraction fractionEq =>
      split at scan
      · simp at scan
      next exponent exponentEq =>
        injection scan with same
        injection same with _ later
        have first := scanWhole_length wholeEq
        have second := scanFraction_length fractionEq
        have third := scanExponent_length exponentEq
        rw [← later]
        split at first <;> simp only [List.length_cons] at * <;> omega

/-- Appends digits to a significand while it stays below `2 ^ 64`, and tells how many fitted. -/
def gather (significand : Nat) : List Char → Nat × Nat
  | [] => (significand, 0)
  | c :: rest =>
      let next := significand * 10 + digitValue c
      if 0x10000000000000000 ≤ next then (significand, 0)
      else
        let (found, count) := gather next rest
        (found, count + 1)

def powerOfTen (exponent : Nat) : Float :=
  Float.ofScientific 1 false exponent

def scaleDown (x : Float) (places : Nat) : Float :=
  if places ≤ 308 then x / powerOfTen places
  else if x == 0 then x
  else scaleDown (x / powerOfTen 308) (places - 308)
termination_by places
decreasing_by omega

def scaled? (significand : Nat) (exponent : Int) : Option Float :=
  let x := Float.ofNat significand
  if exponent < 0 then some (scaleDown x exponent.natAbs)
  else if exponent ≤ 308 then
    let product := x * powerOfTen exponent.toNat
    if product.isFinite then some product else none
  else if significand = 0 then some 0
  else none

/-- The size of a numeral as a float. An exponent that no 32-bit word holds makes it zero or too
large at once. -/
def Numeral.size? (significand : Nat) (shift : Int) (exponent : Option (Bool × List Char)) :
    Option Float :=
  match exponent with
  | none => scaled? significand shift
  | some (negative, digits) =>
      let power := valueOf digits
      if 0x80000000 ≤ power then
        if significand = 0 ∨ negative = true then some 0 else none
      else scaled? significand (if negative then shift - power else shift + power)

/-- Integers stay exact while they fit a word. Negative zero is a float. -/
def Numeral.number? (numeral : Numeral) : Option Number :=
  let (base, kept) := gather 0 numeral.whole
  let dropped := numeral.whole.length - kept
  let asFloat (size : Option Float) : Option Number :=
    size.bind fun x => Number.ofFloat? (if numeral.negative then -x else x)
  match numeral.fraction, numeral.exponent with
  | none, none =>
      if dropped ≠ 0 then asFloat (scaled? base dropped)
      else if numeral.negative then
        if base = 0 ∨ 0x8000000000000000 < base then asFloat (some (Float.ofNat base))
        else (WideInt.ofInt? (-(base : Int))).map .integer
      else (WideInt.ofInt? base).map .integer
  | fraction, exponent =>
      let (significand, places) := gather base (fraction.getD [])
      asFloat (Numeral.size? significand ((dropped : Int) - places) exponent)

end Authoring.Json
