import Authoring.Decimal.Reader
import Authoring.Text.Basic

/-! Calendar dates, written as year, month and day with hyphens between them. -/

namespace Authoring.Date

def isLeapYear (year : Int) : Bool :=
  year % 4 == 0 && (year % 100 != 0 || year % 400 == 0)

def daysIn (year : Int) (month : Nat) : Nat :=
  if month = 2 then if isLeapYear year then 29 else 28
  else if month = 4 ∨ month = 6 ∨ month = 9 ∨ month = 11 then 30
  else if 1 ≤ month ∧ month ≤ 12 then 31
  else 0

def isDay (year : Int) (month day : Nat) : Bool :=
  1 ≤ day && day ≤ daysIn year month

def number? (width : Nat) (text : List Char) : Option (Nat × List Char) :=
  let digits := (text.take width).takeWhile Decimal.isDigit
  if digits.isEmpty then none
  else some (Decimal.valueOf digits, text.drop digits.length)

/-- A year of up to four digits, or of any number of them behind a sign. -/
def year? (text : List Char) : Option (Int × List Char) :=
  match text with
  | '-' :: digits => (number? digits.length digits).map fun (year, rest) => (-(year : Int), rest)
  | '+' :: digits => (number? digits.length digits).map fun (year, rest) => ((year : Int), rest)
  | digits => (number? 4 digits).map fun (year, rest) => ((year : Int), rest)

def hyphen? (text : List Char) : Option (List Char) :=
  match text with
  | '-' :: rest => some rest
  | _ => none

def parts? (text : List Char) : Option (Int × Nat × Nat) := do
  let (year, rest) ← year? (Text.trimStart text)
  let rest ← hyphen? rest
  let (month, rest) ← number? 2 (Text.trimStart rest)
  let rest ← hyphen? rest
  let (day, rest) ← number? 2 (Text.trimStart rest)
  if rest.isEmpty then return (year, month, day) else none

/-- A date is ten bytes long and names a day that exists. -/
def accepts (text : String) : Bool :=
  text.utf8ByteSize == 10 &&
    match parts? text.toList with
    | some (year, month, day) => isDay year month day
    | none => false

end Authoring.Date
