import Authoring.Contract.Date
import Authoring.Json.Printer

/-! Contracts for JSON documents: closed objects, bounded arrays, strings and integers, and fixed
strings. -/

namespace Authoring

inductive Presence where
  | required
  | optional
deriving DecidableEq

structure Pattern where
  text : String
  accepts : String → Bool

namespace Pattern

def isSourceIdCharacter (c : Char) : Bool :=
  ('A' ≤ c && c ≤ 'Z') || ('a' ≤ c && c ≤ 'z') || ('0' ≤ c && c ≤ '9') ||
    c == '.' || c == '_' || c == ':' || c == '-'

def sourceId : Pattern where
  text := "^[A-Za-z0-9._:-]+$"
  accepts := fun value => !value.isEmpty && value.toList.all isSourceIdCharacter

end Pattern

inductive Format where
  | date
deriving DecidableEq

namespace Format

def name : Format → String
  | date => "date"

def accepts : Format → String → Bool
  | date, value => Date.accepts value

end Format

/-- Lengths are counted in characters. Nothing is allowed beyond the listed strings, unless none
is listed. -/
structure StringContract where
  minLength : Nat
  maxLength : Option Nat
  pattern : Option Pattern
  format : Option Format
  allowed : List String

namespace StringContract

def any : StringContract :=
  ⟨0, none, none, none, []⟩

def bounded (least greatest : Nat) : StringContract :=
  { any with minLength := least, maxLength := some greatest }

def nonEmpty : StringContract :=
  { any with minLength := 1 }

end StringContract

inductive Contract where
  /-- Allows the listed fields only. When `nonEmpty` lists names, one of these fields has to hold
  an array that is not empty. -/
  | object (fields : List (String × Presence × Contract)) (nonEmpty : List String)
  | array (minItems : Nat) (maxItems : Option Nat) (items : Contract)
  | string (contract : StringContract)
  | integer (minimum maximum : Option Int64)
  | const (value : String)

namespace Contract

def closed (fields : List (String × Presence × Contract)) : Contract :=
  .object fields []

def between (minimum maximum : Int64) : Contract :=
  .integer (some minimum) (some maximum)

def listOf (least greatest : Nat) (items : Contract) : Contract :=
  .array least (some greatest) items

def text (least greatest : Nat) : Contract :=
  .string (.bounded least greatest)

end Contract

def required (name : String) (contract : Contract) : String × Presence × Contract :=
  (name, .required, contract)

def optional (name : String) (contract : Contract) : String × Presence × Contract :=
  (name, .optional, contract)

end Authoring
