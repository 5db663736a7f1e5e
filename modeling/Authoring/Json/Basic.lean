import Authoring.Fields

/-! JSON documents as trees. -/

namespace Authoring

/-- An integer that a 64-bit word holds, with or without a sign. -/
structure WideInt where
  value : Int
  inRange : -0x8000000000000000 ≤ value ∧ value < 0x10000000000000000
deriving DecidableEq

structure FiniteFloat where
  value : Float
  isFinite : value.isFinite = true
deriving DecidableEq

inductive Number where
  | integer (value : WideInt)
  | float (value : FiniteFloat)
deriving DecidableEq

inductive Json where
  | null
  | bool (value : Bool)
  | number (value : Number)
  | string (value : String)
  | array (items : List Json)
  | object (fields : List (String × Json))
deriving Inhabited

def WideInt.ofInt? (value : Int) : Option WideInt :=
  if inRange : -0x8000000000000000 ≤ value ∧ value < 0x10000000000000000 then some ⟨value, inRange⟩ else none

def Number.ofFloat? (value : Float) : Option Number :=
  if isFinite : value.isFinite = true then some (.float ⟨value, isFinite⟩) else none

def Number.toFloat : Number → Float
  | .integer whole => Float.ofInt whole.value
  | .float exact => exact.value

namespace Json

def ofFloat (value : Float) : Json :=
  match Number.ofFloat? value with
  | some exact => .number exact
  | none => .null

/-- An integer too wide for a word becomes the nearest float. -/
def ofInt (value : Int) : Json :=
  match WideInt.ofInt? value with
  | some exact => .number (.integer exact)
  | none => ofFloat (Float.ofInt value)

def ofNat (value : Nat) : Json :=
  ofInt value

def strings (values : List String) : Json :=
  .array (values.map .string)

def isObject : Json → Bool
  | .object _ => true
  | _ => false

def string? : Json → Option String
  | .string value => some value
  | _ => none

def items? : Json → Option (List Json)
  | .array items => some items
  | _ => none

def number? : Json → Option Number
  | .number value => some value
  | _ => none

def fields? : Json → Option (Fields Json)
  | .object fields => some fields
  | _ => none

def get? (document : Json) (name : String) : Option Json :=
  document.fields?.bind (Fields.get? name)

mutual
def sorted : Json → Json
  | .array items => .array (sortedItems items)
  | .object fields => .object (Fields.ordered (sortedFields fields))
  | .null => .null
  | .bool value => .bool value
  | .number value => .number value
  | .string value => .string value

def sortedItems : List Json → List Json
  | [] => []
  | item :: rest => item.sorted :: sortedItems rest

def sortedFields : List (String × Json) → List (String × Json)
  | [] => []
  | (name, value) :: rest => (name, value.sorted) :: sortedFields rest
end

end Json

/-! Fields that are left out of an object when there is nothing to write -/

def optionalField {α : Type} (name : String) (encode : α → Json) :
    Option α → List (String × Json)
  | none => []
  | some value => [(name, encode value)]

def optionalList {α : Type} (name : String) (encode : α → Json) (values : List α) :
    List (String × Json) :=
  if values.isEmpty then [] else [(name, .array (values.map encode))]

end Authoring
