import Authoring.Json.Basic
import Authoring.Decimal.Layout

/-! Property values: what a property literal or a JSON payload can carry. -/

namespace Authoring

inductive Value where
  | null
  | bool (value : Bool)
  | int (value : Int64)
  | float (value : Float)
  | string (value : String)
  | list (items : List Value)
  | map (fields : List (String × Value))
deriving Inhabited

abbrev Properties := Fields Value

namespace Value

def typeName : Value → String
  | .null => "null"
  | .bool _ => "boolean"
  | .int _ => "number"
  | .float _ => "number"
  | .string _ => "string"
  | .list _ => "list"
  | .map _ => "map"

def isNull : Value → Bool
  | .null => true
  | _ => false

def isNumeric : Value → Bool
  | .int _ => true
  | .float _ => true
  | _ => false

def isString : Value → Bool
  | .string _ => true
  | _ => false

def bool? : Value → Option Bool
  | .bool value => some value
  | _ => none

def float? : Value → Option Float
  | .float value => some value
  | .int value => some (Float.ofInt value.toInt)
  | _ => none

def string? : Value → Option String
  | .string value => some value
  | _ => none

def items? : Value → Option (List Value)
  | .list items => some items
  | _ => none

def fields? : Value → Option Properties
  | .map fields => some fields
  | _ => none

/-- An integer if a signed word holds the number exactly as written, a float otherwise. -/
def ofNumber : Number → Value
  | .integer whole =>
      if whole.value < 0x8000000000000000 then .int (Int64.ofInt whole.value)
      else .float (Float.ofInt whole.value)
  | .float exact => .float exact.value

mutual
def ofJson : Json → Value
  | .null => .null
  | .bool value => .bool value
  | .number value => ofNumber value
  | .string value => .string value
  | .array items => .list (ofItems items)
  | .object fields => .map (Fields.collect (ofFields fields))

def ofItems : List Json → List Value
  | [] => []
  | item :: rest => ofJson item :: ofItems rest

def ofFields : List (String × Json) → List (String × Value)
  | [] => []
  | (name, value) :: rest => (name, ofJson value) :: ofFields rest
end

mutual
def toJson : Value → Json
  | .null => .null
  | .bool value => .bool value
  | .int value => .ofInt value.toInt
  | .float value => .ofFloat value
  | .string value => .string value
  | .list items => .array (toItems items)
  | .map fields => .object (toFields fields)

def toItems : List Value → List Json
  | [] => []
  | item :: rest => item.toJson :: toItems rest

def toFields : List (String × Value) → List (String × Json)
  | [] => []
  | (name, value) :: rest => (name, value.toJson) :: toFields rest
end

def displayString (value : String) : List Char :=
  '"' :: (value.toList.flatMap (fun c => if c = '"' then ['\\', '"'] else [c]) ++ ['"'])

mutual
def display : Value → List Char
  | .null => ['n', 'u', 'l', 'l']
  | .bool true => ['t', 'r', 'u', 'e']
  | .bool false => ['f', 'a', 'l', 's', 'e']
  | .int value => Decimal.integerText value.toInt
  | .float value => (Decimal.display value).toList
  | .string value => displayString value
  | .list [] => ['[', ']']
  | .list (item :: rest) => '[' :: (item.display ++ displayItems rest)
  | .map [] => ['\x7b', '\x7d']
  | .map ((name, value) :: rest) =>
      '\x7b' :: (name.toList ++ ':' :: ' ' :: (value.display ++ displayFields rest))

def displayItems : List Value → List Char
  | [] => [']']
  | item :: rest => ',' :: ' ' :: (item.display ++ displayItems rest)

def displayFields : List (String × Value) → List Char
  | [] => ['\x7d']
  | (name, value) :: rest =>
      ',' :: ' ' :: (name.toList ++ ':' :: ' ' :: (value.display ++ displayFields rest))
end

def toText (value : Value) : String :=
  String.ofList value.display

end Value

end Authoring
