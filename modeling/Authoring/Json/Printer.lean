import Authoring.Json.Basic
import Authoring.Decimal.Layout

/-! JSON text: compact, or spread over indented lines. -/

namespace Authoring.Json

def escaped (c : Char) : List Char :=
  if c = '"' then ['\\', '"']
  else if c = '\\' then ['\\', '\\']
  else if c = '\x08' then ['\\', 'b']
  else if c = '\t' then ['\\', 't']
  else if c = '\n' then ['\\', 'n']
  else if c = '\x0c' then ['\\', 'f']
  else if c = '\r' then ['\\', 'r']
  else if c.toNat < 0x20 then
    ['\\', 'u', '0', '0', Nat.digitChar (c.toNat / 16), Nat.digitChar (c.toNat % 16)]
  else [c]

def stringText (value : String) : List Char :=
  '"' :: (value.toList.flatMap escaped ++ ['"'])

def numberText : Number → List Char
  | .integer whole => Decimal.integerText whole.value
  | .float exact => Decimal.jsonText exact.value

mutual
def compact : Json → List Char
  | .null => ['n', 'u', 'l', 'l']
  | .bool true => ['t', 'r', 'u', 'e']
  | .bool false => ['f', 'a', 'l', 's', 'e']
  | .number value => numberText value
  | .string value => stringText value
  | .array [] => ['[', ']']
  | .array (item :: rest) => '[' :: (item.compact ++ compactItems rest)
  | .object [] => ['\x7b', '\x7d']
  | .object ((name, value) :: rest) =>
      '\x7b' :: (stringText name ++ ':' :: (value.compact ++ compactFields rest))

def compactItems : List Json → List Char
  | [] => [']']
  | item :: rest => ',' :: (item.compact ++ compactItems rest)

def compactFields : List (String × Json) → List Char
  | [] => ['\x7d']
  | (name, value) :: rest =>
      ',' :: (stringText name ++ ':' :: (value.compact ++ compactFields rest))
end

def newLine (depth : Nat) : List Char :=
  '\n' :: List.replicate (2 * depth) ' '

mutual
def spread (depth : Nat) : Json → List Char
  | .array (item :: rest) =>
      '[' :: (newLine (depth + 1) ++ item.spread (depth + 1) ++ spreadItems depth rest)
  | .object ((name, value) :: rest) =>
      '\x7b' :: (newLine (depth + 1) ++ stringText name ++ ':' :: ' ' ::
        (value.spread (depth + 1) ++ spreadFields depth rest))
  | .array [] => ['[', ']']
  | .object [] => ['\x7b', '\x7d']
  | .null => compact .null
  | .bool value => compact (.bool value)
  | .number value => compact (.number value)
  | .string value => compact (.string value)

def spreadItems (depth : Nat) : List Json → List Char
  | [] => newLine depth ++ [']']
  | item :: rest =>
      ',' :: (newLine (depth + 1) ++ item.spread (depth + 1) ++ spreadItems depth rest)

def spreadFields (depth : Nat) : List (String × Json) → List Char
  | [] => newLine depth ++ ['\x7d']
  | (name, value) :: rest =>
      ',' :: (newLine (depth + 1) ++ stringText name ++ ':' :: ' ' ::
        (value.spread (depth + 1) ++ spreadFields depth rest))
end

def toText (document : Json) : String :=
  String.ofList document.compact

def toPrettyText (document : Json) : String :=
  String.ofList (document.spread 0)

end Authoring.Json
