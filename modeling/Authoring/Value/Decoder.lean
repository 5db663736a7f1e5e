import Authoring.Value.Basic
import Authoring.Json.Decoder

/-! Values decoded from JSON without a tag: the kinds of value are tried in turn, and the first that
fits the whole document is taken. -/

namespace Authoring.Value

def nullOf? : Json → Option Value
  | .null => some .null
  | _ => none

def boolOf? : Json → Option Value
  | .bool value => some (.bool value)
  | _ => none

def intOf? : Json → Option Value
  | .number (.integer whole) =>
      if -0x8000000000000000 ≤ whole.value ∧ whole.value ≤ 0x7fffffffffffffff then
        some (.int (Int64.ofInt whole.value))
      else none
  | _ => none

def floatOf? : Json → Option Value
  | .number value => some (.float value.toFloat)
  | _ => none

def stringOf? : Json → Option Value
  | .string value => some (.string value)
  | _ => none

mutual
def attempt : Json → Option Value
  | .array items => (attemptItems items).map .list
  | .object fields => (attemptFields fields).map fun found => .map (Fields.collect found)
  | scalar =>
      nullOf? scalar <|> boolOf? scalar <|> intOf? scalar <|> floatOf? scalar <|> stringOf? scalar

def attemptItems : List Json → Option (List Value)
  | [] => some []
  | item :: rest => do
      let found ← attempt item
      let later ← attemptItems rest
      return found :: later

def attemptFields : List (String × Json) → Option (List (String × Value))
  | [] => some []
  | (name, value) :: rest => do
      let found ← attempt value
      let later ← attemptFields rest
      return (name, found) :: later
end

def decoder : Decoder Value := fun _ outline => do
  let document ← lift outline.read
  match attempt document with
  | some value => return value
  | none => .error (.shape (.noVariant "Value"))

def decodeProperties : Decoder Properties :=
  Decoder.fields decoder

end Authoring.Value
