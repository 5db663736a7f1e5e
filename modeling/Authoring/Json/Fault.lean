import Authoring.Json.Outline
import Authoring.Json.Printer
import Authoring.Text.Quoted

/-! Why a document could not be decoded. -/

namespace Authoring

inductive Found where
  | null
  | bool (value : Bool)
  | integer (value : Int)
  | float (value : Float)
  | string (value : String)
  | sequence
  | map

inductive Mismatch where
  | wrongType (found : Found) (wanted : String)
  | wrongValue (found : Found) (wanted : String)
  | wrongLength (length : Nat) (wanted : String)
  | unknownVariant (name : String) (known : List String)
  | missingField (name : String)
  | duplicateField (name : String)
  | noVariant (type : String)

inductive Fault where
  | text (reason : Break)
  | shape (reason : Mismatch)

namespace Found

def ofNumber : Number → Found
  | .integer whole => .integer whole.value
  | .float exact => .float exact.value

def text : Found → String
  | null => "null"
  | bool value => s!"boolean `{value}`"
  | integer value => s!"integer `{value}`"
  | float value => "floating point `" ++ String.ofList (Decimal.jsonText value) ++ "`"
  | string value => "string " ++ Text.quoted value
  | sequence => "sequence"
  | map => "map"

end Found

def Mismatch.message : Mismatch → String
  | wrongType found wanted => "invalid type: " ++ found.text ++ ", expected " ++ wanted
  | wrongValue found wanted => "invalid value: " ++ found.text ++ ", expected " ++ wanted
  | wrongLength length wanted => s!"invalid length {length}, expected {wanted}"
  | unknownVariant name known =>
      let names := ", ".intercalate (known.map fun variant => s!"`{variant}`")
      s!"unknown variant `{name}`, expected one of {names}"
  | missingField name => s!"missing field `{name}`"
  | duplicateField name => s!"duplicate field `{name}`"
  | noVariant type => s!"data did not match any variant of untagged enum {type}"

def Fault.message : Fault → String
  | text .malformed => "malformed JSON"
  | text .unfinished => "unfinished JSON"
  | shape reason => reason.message

end Authoring
