import Authoring.Json.Fault

/-! Decoders from outlines to typed values. The first fault in reading order is the one reported. -/

namespace Authoring

/-- Where an outline comes from: a text, a document in memory, or what was set aside while the kind
of a document was not yet known. They report surplus elements and bad variants differently. -/
inductive Origin where
  | text
  | tree
  | buffer
deriving DecidableEq

abbrev Decoder (α : Type) := Origin → Outline → Except Fault α

def lift {α : Type} : Except Break α → Except Fault α
  | .ok value => .ok value
  | .error reason => .error (.text reason)

def Outline.refuse {α : Type} (wanted : String) : Outline → Except Fault α
  | .null => .error (.shape (.wrongType .null wanted))
  | .bool value => .error (.shape (.wrongType (.bool value) wanted))
  | .number value => .error (.shape (.wrongType (.ofNumber value) wanted))
  | .string value => .error (.shape (.wrongType (.string value) wanted))
  | .flawed _ fault _ => .error (.text fault)
  | .array _ _ _ => .error (.shape (.wrongType .sequence wanted))
  | .object _ _ _ => .error (.shape (.wrongType .map wanted))

namespace Decoder

variable {α : Type}

def map {β : Type} (f : α → β) (decoder : Decoder α) : Decoder β :=
  fun origin outline => (decoder origin outline).map f

def decodeText (decoder : Decoder α) (text : Outline.Document) : Except Fault α := do
  let value ← decoder .text text.root
  if text.trailing then .error (.text .malformed) else .ok value

def decodeJson (decoder : Decoder α) (document : Json) : Except Fault α :=
  decoder .tree (.ofJson document)

def string : Decoder String
  | _, .string value => .ok value
  | _, other => other.refuse "a string"

def bool : Decoder Bool
  | _, .bool value => .ok value
  | _, other => other.refuse "a boolean"

/-- An integer from `least` to `greatest`. A float is refused even when it is whole. -/
def integer (least greatest : Int) (wanted : String) : Decoder Int
  | _, .number (.integer whole) =>
      if least ≤ whole.value ∧ whole.value ≤ greatest then .ok whole.value
      else .error (.shape (.wrongValue (.integer whole.value) wanted))
  | _, other => other.refuse wanted

def int64 : Decoder Int64 :=
  map Int64.ofInt (integer (-0x8000000000000000) 0x7fffffffffffffff "i64")

def uint8 : Decoder UInt8 :=
  map (fun value => UInt8.ofNat value.toNat) (integer 0 255 "u8")

def uint64 (wanted : String) : Decoder UInt64 :=
  map (fun value => UInt64.ofNat value.toNat) (integer 0 0xffffffffffffffff wanted)

def float : Decoder Float
  | _, .number value => .ok value.toFloat
  | _, other => other.refuse "f64"

def option (decoder : Decoder α) : Decoder (Option α)
  | _, .null => .ok none
  | origin, other => (decoder origin other).map some

def list (decoder : Decoder α) : Decoder (List α)
  | origin, .array deep items ending =>
      if deep then .error (.text .malformed)
      else do
        let values ← items.mapM (decoder origin)
        lift (Outline.endOf ending)
        return values
  | _, other => other.refuse "a sequence"

def json : Decoder Json := fun _ outline =>
  (lift outline.read).map Json.sorted

def fields (decoder : Decoder α) : Decoder (Fields α)
  | origin, .object deep members ending =>
      if deep then .error (.text .malformed)
      else do
        let pairs ← members.mapM fun (key, value) => do
          let name ← lift key.name
          let found ← decoder origin value
          return (name, found)
        lift (Outline.endOf ending)
        return Fields.collect pairs
  | _, other => other.refuse "a map"

def variantNamed (variants : List (String × α)) (name : String) : Except Fault α :=
  match Fields.get? name variants with
  | some value => .ok value
  | none => .error (.shape (.unknownVariant name (variants.map Prod.fst)))

def identifier (variants : List (String × α)) : Decoder α
  | _, .string name => variantNamed variants name
  | _, other => other.refuse "variant identifier"

def unit : Decoder Unit
  | _, .null => .ok ()
  | _, other => other.refuse "unit"

/-- A member that gives a variant's name a null. The name is looked up before the value is read. -/
def variantMember (variants : List (String × α)) (origin : Origin) (key value : Outline) :
    Except Fault α := do
  let name ← lift key.name
  let found ← variantNamed variants name
  unit origin value
  return found

def variant (variants : List (String × α)) : Decoder α
  | _, .string name => variantNamed variants name
  | .text, .object deep members ending =>
      if deep then .error (.text .malformed)
      else
        match members with
        | [] => .error (.text (ending.getD .malformed))
        | (key, value) :: rest => do
            let found ← variantMember variants .text key value
            if rest.isEmpty then
              lift (Outline.endOf ending)
              return found
            else .error (.text .malformed)
  | .text, .flawed false fault _ => .error (.text fault)
  | .text, _ => .error (.text .malformed)
  | origin, .object _ [(key, value)] _ => variantMember variants origin key value
  | _, .object _ _ _ => .error (.shape (.wrongValue .map "map with a single key"))
  | _, other => other.refuse "string or map"

/-- Takes the default wherever the value has another shape. The value itself has to be readable. -/
def lenient (default : α) (decoder : Decoder α) : Decoder α := fun origin outline => do
  let document ← json origin outline
  match decoder.decodeJson document with
  | .ok value => return value
  | .error _ => return default

def lenientNumber : Decoder (Option Float) := fun origin outline =>
  (json origin outline).map fun document => document.number?.map Number.toFloat

def lenientList (default : α) (decoder : Decoder α) : Decoder (List α) :=
  list (lenient default decoder)

end Decoder

end Authoring
