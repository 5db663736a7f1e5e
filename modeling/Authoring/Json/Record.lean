import Authoring.Json.Decoder

/-! Decoders for records with named fields. A record is written as an object, or as an array of its
fields in order. -/

namespace Authoring

structure Items where
  rest : List Outline
  taken : Nat
  ending : Option Break

structure Record (α : Type) where
  names : List String
  vet : Origin → String → Outline → Except Fault Unit
  ofMembers : Origin → List (String × Outline) → Except Fault α
  /-- Builds the record from items. The text says what was wanted when they are too few. -/
  ofItems : Origin → String → Items → Except Fault (α × Items)

namespace Record

variable {α β : Type}

def of (value : α) : Record α where
  names := []
  vet := fun _ _ _ => .ok ()
  ofMembers := fun _ _ => .ok value
  ofItems := fun _ _ items => .ok (value, items)

def field (record : Record (α → β)) (name : String) (decoder : Decoder α)
    (default? : Option α) : Record β where
  names := record.names ++ [name]
  vet := fun origin key value =>
    if key = name then (decoder origin value).map fun _ => () else record.vet origin key value
  ofMembers := fun origin members => do
    let build ← record.ofMembers origin members
    match Fields.get? name members, default? with
    | some value, _ => (decoder origin value).map build
    | none, some default => return build default
    | none, none => .error (.shape (.missingField name))
  ofItems := fun origin wanted items => do
    let (build, items) ← record.ofItems origin wanted items
    match items.rest with
    | item :: rest => do
        let value ← decoder origin item
        return (build value, ⟨rest, items.taken + 1, items.ending⟩)
    | [] => do
        lift (Outline.endOf items.ending)
        match default? with
        | some default => return (build default, items)
        | none => .error (.shape (.wrongLength items.taken wanted))

def required (record : Record (α → β)) (name : String) (decoder : Decoder α) : Record β :=
  record.field name decoder none

def optional (record : Record (α → β)) (name : String) (decoder : Decoder α) (default : α) :
    Record β :=
  record.field name decoder (some default)

def vetMembers (record : Record α) (origin : Origin) (seen : List String) :
    List (Outline × Outline) → Except Fault (List (String × Outline))
  | [] => .ok []
  | (key, value) :: rest => do
      let name ← lift key.name
      if name ∈ record.names then
        if name ∈ seen then .error (.shape (.duplicateField name))
        else do
          record.vet origin name value
          let later ← record.vetMembers origin (name :: seen) rest
          return (name, value) :: later
      else do
        lift value.skip
        record.vetMembers origin seen rest

def finish (origin : Origin) (value : α) (items : Items) : Except Fault α :=
  let length := items.taken + items.rest.length
  match origin, items.rest with
  | _, [] => (lift (Outline.endOf items.ending)).map fun _ => value
  | .text, _ => .error (.text .malformed)
  | .tree, _ => .error (.shape (.wrongLength length "fewer elements in array"))
  | .buffer, _ =>
      let noun := if items.taken = 1 then "element" else "elements"
      .error (.shape (.wrongLength length s!"{items.taken} {noun} in sequence"))

def fromMembers (record : Record α) (origin : Origin) (members : List (Outline × Outline))
    (ending : Option Break) : Except Fault α := do
  let known ← record.vetMembers origin [] members
  lift (Outline.endOf ending)
  record.ofMembers origin known

def fromItems (record : Record α) (type : String) (origin : Origin) (items : List Outline)
    (ending : Option Break) : Except Fault α := do
  let wanted := s!"struct {type} with {record.names.length} elements"
  let (value, items) ← record.ofItems origin wanted ⟨items, 0, ending⟩
  finish origin value items

def decoder (record : Record α) (type : String) : Decoder α
  | origin, .object deep members ending =>
      if deep then .error (.text .malformed) else record.fromMembers origin members ending
  | origin, .array deep items ending =>
      if deep then .error (.text .malformed) else record.fromItems type origin items ending
  | _, other => other.refuse ("struct " ++ type)

end Record

end Authoring
