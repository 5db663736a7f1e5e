import Authoring.Json.Basic

/-! A JSON text as far as it can be read. Faults stay at the places where they stand, because which
of them a reader meets first depends on what it is looking for. -/

namespace Authoring

inductive Break where
  | malformed
  | unfinished
deriving DecidableEq, Repr

/-- A member's name is an outline too, since anything may stand in its place. A container is `deep`
when more than 127 levels are open with it; it can be skipped but not read. Its `ending` is the
fault that stands where another element or the closing bracket should. -/
inductive Outline where
  | null
  | bool (value : Bool)
  | number (value : Number)
  | string (value : String)
  /-- Reading fails with `read`. Skipping fails with `skip`, if it fails at all. A `word` starts
  like a number or a name without quotes. -/
  | flawed (word : Bool) (read : Break) (skip : Option Break)
  | array (deep : Bool) (items : List Outline) (ending : Option Break)
  | object (deep : Bool) (members : List (Outline × Outline)) (ending : Option Break)

namespace Outline

def missing (fault : Break) : Outline :=
  .flawed false fault (some fault)

mutual
def ofJson : Json → Outline
  | .null => .null
  | .bool value => .bool value
  | .number value => .number value
  | .string value => .string value
  | .array items => .array false (ofItems items) none
  | .object fields => .object false (ofFields fields) none

def ofItems : List Json → List Outline
  | [] => []
  | item :: rest => ofJson item :: ofItems rest

def ofFields : List (String × Json) → List (Outline × Outline)
  | [] => []
  | (name, value) :: rest => (.string name, ofJson value) :: ofFields rest
end

def endOf : Option Break → Except Break Unit
  | none => .ok ()
  | some fault => .error fault

def name : Outline → Except Break String
  | .string value => .ok value
  | .flawed false fault _ => .error fault
  | _ => .error .malformed

mutual
def read : Outline → Except Break Json
  | .null => .ok .null
  | .bool value => .ok (.bool value)
  | .number value => .ok (.number value)
  | .string value => .ok (.string value)
  | .flawed _ fault _ => .error fault
  | .array deep items ending =>
      if deep then .error .malformed
      else do
        let found ← readItems items
        endOf ending
        return .array found
  | .object deep members ending =>
      if deep then .error .malformed
      else do
        let found ← readMembers members
        endOf ending
        return .object found

def readItems : List Outline → Except Break (List Json)
  | [] => .ok []
  | item :: rest => do
      let found ← item.read
      let later ← readItems rest
      return found :: later

def readMembers : List (Outline × Outline) → Except Break (List (String × Json))
  | [] => .ok []
  | (key, value) :: rest => do
      let key ← key.name
      let found ← value.read
      let later ← readMembers rest
      return (key, found) :: later
end

def skipName : Outline → Except Break Unit
  | .string _ => .ok ()
  | .flawed false _ fault => endOf fault
  | _ => .error .malformed

mutual
def skip : Outline → Except Break Unit
  | .null => .ok ()
  | .bool _ => .ok ()
  | .number _ => .ok ()
  | .string _ => .ok ()
  | .flawed _ _ fault => endOf fault
  | .array _ items ending => do
      skipItems items
      endOf ending
  | .object _ members ending => do
      skipMembers members
      endOf ending

def skipItems : List Outline → Except Break Unit
  | [] => .ok ()
  | item :: rest => do
      item.skip
      skipItems rest

def skipMembers : List (Outline × Outline) → Except Break Unit
  | [] => .ok ()
  | (key, value) :: rest => do
      key.skipName
      value.skip
      skipMembers rest
end

end Outline

structure Outline.Document where
  root : Outline
  trailing : Bool

end Authoring
