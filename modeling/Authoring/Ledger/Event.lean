import Authoring.Json.Record
import Authoring.Value.Decoder

/-! Events of the ledger and their JSON form. -/

namespace Authoring

structure LedgerEvent where
  time : Int64
  url : String
  title : String
  selection : Option String
  goalState : Value
  action : Option String
  artifactDiff : Option Value

inductive EventError where
  | notAnObject
  | noTime
  | noTexts
  | noGoalState
  | badSelection
  | badAction
deriving DecidableEq

def EventError.message : EventError → String
  | notAnObject => "Event must be an object"
  | noTime => "Event.ts must be a finite number (ms since epoch)"
  | noTexts => "Event.url and Event.title must be strings"
  | noGoalState => "Event.goalState is required"
  | badSelection => "Event.selection must be a string if present"
  | badAction => "Event.action must be a string if present"

namespace LedgerEvent

def plain (time : Int64) (url title : String) (goalState : Value) : LedgerEvent :=
  ⟨time, url, title, none, goalState, none, none⟩

def optionalText (fields : Fields Json) (name : String) (error : EventError) :
    Except EventError (Option String) :=
  match fields.get? name with
  | none => .ok none
  | some .null => .ok none
  | some (.string value) => .ok (some value)
  | some _ => .error error

def differenceOf (fields : Fields Json) : Option Value :=
  match fields.get? "artifactDiff" with
  | none => none
  | some .null => none
  | some document => some (Value.ofJson document)

/-- Checks a raw event. The time may be any number; its fraction is dropped. -/
def ofJson (raw : Json) : Except EventError LedgerEvent :=
  match raw with
  | .object fields =>
      match (Fields.get? "ts" fields).bind Json.number? with
      | none => .error .noTime
      | some time =>
          match Fields.get? "url" fields, Fields.get? "title" fields with
          | some (.string url), some (.string title) =>
              match Fields.get? "goalState" fields with
              | none => .error .noGoalState
              | some goalState => do
                  let selection ← optionalText fields "selection" .badSelection
                  let action ← optionalText fields "action" .badAction
                  return ⟨Decimal.toInt64 time.toFloat, url, title, selection,
                    Value.ofJson goalState, action, differenceOf fields⟩
          | _, _ => .error .noTexts
  | _ => .error .notAnObject

def record : Record LedgerEvent :=
  (Record.of LedgerEvent.mk).required "ts" .int64
    |>.required "url" .string
    |>.required "title" .string
    |>.optional "selection" (.option .string) none
    |>.required "goalState" Value.decoder
    |>.optional "action" (.option .string) none
    |>.optional "artifactDiff" (.option Value.decoder) none

def decoder : Decoder LedgerEvent :=
  record.decoder "LedgerEvent"

def toFields (event : LedgerEvent) : List (String × Json) :=
  [("ts", .ofInt event.time.toInt), ("url", .string event.url), ("title", .string event.title)] ++
    optionalField "selection" .string event.selection ++
    [("goalState", event.goalState.toJson)] ++
    optionalField "action" .string event.action ++
    optionalField "artifactDiff" Value.toJson event.artifactDiff

def toJson (event : LedgerEvent) : Json :=
  .object event.toFields

end LedgerEvent

structure StoredEvent where
  seq : UInt64
  event : LedgerEvent

namespace StoredEvent

/-- Finds the sequence number. All other members belong to the event and are set aside, each read
whole. -/
def splitSeq (origin : Origin) (seq? : Option UInt64) :
    List (Outline × Outline) → Except Fault (Option UInt64 × List (Outline × Outline))
  | [] => .ok (seq?, [])
  | (key, value) :: rest => do
      let name ← lift key.name
      if name = "seq" then
        if seq?.isSome then .error (.shape (.duplicateField "seq"))
        else do
          let seq ← Decoder.uint64 "u64" origin value
          splitSeq origin (some seq) rest
      else do
        let _ ← lift value.read
        let (seq?, later) ← splitSeq origin seq? rest
        return (seq?, (key, value) :: later)

def decoder : Decoder StoredEvent
  | origin, .object deep members ending =>
      if deep then .error (.text .malformed)
      else do
        let (seq?, others) ← splitSeq origin none members
        lift (Outline.endOf ending)
        match seq? with
        | some seq => (LedgerEvent.record.fromMembers .buffer others none).map (StoredEvent.mk seq)
        | none => .error (.shape (.missingField "seq"))
  | _, other => other.refuse "struct StoredEvent"

def toJson (stored : StoredEvent) : Json :=
  .object (("seq", .ofNat stored.seq.toNat) :: stored.event.toFields)

end StoredEvent

end Authoring
