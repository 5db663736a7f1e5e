import Authoring.Json.Record
import Authoring.Value.Decoder

/-! The newest telemetry events, with personal data left out. -/

namespace Authoring

structure TelemetryEvent where
  time : Int64
  name : String
  props : Properties

namespace TelemetryEvent

def decoder : Decoder TelemetryEvent :=
  ((Record.of TelemetryEvent.mk).required "ts" .int64
    |>.required "name" .string
    |>.required "props" Value.decodeProperties).decoder "TelemetryEvent"

def toJson (event : TelemetryEvent) : Json :=
  .object
    [("ts", .ofInt event.time.toInt), ("name", .string event.name),
      ("props", (Value.map event.props).toJson)]

end TelemetryEvent

namespace Telemetry

/-- The small letter that a character stands for when case is ignored. The Kelvin sign is a `k`
and the long s is an `s`. -/
def foldCase (c : Char) : Char :=
  if c = '\u212A' then 'k' else if c = '\u017F' then 's' else c.toLower

def isNameCharacter (c : Char) : Bool :=
  let folded := foldCase c
  ('a' ≤ folded && folded ≤ 'z') || ('0' ≤ c && c ≤ '9') || c == '_' || c == ':' || c == '.' ||
    c == ' ' || c == '-'

def isName (name : String) : Bool :=
  1 ≤ name.length && name.length ≤ 64 && name.toList.all isNameCharacter

def holds (letters : List Char) : List Char → Bool
  | [] => letters.isEmpty
  | c :: rest => letters.isPrefixOf (c :: rest) || holds letters rest

def sensitiveWords : List String :=
  ["email", "e-mail", "phone", "tel", "name", "user", "password", "token", "auth"]

def isSensitive (key : String) : Bool :=
  let folded := key.toList.map foldCase
  sensitiveWords.any fun word => holds word.toList folded

def sanitizeValue? : Json → Option Value
  | .string text => some (.string (String.ofList (text.toList.take 256)))
  | .number value => some (Value.ofNumber value)
  | .bool value => some (.bool value)
  | _ => none

def sanitizeField? (field : String × Json) : Option (String × Value) :=
  if isSensitive field.1 then none
  else (sanitizeValue? field.2).map fun value => (field.1, value)

def sanitize (props : Option Json) : Properties :=
  match props with
  | some (.object fields) => Fields.collect (fields.filterMap sanitizeField?)
  | _ => []

structure Buffer where
  capacity : Nat
  events : List TelemetryEvent

inductive RecordError where
  | invalidName
deriving DecidableEq

def RecordError.message : RecordError → String
  | invalidName => "invalid_name"

namespace Buffer

/-- The most bytes that one allocation may have, however much memory there is. -/
def largestAllocation : Nat :=
  0x7FFFFFFFFFFFFFFF

/-- The room for all events, at least one, is set aside at once. Where it is more than an allocation
may have, the program stops and there is no buffer. How many bytes an event takes is up to the
layout of its parts in memory. -/
def new? (eventSize : Nat) (capacity : UInt64) : Option Buffer :=
  let room := max capacity.toNat 1
  if room * eventSize ≤ largestAllocation then some ⟨room, []⟩ else none

def push (buffer : Buffer) (event : TelemetryEvent) : Buffer :=
  let kept := if buffer.events.length = buffer.capacity then buffer.events.tail else buffer.events
  { buffer with events := kept ++ [event] }

def record (buffer : Buffer) (time : Int64) (name : String) (props : Option Json) :
    Except RecordError (TelemetryEvent × Buffer) :=
  if isName name then
    let event := ⟨time, name, sanitize props⟩
    .ok (event, buffer.push event)
  else .error .invalidName

def last (buffer : Buffer) (count : Nat) : List TelemetryEvent :=
  buffer.events.drop (buffer.events.length - count)

end Buffer

inductive Call where
  | record (time : Int64) (name : String) (props : Option Json)
  | push (event : TelemetryEvent)

namespace Buffer

def answer (buffer : Buffer) : Call → Except RecordError TelemetryEvent × Buffer
  | .record time name props =>
      match buffer.record time name props with
      | .ok (event, next) => (.ok event, next)
      | .error error => (.error error, buffer)
  | .push event => (.ok event, buffer.push event)

def run (buffer : Buffer) (calls : List Call) : Buffer :=
  calls.foldl (fun buffer call => (buffer.answer call).2) buffer

end Buffer

end Telemetry

end Authoring
