import Authoring.Json.Printer
import Authoring.Ledger.Shared

/-! Exports the ledger, one JSON object a line, into a sink that may give out. -/

namespace Authoring

structure Sink where
  /-- How many bytes it still takes; any number if there is no limit. -/
  room : Option Nat
  fullReason : String
  flushFault : Option String
  written : List UInt8

namespace Sink

def write (sink : Sink) (bytes : List UInt8) : Bool × Sink :=
  match sink.room with
  | none => (true, { sink with written := sink.written ++ bytes })
  | some room =>
      (bytes.length ≤ room,
        { sink with room := some (room - bytes.length), written := sink.written ++ bytes.take room })

end Sink

inductive ExportError where
  | inEvent (reason : String)
  | inSink (reason : String)
deriving DecidableEq

namespace Ledger

def bytesOf (text : String) : List UInt8 :=
  text.toUTF8.toList

def eventBytes (stored : StoredEvent) : List UInt8 :=
  bytesOf stored.toJson.toText

def lineFeed : List UInt8 :=
  [10]

def writeEvents (sink : Sink) : List StoredEvent → Option ExportError × Sink
  | [] =>
      match sink.flushFault with
      | none => (none, sink)
      | some reason => (some (.inSink reason), sink)
  | stored :: rest =>
      match sink.write (eventBytes stored) with
      | (false, sink) => (some (.inEvent sink.fullReason), sink)
      | (true, sink) =>
          match sink.write lineFeed with
          | (false, sink) => (some (.inSink sink.fullReason), sink)
          | (true, sink) => writeEvents sink rest

def exportTo (ledger : Ledger) (sink : Sink) : Except ExportError Nat × Sink :=
  let events := ledger.list .all
  match writeEvents sink events with
  | (none, sink) => (.ok events.length, sink)
  | (some error, sink) => (.error error, sink)

end Ledger

/-- What an export asks of the ledger behind the handle is one list of all its events. -/
def Ledgers.exportTo (ledgers : Ledgers) (handle : Nat) (sink : Sink) :
    Option (Except ExportError Nat × Sink) × Ledgers :=
  ((ledgers.ledger? handle).map fun ledger => ledger.exportTo sink,
    (ledgers.step (.call handle (.list .all))).2)

end Authoring
