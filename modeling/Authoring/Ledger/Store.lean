import Authoring.Ledger.Event

/-! The ledger: events in the order in which they were accepted. -/

namespace Authoring

structure ListOptions where
  /-- How many events at most; zero means all of them. -/
  limit : Option UInt64
  since : Option Int64
deriving DecidableEq

namespace ListOptions

def all : ListOptions :=
  ⟨none, none⟩

def admits (options : ListOptions) (stored : StoredEvent) : Bool :=
  match options.since with
  | none => true
  | some since => since ≤ stored.event.time

def cut (options : ListOptions) (events : List StoredEvent) : List StoredEvent :=
  match options.limit with
  | none => events
  | some limit => if limit = 0 then events else events.take limit.toNat

def decoder : Decoder ListOptions :=
  ((Record.of ListOptions.mk).optional "limit" (.option (.uint64 "usize")) none
    |>.optional "since" (.option .int64) none).decoder "ListOptions"

def toJson (options : ListOptions) : Json :=
  .object
    [("limit", match options.limit with
      | none => .null
      | some limit => .ofNat limit.toNat),
    ("since", match options.since with
      | none => .null
      | some since => .ofInt since.toInt)]

end ListOptions

structure Ledger where
  lastSeq : UInt64
  events : List StoredEvent

namespace Ledger

def empty : Ledger :=
  ⟨0, []⟩

def append (ledger : Ledger) (event : LedgerEvent) : StoredEvent × Ledger :=
  let stored := ⟨ledger.lastSeq + 1, event⟩
  (stored, ⟨ledger.lastSeq + 1, ledger.events ++ [stored]⟩)

def appendJson (ledger : Ledger) (raw : Json) : Except EventError (StoredEvent × Ledger) :=
  (LedgerEvent.ofJson raw).map ledger.append

def list (ledger : Ledger) (options : ListOptions) : List StoredEvent :=
  options.cut (ledger.events.filter options.admits)

def clear (_ : Ledger) : Ledger :=
  empty

end Ledger

end Authoring
