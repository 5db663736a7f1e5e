import Mathlib
import Authoring.Proofs.Ledger.Export
import Authoring.Proofs.Ledger.History

/-! The export into a sink that gives out. What the sink took is the start of the log, and the error
tells on which kind of byte it gave out. -/

namespace Authoring

namespace Sink

variable {sink : Sink} {taken : Nat} {bytes : List UInt8}

theorem write_nil (sink : Sink) : sink.write [] = (true, sink) := by
  obtain ⟨room, fullReason, flushFault, written⟩ := sink
  cases room <;> simp [write]

def filled (sink : Sink) (bytes : List UInt8) (room : Nat) : Sink :=
  { sink.after bytes with room := some room }

theorem write_enough {left : Nat} (room : sink.room = some (bytes.length + left)) :
    sink.write bytes = (true, sink.filled bytes left) := by
  simp [write, filled, after, room, List.take_of_length_le]

theorem write_short (room : sink.room = some taken) (short : taken < bytes.length) :
    sink.write bytes = (false, sink.filled (bytes.take taken) 0) := by
  simp [write, filled, after, room, Nat.not_le.mpr short, Nat.sub_eq_zero_of_le short.le]

theorem written_write (room : sink.room = some taken) (bytes : List UInt8) :
    (sink.write bytes).2.written = sink.written ++ bytes.take taken := by
  simp [write, room]

theorem write_append (sink : Sink) (first second : List UInt8) :
    sink.write (first ++ second) =
      match sink.write first with
      | (false, sink) => (false, sink)
      | (true, sink) => sink.write second := by
  cases room : sink.room with
  | none => simp [write, room]
  | some taken =>
      rcases Nat.lt_or_ge taken first.length with short | enough
      · have longer : taken < (first ++ second).length := by
          rw [List.length_append]
          omega
        rw [write_short room short, write_short room longer, List.take_append_of_le_length short.le]
      · obtain ⟨left, rfl⟩ := Nat.exists_eq_add_of_le enough
        rw [write_enough room]
        simp [write, filled, after, room, Nat.add_sub_add_left, List.take_append]

def writeAll (sink : Sink) : List (List UInt8) → Bool × Sink
  | [] => (true, sink)
  | piece :: rest =>
      match sink.write piece with
      | (false, sink) => (false, sink)
      | (true, sink) => sink.writeAll rest

theorem writeAll_eq_write (sink : Sink) (pieces : List (List UInt8)) :
    sink.writeAll pieces = sink.write pieces.flatten := by
  induction pieces generalizing sink with
  | nil => exact sink.write_nil.symm
  | cons piece rest ih =>
      rw [writeAll, List.flatten_cons, write_append]
      split
      · rfl
      · exact ih _

end Sink

namespace Ledger

variable {events : List StoredEvent} {stored : StoredEvent}

def linesOf (events : List StoredEvent) : List UInt8 :=
  logOf (events.map fun stored => stored.toJson.toText)

theorem linesOf_cons (stored : StoredEvent) (rest : List StoredEvent) :
    linesOf (stored :: rest) = eventBytes stored ++ lineFeed ++ linesOf rest :=
  logOf_cons _ _

theorem length_linesOf_cons (stored : StoredEvent) (rest : List StoredEvent) :
    (linesOf (stored :: rest)).length = (eventBytes stored).length + 1 + (linesOf rest).length := by
  rw [linesOf_cons, List.length_append, List.length_append, lineFeed, List.length_singleton]

def piecesOf (events : List StoredEvent) : List (List UInt8) :=
  events.flatMap fun stored => [eventBytes stored, lineFeed]

theorem piecesOf_cons (stored : StoredEvent) (rest : List StoredEvent) :
    piecesOf (stored :: rest) = eventBytes stored :: lineFeed :: piecesOf rest :=
  List.flatMap_cons

theorem flatten_piecesOf (events : List StoredEvent) :
    (piecesOf events).flatten = linesOf events := by
  induction events with
  | nil => rfl
  | cons stored rest ih =>
      rw [piecesOf_cons, linesOf_cons, List.flatten_cons, List.flatten_cons, ih, List.append_assoc]

theorem writeEvents_eq_writeAll (sink : Sink) (events : List StoredEvent) :
    (writeEvents sink events).2 = (sink.writeAll (piecesOf events)).2 := by
  induction events generalizing sink with
  | nil =>
      rw [writeEvents]
      split <;> rfl
  | cons stored rest ih =>
      rw [piecesOf_cons, Sink.writeAll]
      rcases whole : sink.write (eventBytes stored) with ⟨_ | _, next⟩
      · rw [writeEvents_of_short whole]
      · simp only [Sink.writeAll]
        rcases feed : next.write lineFeed with ⟨_ | _, last⟩
        · rw [writeEvents_of_feed whole feed]
        · rw [writeEvents_of_line whole feed]
          exact ih last

theorem writeEvents_eq_write (sink : Sink) (events : List StoredEvent) :
    (writeEvents sink events).2 = (sink.write (linesOf events)).2 := by
  rw [writeEvents_eq_writeAll, Sink.writeAll_eq_write, flatten_piecesOf]

/-! Where a byte stands -/

def IsAt (events : List StoredEvent) (place : Nat) (stored : StoredEvent) (offset : Nat) : Prop :=
  ∃ before after, events = before ++ stored :: after ∧
    place = (linesOf before).length + offset

inductive Part where
  | text
  | feed

def Part.Covers (stored : StoredEvent) (offset : Nat) : Part → Prop
  | text => offset < (eventBytes stored).length
  | feed => offset = (eventBytes stored).length

def partAt : List StoredEvent → Nat → Option Part
  | [], _ => none
  | stored :: rest, place =>
      if place < (eventBytes stored).length then some .text
      else if place = (eventBytes stored).length then some .feed
      else partAt rest (place - ((eventBytes stored).length + 1))

theorem isAt_cons_iff {first : StoredEvent} {rest : List StoredEvent} {place offset : Nat} :
    IsAt (first :: rest) place stored offset ↔
      (stored = first ∧ place = offset) ∨
        (eventBytes first).length + 1 ≤ place ∧
          IsAt rest (place - ((eventBytes first).length + 1)) stored offset := by
  constructor
  · rintro ⟨before, after, same, rfl⟩
    rcases List.cons_eq_append_iff.mp same with ⟨rfl, cons⟩ | ⟨earlier, rfl, rfl⟩
    · cases cons
      exact Or.inl ⟨rfl, Nat.zero_add _⟩
    · rw [length_linesOf_cons]
      exact Or.inr ⟨by omega, earlier, after, rfl, by omega⟩
  · rintro (⟨rfl, rfl⟩ | ⟨later, before, after, rfl, there⟩)
    · exact ⟨[], rest, rfl, (Nat.zero_add _).symm⟩
    · refine ⟨first :: before, after, rfl, ?_⟩
      rw [length_linesOf_cons]
      omega

theorem partAt_eq_some_iff {place : Nat} {part : Part} :
    partAt events place = some part ↔
      ∃ stored offset, IsAt events place stored offset ∧ part.Covers stored offset := by
  induction events generalizing place with
  | nil => simp [partAt, IsAt]
  | cons first rest ih =>
      -- The part is covered in the first line or, further on, in one of the rest.
      have split : (∃ stored offset, IsAt (first :: rest) place stored offset ∧
          part.Covers stored offset) ↔
          part.Covers first place ∨ (eventBytes first).length + 1 ≤ place ∧
            partAt rest (place - ((eventBytes first).length + 1)) = some part := by
        simp only [isAt_cons_iff, ih, or_and_right, exists_or, and_assoc, exists_and_left,
          exists_eq_left, exists_eq_left']
      rw [split, partAt]
      split_ifs with inside atEnd
      · have before : ¬(eventBytes first).length + 1 ≤ place := by omega
        cases part <;> simp [Part.Covers, before, inside, inside.ne]
      · cases part <;> simp [Part.Covers, atEnd]
      · have missed : ¬part.Covers first place := by cases part <;> assumption
        have beyond : (eventBytes first).length + 1 ≤ place := by omega
        rw [or_iff_right missed, and_iff_right beyond]

theorem partAt_eq_none_iff {place : Nat} :
    partAt events place = none ↔ (linesOf events).length ≤ place := by
  induction events generalizing place with
  | nil => exact iff_of_true rfl (Nat.zero_le _)
  | cons first rest ih =>
      rw [length_linesOf_cons, partAt]
      split_ifs with inside atEnd
      · simp
        omega
      · simp
        omega
      · rw [ih]
        omega

/-! The outcome -/

def faultAt (sink : Sink) : Option Part → Option ExportError
  | some .text => some (.inEvent sink.fullReason)
  | some .feed => some (.inSink sink.fullReason)
  | none => sink.flushFault.map .inSink

theorem faultAt_filled (sink : Sink) (bytes : List UInt8) (room : Nat) (part? : Option Part) :
    faultAt (sink.filled bytes room) part? = faultAt sink part? := by
  rcases part? with _ | _ | _ <;> rfl

theorem writeEvents_fault {sink : Sink} {taken : Nat} (room : sink.room = some taken)
    (events : List StoredEvent) :
    (writeEvents sink events).1 = faultAt sink (partAt events taken) := by
  induction events generalizing sink taken with
  | nil =>
      rw [writeEvents, partAt, faultAt]
      cases sink.flushFault <;> rfl
  | cons stored rest ih =>
      rw [partAt]
      split_ifs with inside atEnd
      · rw [writeEvents_of_short (Sink.write_short room inside)]
        rfl
      · rw [atEnd, ← Nat.add_zero (eventBytes stored).length] at room
        have short := @Sink.write_short (sink.filled (eventBytes stored) 0) 0 lineFeed rfl
          Nat.zero_lt_one
        rw [writeEvents_of_feed (Sink.write_enough room) short]
        rfl
      · obtain ⟨left, rfl⟩ : ∃ left, taken = (eventBytes stored).length + 1 + left :=
          ⟨taken - ((eventBytes stored).length + 1), by omega⟩
        -- The room is a sum with the length of the text in front, as `write_enough` has it. To see
        -- that by computation the kernel would have to print the event.
        rw [Nat.add_assoc] at room
        let next := sink.filled (eventBytes stored) (1 + left)
        have feed := @Sink.write_enough next lineFeed left rfl
        have later := @ih (next.filled lineFeed left) left rfl
        rw [writeEvents_of_line (Sink.write_enough room) feed, later, Nat.add_sub_cancel_left,
          faultAt_filled, faultAt_filled]

theorem faultAt_eq_none_iff {sink : Sink} {part? : Option Part} :
    faultAt sink part? = none ↔ part? = none ∧ sink.flushFault = none := by
  rcases part? with _ | _ | _ <;> simp [faultAt]

theorem faultAt_eq_inEvent_iff {sink : Sink} {part? : Option Part} {reason : String} :
    faultAt sink part? = some (.inEvent reason) ↔
      reason = sink.fullReason ∧ part? = some .text := by
  rcases part? with _ | _ | _ <;> simp [faultAt, eq_comm]

theorem faultAt_eq_inSink_iff {sink : Sink} {part? : Option Part} {reason : String} :
    faultAt sink part? = some (.inSink reason) ↔
      reason = sink.fullReason ∧ part? = some .feed ∨
        part? = none ∧ sink.flushFault = some reason := by
  rcases part? with _ | _ | _ <;> simp [faultAt, eq_comm]

theorem exportTo_snd (ledger : Ledger) (sink : Sink) :
    (ledger.exportTo sink).2 = (writeEvents sink ledger.events).2 := by
  rw [exportTo, list_all]
  rcases writeEvents sink ledger.events with ⟨_ | _, left⟩ <;> rfl

theorem exportTo_eq_ok_iff {ledger : Ledger} {sink : Sink} {count : Nat} :
    (ledger.exportTo sink).1 = .ok count ↔
      count = ledger.events.length ∧ (writeEvents sink ledger.events).1 = none := by
  rw [exportTo, list_all]
  rcases writeEvents sink ledger.events with ⟨_ | _, left⟩ <;> simp [eq_comm]

theorem exportTo_eq_error_iff {ledger : Ledger} {sink : Sink} {error : ExportError} :
    (ledger.exportTo sink).1 = .error error ↔
      (writeEvents sink ledger.events).1 = some error := by
  rw [exportTo, list_all]
  rcases writeEvents sink ledger.events with ⟨_ | _, left⟩ <;> simp

def exported (ledger : Ledger) : List UInt8 :=
  (ledger.exportTo ⟨none, "", none, []⟩).2.written

theorem exported_eq (ledger : Ledger) : ledger.exported = linesOf ledger.events := by
  rw [exported, exportTo_snd, writeEvents_roomy rfl rfl]
  rfl

end Ledger

namespace Ledgers

theorem step_list (ledgers : Ledgers) (handle : Nat) (options : ListOptions) :
    (ledgers.step (.call handle (.list options))).2 = ledgers := by
  cases handled : ledgers.handles[handle]? with
  | none => simp [step, handled]
  | some place =>
      have known : place < ledgers.held.length :=
        ledgers.known place (List.mem_of_getElem? handled)
      have there := List.getElem?_eq_getElem known
      rw [step_call handled there]
      exact replace_same there

/-- Into a sink that takes so many bytes and then gives out, the start of the full export goes, in
whatever pieces it comes, and no ledger is changed. There is no error just if all of it went and the
sink could be flushed. The error is one inside an event just if the sink gave out in the text of an
event, and one of the sink just if it gave out at a line feed or could not be flushed. -/
theorem export_cut (ledgers : Ledgers) (handle : Nat) (ledger : Ledger) (sink : Sink) (taken : Nat)
    (found : ledgers.ledger? handle = some ledger) (room : sink.room = some taken) :
    ∃ outcome left, ledgers.exportTo handle sink = (some (outcome, left), ledgers) ∧
      ledger.exported = Ledger.linesOf ledger.events ∧
      left.written = sink.written ++ ledger.exported.take taken ∧
      (∀ pieces : List (List UInt8), pieces.flatten = ledger.exported →
        (sink.writeAll pieces).2 = left) ∧
      (∀ count, outcome = .ok count ↔ count = ledger.events.length ∧
        ledger.exported.length ≤ taken ∧ sink.flushFault = none) ∧
      (∀ reason, outcome = .error (.inEvent reason) ↔ reason = sink.fullReason ∧
        ∃ stored offset, Ledger.IsAt ledger.events taken stored offset ∧
          offset < (Ledger.eventBytes stored).length) ∧
      ∀ reason, outcome = .error (.inSink reason) ↔
        (reason = sink.fullReason ∧
          ∃ stored offset, Ledger.IsAt ledger.events taken stored offset ∧
            offset = (Ledger.eventBytes stored).length) ∨
        (ledger.exported.length ≤ taken ∧ sink.flushFault = some reason) := by
  have left : (ledger.exportTo sink).2 = (sink.write ledger.exported).2 := by
    rw [Ledger.exportTo_snd, Ledger.writeEvents_eq_write, Ledger.exported_eq]
  have fault := Ledger.writeEvents_fault room ledger.events
  have beyond := @Ledger.partAt_eq_none_iff ledger.events taken
  rw [← Ledger.exported_eq] at beyond
  refine ⟨(ledger.exportTo sink).1, (ledger.exportTo sink).2, ?_, ledger.exported_eq, ?_,
    fun pieces whole => ?_, fun count => ?_, fun reason => ?_, fun reason => ?_⟩
  · rw [exportTo, found, step_list]
    rfl
  · rw [left, Sink.written_write room]
  · rw [left, Sink.writeAll_eq_write, whole]
  · rw [Ledger.exportTo_eq_ok_iff, fault, Ledger.faultAt_eq_none_iff, beyond]
  · rw [Ledger.exportTo_eq_error_iff, fault, Ledger.faultAt_eq_inEvent_iff,
      Ledger.partAt_eq_some_iff]
    rfl
  · rw [Ledger.exportTo_eq_error_iff, fault, Ledger.faultAt_eq_inSink_iff,
      Ledger.partAt_eq_some_iff, beyond]
    rfl

def sampleStore : Ledgers :=
  empty.run [.create, .clone 0, .call 1 (.append (sampleEvent 5)),
    .call 0 (.append (sampleEvent 7))]

theorem export_cut_of_sampleStore :
    let first : StoredEvent := ⟨1, sampleEvent 5⟩
    let size := (Ledger.eventBytes first).length
    let sink : Sink := ⟨some size, "full", some "not flushed", Ledger.bytesOf "before"⟩
    ∃ ledger left, sampleStore.ledger? 1 = some ledger ∧ sink.room = some size ∧
      sampleStore.exportTo 1 sink = (some (.error (.inSink "full"), left), sampleStore) ∧
      left.written = Ledger.bytesOf "before" ++ ledger.exported.take size := by
  intro first size sink
  have found : ∃ ledger, sampleStore.ledger? 1 = some ledger ∧
      ledger.events = [first, ⟨2, sampleEvent 7⟩] := ⟨_, rfl, rfl⟩
  obtain ⟨ledger, found, events⟩ := found
  obtain ⟨outcome, left, exported, -, written, -, -, -, inSink⟩ :=
    export_cut sampleStore 1 ledger sink size found rfl
  have atFeed : Ledger.IsAt ledger.events size first size := by
    rw [events, Ledger.isAt_cons_iff]
    exact Or.inl ⟨rfl, rfl⟩
  have outcome_eq : outcome = .error (.inSink "full") :=
    (inSink "full").mpr (Or.inl ⟨rfl, first, size, atFeed, rfl⟩)
  rw [outcome_eq] at exported
  exact ⟨ledger, left, found, rfl, exported, written⟩

end Ledgers

end Authoring
