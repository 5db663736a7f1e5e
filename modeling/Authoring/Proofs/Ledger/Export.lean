import Mathlib
import Authoring.Proofs.Ledger.Bytes
import Authoring.Proofs.Ledger.Decoding
import Authoring.Proofs.Ledger.History

/-! The export of a ledger is a log: one line for each event that is held, and each line is decoded
as its event again. -/

namespace Authoring

namespace LedgerEvent

structure Floatless (event : LedgerEvent) : Prop where
  goalState : event.goalState.Floatless
  difference : ∀ value, event.artifactDiff = some value → value.Floatless

variable {event : LedgerEvent}

theorem Floatless.isFinite (whole : event.Floatless) : event.IsFinite where
  goalState := whole.goalState.isFinite
  difference := fun value held => (whole.difference value held).isFinite

theorem optionalField_floatless {α : Type} {encode : α → Json} {value? : Option α} (name : String)
    (whole : ∀ value, value? = some value → (encode value).Floatless) :
    Json.FloatlessFields (optionalField name encode value?) := by
  cases value? with
  | none => trivial
  | some value => exact ⟨whole value rfl, trivial⟩

theorem Floatless.toFields (whole : event.Floatless) : Json.FloatlessFields event.toFields := by
  have head : Json.FloatlessFields [("ts", .ofInt event.time.toInt), ("url", .string event.url),
      ("title", .string event.title)] := by
    obtain ⟨time, -, written⟩ := Json.ofInt64_whole event.time
    rw [written]
    exact ⟨trivial, trivial, trivial, trivial⟩
  have selection : Json.FloatlessFields (optionalField "selection" .string event.selection) :=
    optionalField_floatless "selection" fun _ _ => trivial
  have goal : Json.FloatlessFields [("goalState", event.goalState.toJson)] :=
    ⟨whole.goalState.toJson, trivial⟩
  have action : Json.FloatlessFields (optionalField "action" .string event.action) :=
    optionalField_floatless "action" fun _ _ => trivial
  have difference :
      Json.FloatlessFields (optionalField "artifactDiff" Value.toJson event.artifactDiff) :=
    optionalField_floatless "artifactDiff" fun value held => (whole.difference value held).toJson
  simp only [LedgerEvent.toFields, Json.floatlessFields_append]
  exact ⟨⟨⟨⟨head, selection⟩, goal⟩, action⟩, difference⟩

end LedgerEvent

namespace StoredEvent

variable {stored : StoredEvent}

structure Exportable (stored : StoredEvent) : Prop where
  floatless : stored.event.Floatless
  shallow : stored.toJson.levels ≤ 127

theorem Exportable.toJson (exportable : stored.Exportable) : stored.toJson.Floatless := by
  obtain ⟨seq, written⟩ := Json.ofUInt64_whole stored.seq
  rw [StoredEvent.toJson, written]
  exact ⟨trivial, exportable.floatless.toFields⟩

theorem Exportable.decodeText (exportable : stored.Exportable) (checked : stored.event.Checked) :
    decoder.decodeText (Json.outline stored.toJson.toText) = .ok stored := by
  rw [Json.outline_toText exportable.toJson exportable.shallow]
  exact (decoder_copies checked exportable.floatless.isFinite).decodeText

end StoredEvent

namespace Sink

def after (sink : Sink) (bytes : List UInt8) : Sink :=
  { sink with written := sink.written ++ bytes }

variable {sink : Sink}

theorem after_nil (sink : Sink) : sink.after [] = sink := by
  rw [after, List.append_nil]

theorem after_after (sink : Sink) (first second : List UInt8) :
    (sink.after first).after second = sink.after (first ++ second) := by
  rw [after, after, after, List.append_assoc]

theorem write_roomy (roomy : sink.room = none) (bytes : List UInt8) :
    sink.write bytes = (true, sink.after bytes) := by
  simp [write, after, roomy]

end Sink

namespace Ledger

def run (ledger : Ledger) (calls : List LedgerCall) : Ledger :=
  calls.foldl (fun ledger call => (ledger.answer call).2) ledger

theorem run_records (calls : List LedgerCall) : (empty.run calls).Records (history calls) := by
  induction calls using List.reverseRecOn with
  | nil => exact empty_records
  | append_singleton calls call ih =>
      rw [run, List.foldl_append]
      exact ih.answer call

theorem accepted_of_mem_history {calls : List LedgerCall} {event : LedgerEvent}
    (member : event ∈ history calls) : ∃ call ∈ calls, call.accepted? = some event := by
  obtain ⟨call, late, accepted⟩ := List.mem_filterMap.mp member
  exact ⟨call, (List.rtakeWhile_suffix _ _).subset late, accepted⟩

theorem run_checked {calls : List LedgerCall} (raw : ∀ event, LedgerCall.append event ∉ calls)
    {stored : StoredEvent} (held : stored ∈ (empty.run calls).events) : stored.event.Checked := by
  have member : stored.event ∈ history calls := by
    rw [← (run_records calls).events_eq]
    exact List.mem_map_of_mem held
  obtain ⟨call, made, accepted⟩ := accepted_of_mem_history member
  cases call with
  | append event => exact absurd made (raw event)
  | appendJson document =>
      cases read : LedgerEvent.ofJson document with
      | error reason => simp [LedgerCall.accepted?, read, Except.toOption] at accepted
      | ok event =>
          simp only [LedgerCall.accepted?, read, Except.toOption, Option.some.injEq] at accepted
          rw [← accepted]
          exact LedgerEvent.ofJson_checked read
  | list options => cases accepted
  | clear => cases accepted

theorem list_all (ledger : Ledger) : ledger.list .all = ledger.events :=
  List.filter_eq_self.mpr fun _ _ => rfl

/-! The log -/

def logOf (lines : List String) : List UInt8 :=
  lines.flatMap fun line => bytesOf line ++ lineFeed

theorem logOf_cons (line : String) (rest : List String) :
    logOf (line :: rest) = bytesOf line ++ lineFeed ++ logOf rest :=
  List.flatMap_cons

structure IsLog (lines : List String) (events : List StoredEvent) : Prop where
  unbroken : ∀ line ∈ lines, 10 ∉ bytesOf line
  decoded : List.Forall₂ (fun line stored =>
    StoredEvent.decoder.decodeText (Json.outline line) = .ok stored) lines events

theorem isLog_map {events : List StoredEvent} (exportable : ∀ stored ∈ events, stored.Exportable)
    (checked : ∀ stored ∈ events, stored.event.Checked) :
    IsLog (events.map fun stored => stored.toJson.toText) events where
  unbroken := by
    intro line member
    obtain ⟨stored, held, rfl⟩ := List.mem_map.mp member
    rw [feed_mem_bytesOf_iff, Json.toText, String.toList_ofList]
    exact Json.oneLine_compact _ (exportable stored held).toJson
  decoded := by
    rw [List.forall₂_map_left_iff, List.forall₂_same]
    exact fun stored held => (exportable stored held).decodeText (checked stored held)

section Lines

variable {sink next last : Sink} {stored : StoredEvent} {rest : List StoredEvent}

theorem writeEvents_of_short (short : sink.write (eventBytes stored) = (false, next)) :
    writeEvents sink (stored :: rest) = (some (.inEvent next.fullReason), next) := by
  rw [writeEvents, short]

theorem writeEvents_of_feed (whole : sink.write (eventBytes stored) = (true, next))
    (short : next.write lineFeed = (false, last)) :
    writeEvents sink (stored :: rest) = (some (.inSink last.fullReason), last) := by
  simp only [writeEvents, whole, short]

theorem writeEvents_of_line (whole : sink.write (eventBytes stored) = (true, next))
    (feed : next.write lineFeed = (true, last)) :
    writeEvents sink (stored :: rest) = writeEvents last rest := by
  simp only [writeEvents, whole, feed]

end Lines

theorem writeEvents_roomy {sink : Sink} (roomy : sink.room = none)
    (flushes : sink.flushFault = none) (events : List StoredEvent) :
    writeEvents sink events =
      (none, sink.after (logOf (events.map fun stored => stored.toJson.toText))) := by
  induction events generalizing sink with
  | nil =>
      rw [writeEvents, flushes]
      exact congrArg (Prod.mk none) sink.after_nil.symm
  | cons stored rest ih =>
      have first := Sink.write_roomy roomy (eventBytes stored)
      have second := @Sink.write_roomy (sink.after (eventBytes stored)) roomy lineFeed
      have later := @ih ((sink.after (eventBytes stored)).after lineFeed) roomy flushes
      rw [List.map_cons, logOf_cons, ← Sink.after_after, ← Sink.after_after,
        writeEvents_of_line first second]
      exact later

/-- Into a sink that never gives out, a ledger that was filled from raw events is exported as a log
of all that it lists. -/
theorem export_reads_back (calls : List LedgerCall) (sink : Sink)
    (raw : ∀ event, LedgerCall.append event ∉ calls)
    (exportable : ∀ stored ∈ (empty.run calls).events, stored.Exportable)
    (roomy : sink.room = none) (flushes : sink.flushFault = none) :
    let ledger := empty.run calls
    ∃ lines, lines.length = ledger.events.length ∧
      ledger.exportTo sink = (.ok ledger.events.length, sink.after (logOf lines)) ∧
      IsLog lines (ledger.list .all) := by
  intro ledger
  have checked : ∀ stored ∈ ledger.events, stored.event.Checked := fun _ => run_checked raw
  refine ⟨ledger.events.map fun stored => stored.toJson.toText, List.length_map _, ?_, ?_⟩
  · simp only [exportTo, list_all, writeEvents_roomy roomy flushes]
  · rw [list_all]
    exact isLog_map exportable checked

def sampleCalls : List LedgerCall :=
  [.appendJson (.object [("ts", .ofInt 1), ("url", .string "u"), ("title", .string "t"),
      ("goalState", .null)]),
    .clear,
    .appendJson (.object [("title", .string "two\nlines"), ("url", .string "\"quoted\""),
      ("ts", .ofInt 2), ("goalState", .array [.array [], .object [("", .bool true)]])]),
    .appendJson (.string "no event"),
    .appendJson (.object [("ts", .ofInt 3), ("url", .string "u"), ("title", .string "é"),
      ("goalState", .null), ("selection", .null), ("action", .string "save"),
      ("artifactDiff", .ofInt (-9223372036854775808))])]

def sampleSink : Sink :=
  ⟨none, "full", none, bytesOf "before"⟩

theorem export_reads_back_of_sampleCalls :
    (∀ event, LedgerCall.append event ∉ sampleCalls) ∧
      (∀ stored ∈ (empty.run sampleCalls).events, stored.Exportable) ∧
      sampleSink.room = none ∧ sampleSink.flushFault = none ∧
      ∃ lines, lines.length = 2 ∧
        (empty.run sampleCalls).exportTo sampleSink =
          (.ok 2, sampleSink.after (logOf lines)) ∧
        IsLog lines ((empty.run sampleCalls).list .all) := by
  have raw : ∀ event, LedgerCall.append event ∉ sampleCalls := by simp [sampleCalls]
  have exportable : ∀ stored ∈ (empty.run sampleCalls).events, stored.Exportable := by
    have events : ∃ first second, (empty.run sampleCalls).events =
        [⟨1, ⟨first, "\"quoted\"", "two\nlines", none,
          .list [.list [], .map [("", .bool true)]], none, none⟩⟩,
        ⟨2, ⟨second, "u", "é", none, .null, some "save",
          some (.int (-9223372036854775808))⟩⟩] := ⟨_, _, rfl⟩
    obtain ⟨first, second, events⟩ := events
    rw [events, List.forall_mem_cons, List.forall_mem_singleton]
    refine ⟨⟨⟨⟨trivial, ⟨trivial, trivial⟩, trivial⟩, nofun⟩, ?_⟩,
      ⟨⟨trivial, fun value held => ?_⟩, ?_⟩⟩
    · simp [StoredEvent.toJson, LedgerEvent.toFields, optionalField, Value.toJson, Value.toItems,
        Value.toFields, Json.levels, Json.levelsOfItems, Json.levelsOfFields, Json.ofNat]
    · cases held
      trivial
    · simp [StoredEvent.toJson, LedgerEvent.toFields, optionalField, Value.toJson, Json.levels,
        Json.levelsOfFields, Json.ofNat]
  exact ⟨raw, exportable, rfl, rfl, export_reads_back sampleCalls sampleSink raw exportable rfl rfl⟩

end Ledger

end Authoring
