import Mathlib
import Authoring.Ledger.Shared

/-! The history of a ledger: whatever handle a call came through, the ledger holds the events that
were accepted since it was last cleared, numbered from one. -/

namespace Authoring

namespace LedgerCall

def accepted? : LedgerCall → Option LedgerEvent
  | .append event => some event
  | .appendJson raw => (LedgerEvent.ofJson raw).toOption
  | .list _ => none
  | .clear => none

def isClear : LedgerCall → Bool
  | .clear => true
  | _ => false

def isAppend : LedgerCall → Bool
  | .append _ => true
  | .appendJson _ => true
  | _ => false

theorem isAppend_of_accepted? {call : LedgerCall} (accepted : call.accepted?.isSome = true) :
    call.isAppend = true := by
  cases call with
  | append event => rfl
  | appendJson raw => rfl
  | list options => cases accepted
  | clear => cases accepted

end LedgerCall

namespace Ledger

/-- The events that the calls after the last `clear` have added. -/
def history (calls : List LedgerCall) : List LedgerEvent :=
  (calls.rtakeWhile fun call => !call.isClear).filterMap LedgerCall.accepted?

theorem history_append (calls : List LedgerCall) (call : LedgerCall) :
    history (calls ++ [call]) =
      if call.isClear then [] else history calls ++ call.accepted?.toList := by
  cases clears : call.isClear with
  | true => simp [history, clears]
  | false => cases accepted : call.accepted? <;> simp [history, clears, accepted]

theorem history_length (calls : List LedgerCall) :
    (history calls).length ≤ calls.countP LedgerCall.isAppend := by
  have suffix : (calls.rtakeWhile fun call => !call.isClear).Sublist calls :=
    (List.rtakeWhile_suffix _ _).sublist
  calc (history calls).length
      = (calls.rtakeWhile fun call => !call.isClear).countP fun call =>
          call.accepted?.isSome := List.length_filterMap_eq_countP
    _ ≤ calls.countP fun call => call.accepted?.isSome := suffix.countP_le
    _ ≤ calls.countP LedgerCall.isAppend :=
        List.countP_mono_left fun call _ accepted => LedgerCall.isAppend_of_accepted? accepted

/-- The ledger holds the events and nothing else. Numbers wrap around after `2 ^ 64` of them. -/
structure Records (ledger : Ledger) (events : List LedgerEvent) : Prop where
  held : ledger.events =
    events.mapIdx fun index event => ⟨UInt64.ofNat (index + 1), event⟩
  counted : ledger.lastSeq = UInt64.ofNat events.length

theorem empty_records : empty.Records [] where
  held := rfl
  counted := rfl

variable {ledger : Ledger} {events : List LedgerEvent}

theorem Records.append (records : ledger.Records events) (event : LedgerEvent) :
    (ledger.append event).2.Records (events ++ [event]) where
  held := by
    simp [Ledger.append, records.held, records.counted, List.mapIdx_append, UInt64.ofNat_add]
  counted := by
    simp [Ledger.append, records.counted, UInt64.ofNat_add]

theorem Records.answer {calls : List LedgerCall} (records : ledger.Records (history calls))
    (call : LedgerCall) : (ledger.answer call).2.Records (history (calls ++ [call])) := by
  rw [history_append]
  cases call with
  | append event => exact records.append event
  | appendJson raw =>
      cases outcome : LedgerEvent.ofJson raw with
      | ok event =>
          simpa [Ledger.answer, appendJson, outcome, Except.map, LedgerCall.accepted?,
            LedgerCall.isClear, Except.toOption] using records.append event
      | error reason =>
          simpa [Ledger.answer, appendJson, outcome, Except.map, LedgerCall.accepted?,
            LedgerCall.isClear, Except.toOption] using records
  | list options => simpa [Ledger.answer, LedgerCall.accepted?, LedgerCall.isClear] using records
  | clear => exact empty_records

theorem Records.events_eq (records : ledger.Records events) :
    ledger.events.map StoredEvent.event = events := by
  rw [records.held]
  apply List.ext_getElem
  · simp
  · intro index left right
    simp

theorem Records.seqs_eq (records : ledger.Records events) (few : events.length < 2 ^ 64) :
    ledger.events.map (fun stored => stored.seq.toNat) = List.range' 1 events.length := by
  rw [records.held]
  apply List.ext_getElem
  · simp
  · intro index left right
    have bound : index + 1 < 2 ^ 64 := by
      simp only [List.length_map, List.length_mapIdx] at left
      omega
    simp only [List.getElem_map, List.getElem_mapIdx, List.getElem_range',
      UInt64.toNat_ofNat_of_lt' bound]
    omega

theorem Records.lastSeq_eq (records : ledger.Records events) (few : events.length < 2 ^ 64) :
    ledger.lastSeq.toNat = events.length := by
  rw [records.counted]
  exact UInt64.toNat_ofNat_of_lt' few

end Ledger

namespace ListOptions

def wants (options : ListOptions) (stored : StoredEvent) : Bool :=
  decide (∀ since ∈ options.since, since.toInt ≤ stored.event.time.toInt)

structure Selects (options : ListOptions) (held listed : List StoredEvent) : Prop where
  limited : ∀ limit, options.limit = some limit → 0 < limit.toNat →
    listed = (held.filter options.wants).take limit.toNat
  unlimited : options.limit = none ∨ options.limit = some 0 → listed = held.filter options.wants

theorem admits_eq_wants (options : ListOptions) (stored : StoredEvent) :
    options.admits stored = options.wants stored := by
  cases earliest : options.since <;>
    simp [admits, wants, earliest, Int64.le_iff_toInt_le]

theorem list_selects (ledger : Ledger) (options : ListOptions) :
    options.Selects ledger.events (ledger.list options) := by
  have same : options.admits = options.wants := funext options.admits_eq_wants
  constructor
  · intro limit given positive
    have nonzero : limit ≠ 0 := by
      rintro rfl
      exact absurd positive (by decide)
    simp [Ledger.list, cut, given, nonzero, same]
  · rintro (none | zero)
    · simp [Ledger.list, cut, none, same]
    · simp [Ledger.list, cut, zero, same]

end ListOptions

namespace Ledgers

variable {ledgers : Ledgers} {place handle : Nat} {ledger : Ledger}

def callTo? (place : Nat) (ledgers : Ledgers) : LedgerAction → Option LedgerCall
  | .create => none
  | .clone _ => none
  | .call handle call => if ledgers.handles[handle]? = some place then some call else none

def callsTo (place : Nat) (ledgers : Ledgers) : List LedgerAction → List LedgerCall
  | [] => []
  | action :: rest =>
      (ledgers.callTo? place action).toList ++ callsTo place (ledgers.step action).2 rest

theorem step_call (handled : ledgers.handles[handle]? = some place)
    (there : ledgers.held[place]? = some ledger) (call : LedgerCall) :
    ledgers.step (.call handle call) =
      (some (ledger.answer call).1, ledgers.replace place (ledger.answer call).2) := by
  have found : ledgers.ledger? handle = some ledger := by simp [ledger?, handled, there]
  simp [step, handled, found]

theorem replace_same (there : ledgers.held[place]? = some ledger) :
    ledgers.replace place ledger = ledgers := by
  have same : ledgers.held.set place ledger = ledgers.held := by
    obtain ⟨bound, rfl⟩ := List.getElem?_eq_some_iff.mp there
    exact List.set_getElem_self bound
  cases ledgers
  simpa [replace] using same

theorem step_held (there : ledgers.held[place]? = some ledger) (action : LedgerAction) :
    (ledgers.step action).2.held[place]? =
      some ((ledgers.callTo? place action).elim ledger fun call => (ledger.answer call).2) := by
  have bound : place < ledgers.held.length := (List.getElem?_eq_some_iff.mp there).1
  cases action with
  | create => simpa [step, create, callTo?, List.getElem?_append_left bound] using there
  | clone handle =>
      simp only [step]
      split
      · simpa [callTo?] using there
      · simpa [callTo?, share] using there
  | call handle call =>
      cases handled : ledgers.handles[handle]? with
      | none => simpa [step, callTo?, handled] using there
      | some other =>
          have known : other < ledgers.held.length :=
            ledgers.known other (List.mem_of_getElem? handled)
          rw [step_call handled (List.getElem?_eq_getElem known)]
          by_cases same : other = place
          · subst same
            have held := (List.getElem?_eq_some_iff.mp there).2
            simp [callTo?, handled, replace, held, bound]
          · simpa [callTo?, handled, replace, same, List.getElem?_set_ne same] using there

theorem step_handles (ledgers : Ledgers) (action : LedgerAction) :
    ledgers.handles <+: (ledgers.step action).2.handles := by
  cases action with
  | create => exact List.prefix_append _ _
  | clone handle =>
      simp only [step]
      split
      · exact List.prefix_rfl
      · exact List.prefix_append _ _
  | call handle call =>
      simp only [step]
      split
      · exact List.prefix_rfl
      · exact List.prefix_rfl

theorem run_handles (ledgers : Ledgers) (actions : List LedgerAction) :
    ledgers.handles <+: (ledgers.run actions).handles := by
  induction actions generalizing ledgers with
  | nil => exact List.prefix_rfl
  | cons action rest ih => exact (ledgers.step_handles action).trans (ih _)

def Keeps (ledgers : Ledgers) (place : Nat) (calls : List LedgerCall) : Prop :=
  ∃ ledger, ledgers.held[place]? = some ledger ∧ ledger.Records (Ledger.history calls)

theorem create_keeps (ledgers : Ledgers) : ledgers.create.Keeps ledgers.held.length [] :=
  ⟨.empty, by simp [create], Ledger.empty_records⟩

theorem Keeps.step {calls : List LedgerCall} (keeps : ledgers.Keeps place calls)
    (action : LedgerAction) :
    (ledgers.step action).2.Keeps place (calls ++ (ledgers.callTo? place action).toList) := by
  obtain ⟨ledger, there, records⟩ := keeps
  refine ⟨_, step_held there action, ?_⟩
  cases ledgers.callTo? place action with
  | none => simpa using records
  | some call => exact records.answer call

theorem Keeps.run {calls : List LedgerCall} (keeps : ledgers.Keeps place calls)
    (actions : List LedgerAction) :
    (ledgers.run actions).Keeps place (calls ++ ledgers.callsTo place actions) := by
  induction actions generalizing ledgers calls with
  | nil => simpa [Ledgers.run, callsTo] using keeps
  | cons action rest ih =>
      rw [callsTo, ← List.append_assoc]
      exact ih (keeps.step action)

/-- A ledger that is made anywhere in a program holds, after any run, just the events accepted since
the last `clear` through any of its handles, numbered from one in the order of their acceptance.
Refused events change nothing, and listing selects from what is held. -/
theorem run_holds_history (ledgers : Ledgers) (actions : List LedgerAction)
    (few : (ledgers.create.callsTo ledgers.held.length actions).countP LedgerCall.isAppend <
      2 ^ 64) :
    let place := ledgers.held.length
    let accepted := Ledger.history (ledgers.create.callsTo place actions)
    let after := ledgers.create.run actions
    ∃ ledger, after.held[place]? = some ledger ∧
      ledger.events.map StoredEvent.event = accepted ∧
      ledger.events.map (fun stored => stored.seq.toNat) = List.range' 1 accepted.length ∧
      ledger.lastSeq.toNat = accepted.length ∧
      after.handles[ledgers.handles.length]? = some place ∧
      ∀ handle, after.handles[handle]? = some place →
        (∀ raw error, LedgerEvent.ofJson raw = .error error →
          after.step (.call handle (.appendJson raw)) = (some (.refused error), after)) ∧
        ∀ options, ∃ listed, options.Selects ledger.events listed ∧
          after.step (.call handle (.list options)) = (some (.listed listed), after) := by
  intro place accepted after
  obtain ⟨ledger, there, records⟩ := ledgers.create_keeps.run actions
  rw [List.nil_append] at records
  have short : accepted.length < 2 ^ 64 := lt_of_le_of_lt (Ledger.history_length _) few
  have first : after.handles[ledgers.handles.length]? = some place := by
    obtain ⟨later, same⟩ := ledgers.create.run_handles actions
    change (ledgers.create.run actions).handles[ledgers.handles.length]? = some place
    rw [← same]
    simp [create, place]
  refine ⟨ledger, there, records.events_eq, records.seqs_eq short, records.lastSeq_eq short,
    first, ?_⟩
  intro handle handled
  constructor
  · intro raw error refused
    have answer : ledger.answer (.appendJson raw) = (.refused error, ledger) := by
      simp [Ledger.answer, Ledger.appendJson, refused, Except.map]
    rw [step_call handled there, answer, replace_same there]
  · intro options
    refine ⟨ledger.list options, ListOptions.list_selects ledger options, ?_⟩
    have answer : ledger.answer (.list options) = (.listed (ledger.list options), ledger) := rfl
    rw [step_call handled there, answer, replace_same there]

def sampleEvent (time : Int64) : LedgerEvent :=
  .plain time "https://a.test" "A" .null

/-- Handle 0 stands for another ledger, handles 1 and 2 for the one that is looked at. -/
def sampleActions : List LedgerAction :=
  [.clone 1, .call 2 (.append (sampleEvent 5)), .call 1 .clear, .call 2 (.append (sampleEvent 9)),
    .call 1 (.appendJson .null), .call 0 (.append (sampleEvent 2)),
    .call 1 (.append (sampleEvent 7))]

theorem run_holds_history_of_sampleActions :
    (empty.create.create.callsTo 1 sampleActions).countP LedgerCall.isAppend < 2 ^ 64 ∧
      ∃ ledger, (empty.create.create.run sampleActions).held[1]? = some ledger ∧
        ledger.events.map StoredEvent.event = [sampleEvent 9, sampleEvent 7] ∧
        ledger.events.map (fun stored => stored.seq.toNat) = [1, 2] ∧
        ledger.lastSeq.toNat = 2 ∧
        (empty.create.create.run sampleActions).step (.call 2 (.appendJson .null)) =
          (some (.refused .notAnObject), empty.create.create.run sampleActions) ∧
        ∃ listed, ListOptions.Selects ⟨some 1, some 8⟩ ledger.events listed ∧
          (empty.create.create.run sampleActions).step (.call 2 (.list ⟨some 1, some 8⟩)) =
            (some (.listed listed), empty.create.create.run sampleActions) := by
  have few : (empty.create.create.callsTo 1 sampleActions).countP LedgerCall.isAppend < 2 ^ 64 := by
    decide
  obtain ⟨ledger, there, events, seqs, lastSeq, _, each⟩ :=
    run_holds_history empty.create sampleActions few
  obtain ⟨refusals, listings⟩ := each 2 rfl
  exact ⟨few, ledger, there, events, seqs, lastSeq, refusals .null .notAnObject rfl,
    listings ⟨some 1, some 8⟩⟩

end Ledgers

end Authoring
