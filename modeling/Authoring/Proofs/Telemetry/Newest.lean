import Mathlib
import Authoring.Settings
import Authoring.Telemetry

/-! What a telemetry buffer holds after any calls: the newest of the events that were accepted, as
many as there is room for. -/

namespace Authoring.Telemetry

structure IsNewest {α : Type} (count : Nat) (items newest : List α) : Prop where
  suffix : newest <:+ items
  length : newest.length = min count items.length

section Lists

variable {α : Type} {count : Nat} {items newest : List α}

theorem isNewest_drop (count : Nat) (items : List α) :
    IsNewest count items (items.drop (items.length - count)) where
  suffix := List.drop_suffix _ _
  length := by
    rw [List.length_drop]
    omega

theorem IsNewest.append (window : IsNewest count items newest) (positive : 0 < count) (item : α) :
    IsNewest count (items ++ [item])
      ((if newest.length = count then newest.tail else newest) ++ [item]) := by
  obtain ⟨older, rfl⟩ := window.suffix
  have length := window.length
  rw [List.length_append] at length
  split
  · rename_i full
    refine ⟨?_, ?_⟩
    · have tail : newest.tail <:+ older ++ newest :=
        (List.tail_suffix newest).trans (List.suffix_append older newest)
      exact List.suffix_append_inj_of_length_eq rfl |>.mpr ⟨tail, rfl⟩
    · simp only [List.length_append, List.length_tail, List.length_singleton]
      omega
  · rename_i roomy
    have all : older = [] := by
      rw [← List.length_eq_zero_iff]
      omega
    refine ⟨by simp [all], ?_⟩
    simp only [all, List.nil_append, List.length_append, List.length_singleton] at length ⊢
    omega

end Lists

namespace Call

def accepted? : Call → Option TelemetryEvent
  | .record time name props => if isName name then some ⟨time, name, sanitize props⟩ else none
  | .push event => some event

end Call

namespace Buffer

variable {buffer : Buffer} {room : Nat} {events : List TelemetryEvent}

theorem answer_accepted {call : Call} {event : TelemetryEvent}
    (accepted : call.accepted? = some event) (buffer : Buffer) :
    buffer.answer call = (.ok event, buffer.push event) := by
  cases call with
  | push pushed =>
      cases accepted
      rfl
  | record time name props =>
      simp only [Call.accepted?, Option.ite_none_right_eq_some, Option.some.injEq] at accepted
      obtain ⟨proper, rfl⟩ := accepted
      simp [answer, record, proper]

theorem answer_refused {call : Call} (refused : call.accepted? = none) (buffer : Buffer) :
    buffer.answer call = (.error .invalidName, buffer) := by
  cases call with
  | push pushed => cases refused
  | record time name props =>
      simp only [Call.accepted?, ite_eq_right_iff, reduceCtorEq, imp_false] at refused
      simp [answer, record, refused]

structure Holds (buffer : Buffer) (room : Nat) (events : List TelemetryEvent) : Prop where
  capacity : buffer.capacity = room
  positive : 0 < room
  newest : IsNewest room events buffer.events

theorem new?_of_fits {eventSize : Nat} {capacity : UInt64}
    (fits : max capacity.toNat 1 * eventSize < 2 ^ 63) :
    ∃ start, new? eventSize capacity = some start ∧ start.Holds (max capacity.toNat 1) [] := by
  have small : max capacity.toNat 1 * eventSize ≤ largestAllocation := by
    rw [largestAllocation]
    omega
  refine ⟨⟨max capacity.toNat 1, []⟩, if_pos small, rfl, ?_, ⟨List.suffix_refl _, by simp⟩⟩
  omega

theorem new?_of_overflow {eventSize : Nat} {capacity : UInt64}
    (large : 2 ^ 63 ≤ max capacity.toNat 1 * eventSize) : new? eventSize capacity = none := by
  refine if_neg ?_
  rw [largestAllocation]
  omega

theorem Holds.push (holds : buffer.Holds room events) (event : TelemetryEvent) :
    (buffer.push event).Holds room (events ++ [event]) where
  capacity := holds.capacity
  positive := holds.positive
  newest := by
    rw [Buffer.push, holds.capacity]
    exact holds.newest.append holds.positive event

theorem Holds.answer (holds : buffer.Holds room events) (call : Call) :
    (buffer.answer call).2.Holds room (events ++ call.accepted?.toList) := by
  cases accepted : call.accepted? with
  | none => simpa [answer_refused accepted] using holds
  | some event => simpa [answer_accepted accepted] using holds.push event

theorem Holds.run (holds : buffer.Holds room events) (calls : List Call) :
    (buffer.run calls).Holds room (events ++ calls.filterMap Call.accepted?) := by
  induction calls generalizing buffer events with
  | nil => simpa [Buffer.run] using holds
  | cons call rest ih =>
      have later := ih (holds.answer call)
      rw [List.append_assoc] at later
      cases accepted : call.accepted? <;> simpa [Buffer.run, accepted] using later

end Buffer

/-- A buffer whose room fits in an allocation holds, after any calls, the newest of the accepted
events in the order of their arrival, never more than it has room for. Looking at the last ones
shows the newest of those held. A record is accepted for its name alone, and one that is refused
leaves the buffer as it was. There is no buffer whose room does not fit. -/
theorem run_holds_newest (eventSize : Nat) (capacity : UInt64) (calls : List Call) :
    let room := max capacity.toNat 1
    (room * eventSize < 2 ^ 63 →
      ∃ start, Buffer.new? eventSize capacity = some start ∧
        let buffer := start.run calls
        buffer.capacity = room ∧
        IsNewest room (calls.filterMap Call.accepted?) buffer.events ∧
        buffer.events.length ≤ room ∧
        (∀ count, IsNewest count buffer.events (buffer.last count)) ∧
        ∀ call,
          (∀ event, (buffer.answer call).1 = .ok event ↔ call.accepted? = some event) ∧
          ∀ error, (buffer.answer call).1 = .error error → (buffer.answer call).2 = buffer) ∧
    (2 ^ 63 ≤ room * eventSize → Buffer.new? eventSize capacity = none) := by
  intro room
  refine ⟨fun fits => ?_, Buffer.new?_of_overflow⟩
  obtain ⟨start, made, empty⟩ := Buffer.new?_of_fits fits
  have holds := empty.run calls
  rw [List.nil_append] at holds
  refine ⟨start, made, holds.capacity, holds.newest, ?_,
    fun count => isNewest_drop count (start.run calls).events, fun call => ?_⟩
  · rw [holds.newest.length]
    exact Nat.min_le_left _ _
  · cases accepted : call.accepted? with
    | none => simp [Buffer.answer_refused accepted]
    | some event => simp [Buffer.answer_accepted accepted, eq_comm]

def sampleEvent (time : Int64) : TelemetryEvent :=
  ⟨time, "a", []⟩

def sampleCalls : List Call :=
  [.push (sampleEvent 5), .record 6 "a/b" none, .record 3 "a" none, .push (sampleEvent 4)]

theorem run_holds_newest_of_sampleCalls :
    Buffer.new? 104 0x7FFFFFFFFFFFFFFF = none ∧
      ∃ start, Buffer.new? 104 2 = some start ∧
        let buffer := start.run sampleCalls
        (buffer.answer (.record 7 "" none)).1 = .error .invalidName ∧
          (buffer.answer (.record 7 "" none)).2 = buffer ∧
          IsNewest 2 [sampleEvent 5, sampleEvent 3, sampleEvent 4] buffer.events ∧
          IsNewest 1 buffer.events (buffer.last 1) := by
  have fits : max (2 : UInt64).toNat 1 * 104 < 2 ^ 63 := by decide
  have large : 2 ^ 63 ≤ max (0x7FFFFFFFFFFFFFFF : UInt64).toNat 1 * 104 := by decide
  obtain ⟨start, made, _, newest, _, last, each⟩ := (run_holds_newest 104 2 sampleCalls).1 fits
  refine ⟨(run_holds_newest 104 0x7FFFFFFFFFFFFFFF []).2 large, start, made, ?_⟩
  intro buffer
  have refused : (buffer.answer (.record 7 "" none)).1 = .error .invalidName := rfl
  exact ⟨refused, (each _).2 _ refused, newest, last 1⟩

def sampleVariables (name : String) : Option String :=
  if name = Settings.capacityVariable then some "18446744073709551615" else none

/-- The settings accept a capacity that no buffer can have. -/
theorem new?_none_of_sampleVariables :
    ∃ settings, Settings.ofVariables sampleVariables = .ok settings ∧
      settings.telemetryCapacity = 0xFFFFFFFFFFFFFFFF ∧
      Buffer.new? 104 settings.telemetryCapacity = none := by
  refine ⟨{ Settings.default with telemetryCapacity := 0xFFFFFFFFFFFFFFFF }, ?_, rfl, by decide⟩
  decide +kernel

end Authoring.Telemetry
