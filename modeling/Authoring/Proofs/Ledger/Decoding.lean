import Mathlib
import Authoring.Proofs.Graph.Decoding
import Authoring.Proofs.Json.Present
import Authoring.Proofs.Ledger.Raw

/-! Stored events decoded from their JSON form. The sequence number is found among the members, and
what is set aside for the event gives the event back. -/

namespace Authoring

open Outline (Copies ofFields)

namespace LedgerEvent

/-- What every checked event satisfies: no map in it has a name twice, and a difference that is
there is not null. -/
structure Checked (event : LedgerEvent) : Prop where
  goalState : event.goalState.Distinct
  difference : ∀ value, event.artifactDiff = some value → value.Distinct ∧ value ≠ .null

structure IsFinite (event : LedgerEvent) : Prop where
  goalState : event.goalState.IsFinite
  difference : ∀ value, event.artifactDiff = some value → value.IsFinite

theorem ofJson_checked {raw : Json} {event : LedgerEvent}
    (read : LedgerEvent.ofJson raw = .ok event) : event.Checked := by
  have made := ofJson_eq_ok_iff.mp read
  obtain ⟨goalState, -, goal⟩ := made.goalState
  refine ⟨goal ▸ Value.ofJson_distinct goalState, fun value held => ?_⟩
  obtain ⟨document, -, notNull, rfl⟩ : IsPayload (some value) (raw.get? "artifactDiff") :=
    held ▸ made.difference
  exact ⟨Value.ofJson_distinct document, fun same => notNull (Value.eq_null_of_ofJson same)⟩

variable {event : LedgerEvent}

def table (event : LedgerEvent) : List (String × Option Json) :=
  [("ts", some (.ofInt event.time.toInt)), ("url", some (.string event.url)),
    ("title", some (.string event.title)), ("selection", event.selection.map .string),
    ("goalState", some event.goalState.toJson), ("action", event.action.map .string),
    ("artifactDiff", event.artifactDiff.map Value.toJson)]

theorem toFields_eq_present (event : LedgerEvent) : event.toFields = present event.table := by
  simp only [toFields, table, optionalField_eq_present, List.append_assoc, List.cons_append,
    List.nil_append, present_append, cons_present]

theorem table_names (event : LedgerEvent) : Fields.keys event.table =
    ["ts", "url", "title", "selection", "goalState", "action", "artifactDiff"] :=
  rfl

theorem toFields_names (event : LedgerEvent) : (Fields.keys event.toFields).Sublist
    ["ts", "url", "title", "selection", "goalState", "action", "artifactDiff"] := by
  rw [toFields_eq_present, ← table_names event]
  exact keys_present_sublist event.table

theorem get?_toFields (event : LedgerEvent) (name : String) :
    (Json.object event.toFields).get? name = (Fields.get? name event.table).join := by
  rw [toFields_eq_present, Json.get?, Json.fields?, Option.bind_some]
  exact get?_present (by rw [table_names]; decide) name

theorem value_copies {value : Value} (distinct : value.Distinct) (finite : value.IsFinite) :
    Value.decoder.ReadsBy Copies value.toJson value := by
  have read := Value.decoder_copies value.toJson
  rwa [Value.ofJson_toJson value distinct, (Value.carried_eq_iff value).mpr finite] at read

theorem record_copies (checked : event.Checked) (finite : event.IsFinite) :
    record.ReadsBy Copies (Json.object event.toFields).get? event := by
  have found := event.get?_toFields
  have text : ∀ text : String, Decoder.string.ReadsBy Copies (.string text) text := fun text =>
    (Decoder.string_reads text).copies trivial
  have notNull : ∀ text : String, Json.string text ≠ .null := by simp
  have head := (((Record.of_reads LedgerEvent.mk).required (found "ts")
    (Decoder.int64_copies event.time)).required (found "url") (text event.url)).required
    (found "title") (text event.title)
  have middle := ((head.option (found "selection")
    fun value _ => ⟨text value, notNull value⟩).required
    (found "goalState") (value_copies checked.goalState finite.goalState)).option
    (found "action") fun value _ => ⟨text value, notNull value⟩
  refine middle.option (found "artifactDiff") fun value held => ?_
  obtain ⟨distinct, notNull⟩ := checked.difference value held
  have bounded := finite.difference value held
  exact ⟨value_copies distinct bounded, Value.toJson_ne_null bounded notNull⟩

end LedgerEvent

namespace StoredEvent

variable {stored : StoredEvent}

theorem seq_absent (event : LedgerEvent) : "seq" ∉ Fields.keys event.toFields := by
  intro member
  exact absurd (event.toFields_names.subset member) (by decide)

theorem splitSeq_absent (origin : Origin) (seq? : Option UInt64) {fields : List (String × Json)}
    (absent : "seq" ∉ Fields.keys fields) :
    splitSeq origin seq? (ofFields fields) = .ok (seq?, ofFields fields) := by
  induction fields with
  | nil => rfl
  | cons field rest ih =>
      obtain ⟨name, value⟩ := field
      rw [Fields.keys, List.map_cons, List.mem_cons, not_or] at absent
      simp only [ofFields, splitSeq, Outline.name, lift, bind, Except.bind, Ne.symm absent.1,
        if_false, Outline.read_ofJson, ih absent.2]
      rfl

theorem splitSeq_first {origin : Origin} {seq : UInt64} {value : Json}
    {fields : List (String × Json)}
    (read : Decoder.uint64 "u64" origin (Outline.ofJson value) = .ok seq)
    (absent : "seq" ∉ Fields.keys fields) :
    splitSeq origin none (ofFields (("seq", value) :: fields)) =
      .ok (some seq, ofFields fields) := by
  simp only [ofFields, splitSeq, Outline.name, lift, bind, Except.bind, if_true,
    Option.isSome_none, Bool.false_eq_true, if_false, read]
  exact splitSeq_absent origin (some seq) absent

theorem decoder_object {origin : Origin} {members others : List (Outline × Outline)} {seq : UInt64}
    (split : splitSeq origin none members = .ok (some seq, others)) :
    decoder origin (.object false members none) =
      (LedgerEvent.record.fromMembers .buffer others none).map (StoredEvent.mk seq) := by
  simp only [decoder, Bool.false_eq_true, if_false, split, bind, Except.bind, Outline.endOf, lift]

theorem decoder_copies (checked : stored.event.Checked) (finite : stored.event.IsFinite) :
    decoder.ReadsBy Copies stored.toJson stored := by
  rintro origin outline rfl
  have seq := Decoder.uint64_copies stored.seq "u64" origin _ rfl
  have split := splitSeq_first seq (seq_absent stored.event)
  have distinct : (Fields.keys stored.event.toFields).Nodup :=
    stored.event.toFields_names.nodup (by decide)
  have read := Record.fromMembers_copies .buffer distinct
    (LedgerEvent.record_copies checked finite)
  rw [toJson, Outline.ofJson, decoder_object split, read, Except.map]

end StoredEvent

end Authoring
