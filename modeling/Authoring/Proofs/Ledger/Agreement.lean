import Mathlib
import Authoring.Ledger.Store
import Authoring.Proofs.Decimal.Words
import Authoring.Proofs.Ledger.Decoding

/-! Events appended as they are and in their JSON form. Both come to the same, except that the time
of a raw event goes through a float. -/

namespace Authoring

namespace LedgerEvent

def sorted (event : LedgerEvent) : LedgerEvent :=
  { event with
    goalState := event.goalState.sorted
    artifactDiff := event.artifactDiff.map Value.sorted }

def Alike (left right : LedgerEvent) : Prop :=
  left.sorted = right.sorted

theorem Alike.time_eq {left right : LedgerEvent} (alike : left.Alike right) :
    left.time = right.time := by
  have times := congrArg LedgerEvent.time alike
  exact times

variable {event : LedgerEvent}

theorem sorted_sorted (event : LedgerEvent) : event.sorted.sorted = event.sorted := by
  cases held : event.artifactDiff <;> simp [sorted, held, Value.sorted_sorted]

theorem optionalField_distinct {α : Type} {encode : α → Json} {value? : Option α} {name : String}
    (distinct : ∀ value, value? = some value → (encode value).Distinct) :
    ∀ field ∈ optionalField name encode value?, field.2.Distinct := by
  cases value? with
  | none => exact List.forall_mem_nil _
  | some value => exact List.forall_mem_singleton.mpr (distinct value rfl)

theorem toJson_distinct (checked : event.Checked) : event.toJson.Distinct := by
  refine Json.distinct_object_iff.mpr ⟨event.toFields_names.nodup (by decide), ?_⟩
  have difference : ∀ value, event.artifactDiff = some value → value.toJson.Distinct :=
    fun value held => Value.toJson_distinct value (checked.difference value held).1
  simp only [toFields, List.forall_mem_append, List.forall_mem_cons, List.not_mem_nil,
    false_implies, implies_true, and_true]
  exact ⟨⟨⟨⟨⟨Json.ofInt_distinct _, trivial, trivial⟩, optionalField_distinct fun _ _ => trivial⟩,
    Value.toJson_distinct _ checked.goalState⟩, optionalField_distinct fun _ _ => trivial⟩,
    optionalField_distinct difference⟩

theorem ofJson_toJson_sorted {value : Value} (distinct : value.Distinct) (finite : value.IsFinite) :
    Value.ofJson value.toJson.sorted = value.sorted := by
  rw [Value.ofJson_sorted _ (Value.toJson_distinct _ distinct), Value.ofJson_toJson _ distinct,
    (Value.carried_eq_iff value).mpr finite]

theorem isText_sorted (text? : Option String) :
    IsText text? ((text?.map Json.string).map Json.sorted) := by
  cases text? with
  | none => exact .inl rfl
  | some text => rfl

theorem isPayload_sorted (checked : event.Checked) (finite : event.IsFinite) :
    IsPayload (event.artifactDiff.map Value.sorted)
      ((event.artifactDiff.map Value.toJson).map Json.sorted) := by
  cases held : event.artifactDiff with
  | none => exact .inl rfl
  | some value =>
      obtain ⟨distinct, notNull⟩ := checked.difference value held
      have bounded := finite.difference value held
      exact ⟨value.toJson.sorted, rfl,
        fun null => Value.toJson_ne_null bounded notNull (Json.eq_of_sorted_eq_null null),
        (ofJson_toJson_sorted distinct bounded).symm⟩

def reread (event : LedgerEvent) : LedgerEvent :=
  { event.sorted with time := Decimal.toInt64 (Float.ofInt event.time.toInt) }

theorem reread_isMadeOf (checked : event.Checked) (finite : event.IsFinite) :
    event.reread.IsMadeOf event.toJson.sorted := by
  have found : ∀ name, event.toJson.sorted.get? name =
      ((Fields.get? name event.table).join).map Json.sorted := fun name => by
    rw [Json.get?_sorted (toJson_distinct checked), toJson, get?_toFields]
  obtain ⟨whole, value, written⟩ := Json.ofInt64_whole event.time
  have time : (Json.ofInt event.time.toInt).sorted = .number (.integer whole) := by
    rw [written, Json.sorted]
  exact {
    time := ⟨.integer whole, (found "ts").trans (congrArg some time), by
      rw [Number.toFloat, value]
      rfl⟩
    url := found "url"
    title := found "title"
    selection := found "selection" ▸ isText_sorted event.selection
    goalState := ⟨event.goalState.toJson.sorted, found "goalState",
      (ofJson_toJson_sorted checked.goalState finite.goalState).symm⟩
    action := found "action" ▸ isText_sorted event.action
    difference := found "artifactDiff" ▸ isPayload_sorted checked finite }

theorem ofJson_toJson (checked : event.Checked) (finite : event.IsFinite) :
    LedgerEvent.ofJson event.toJson.sorted = .ok event.reread :=
  ofJson_eq_ok_iff.mpr (reread_isMadeOf checked finite)

theorem reread_alike (event : LedgerEvent) :
    event.reread.Alike { event with time := event.reread.time } := by
  have same := event.sorted_sorted
  simp only [sorted, LedgerEvent.mk.injEq, true_and] at same
  simp only [Alike, reread, sorted, same]

theorem reread_alike_iff (event : LedgerEvent) :
    event.reread.Alike event ↔ event.reread.time = event.time := by
  constructor
  · exact Alike.time_eq
  · intro same
    have alike := event.reread_alike
    rwa [same] at alike

end LedgerEvent

namespace Ledger

theorem append_mem_list_iff (ledger : Ledger) (event : LedgerEvent) (since : Int64) :
    (ledger.append event).1 ∈ (ledger.append event).2.list ⟨none, some since⟩ ↔
      since ≤ event.time := by
  simp [Ledger.append, Ledger.list, ListOptions.cut, ListOptions.admits]

theorem appendJson_toJson {event : LedgerEvent} (checked : event.Checked)
    (finite : event.IsFinite) (ledger : Ledger) :
    ledger.appendJson event.toJson.sorted = .ok (ledger.append event.reread) := by
  rw [Ledger.appendJson, LedgerEvent.ofJson_toJson checked finite]
  rfl

/-- An event in its JSON form is accepted, and taken for the same event as long as a float holds its
time. Other times are moved to the nearest float. -/
theorem raw_agrees {event : LedgerEvent} (checked : event.Checked) (finite : event.IsFinite)
    (ledger : Ledger) :
    ∃ read, LedgerEvent.ofJson event.toJson.sorted = .ok read ∧
      read.Alike { event with time := read.time } ∧
      (∃ near : ℤ, (near : ℚ) = Decimal.rounded event.time.toInt ∧
        read.time.toInt = max (-0x8000000000000000) (min 0x7fffffffffffffff near)) ∧
      (read.Alike event ↔ Decimal.IsHeld event.time.toInt ∨ event.time = Int64.maxValue) ∧
      ledger.appendJson event.toJson.sorted = .ok (ledger.append read) ∧
      (ledger.append read).1.seq = (ledger.append event).1.seq ∧
      (ledger.append event).1 ∈ (ledger.append event).2.list ⟨none, some event.time⟩ ∧
      ((ledger.append read).1 ∈ (ledger.append read).2.list ⟨none, some event.time⟩ ↔
        event.time ≤ read.time) := by
  have least := event.time.le_toInt
  have greatest := event.time.toInt_lt
  obtain ⟨near, rounded, found⟩ := @Decimal.rational?_ofInt_rounded event.time.toInt (by omega)
  refine ⟨event.reread, LedgerEvent.ofJson_toJson checked finite, event.reread_alike,
    ⟨near, rounded, Decimal.toInt64_eq found⟩, ?_, appendJson_toJson checked finite ledger, rfl,
    (append_mem_list_iff ledger event event.time).mpr Int64.le_rfl,
    append_mem_list_iff ledger event.reread event.time⟩
  rw [event.reread_alike_iff]
  exact Decimal.toInt64_ofInt_eq_iff event.time

def sampleEarly : LedgerEvent :=
  ⟨Int64.minValue, "https://a.test", "two\nlines", none,
    .map [("b", .list [.int 1, .float 0.5]), ("a", .null)], some "save", some (.map [])⟩

theorem raw_agrees_of_sampleEarly :
    sampleEarly.Checked ∧ sampleEarly.IsFinite ∧
      ∃ read, LedgerEvent.ofJson sampleEarly.toJson.sorted = .ok read ∧ read.Alike sampleEarly ∧
        empty.appendJson sampleEarly.toJson.sorted = .ok (empty.append read) ∧
        (empty.append sampleEarly).1 ∈
          (empty.append sampleEarly).2.list ⟨none, some Int64.minValue⟩ ∧
        (empty.append read).1 ∈ (empty.append read).2.list ⟨none, some Int64.minValue⟩ := by
  have checked : sampleEarly.Checked := by
    refine ⟨by simp [sampleEarly, Value.Distinct, Value.DistinctItems, Value.DistinctFields,
      Fields.keys], fun value held => ?_⟩
    cases held
    simp [Value.Distinct, Value.DistinctFields, Fields.keys]
  have finite : sampleEarly.IsFinite := by
    have half : (0.5 : Float).isFinite = true := by decide +kernel
    refine ⟨⟨⟨trivial, half, trivial⟩, trivial, trivial⟩, fun value held => ?_⟩
    cases held
    trivial
  have held : Decimal.IsHeld sampleEarly.time.toInt := ⟨-1, 63, by decide, by decide⟩
  obtain ⟨read, accepted, -, -, exact, appended, -, direct, listed⟩ :=
    raw_agrees checked finite empty
  have alike := exact.mpr (.inl held)
  exact ⟨checked, finite, read, accepted, alike, appended, direct,
    listed.mpr (alike.time_eq ▸ Int64.le_rfl)⟩

def sampleBetween : LedgerEvent :=
  .plain 9007199254740993 "u" "t" .null

theorem raw_moves_sampleBetween :
    sampleBetween.Checked ∧ sampleBetween.IsFinite ∧
      ∃ read, LedgerEvent.ofJson sampleBetween.toJson.sorted = .ok read ∧
        read.time = 9007199254740992 ∧ ¬read.Alike sampleBetween ∧
        empty.appendJson sampleBetween.toJson.sorted = .ok (empty.append read) ∧
        (empty.append read).1 ∉ (empty.append read).2.list ⟨none, some sampleBetween.time⟩ := by
  have checked : sampleBetween.Checked := ⟨trivial, nofun⟩
  have finite : sampleBetween.IsFinite := ⟨trivial, nofun⟩
  have moved : sampleBetween.reread.time = 9007199254740992 := by
    decide +kernel
  refine ⟨checked, finite, sampleBetween.reread, LedgerEvent.ofJson_toJson checked finite, moved,
    ?_, appendJson_toJson checked finite empty, ?_⟩
  · rw [LedgerEvent.reread_alike_iff, moved]
    decide
  · rw [append_mem_list_iff, moved]
    decide

end Ledger

end Authoring
