import Mathlib
import Authoring.Ledger.Store
import Authoring.Proofs.Ledger.Raw
import Authoring.Proofs.Value.Narrow

/-! What a ledger keeps of the payloads of raw events: all of them, save that integers too great for
a signed word have become floats. -/

namespace Authoring

structure Value.Keeps (value : Value) (document : Json) : Prop where
  narrowed : value.toJson = document.narrowed
  exact : value.toJson = document ↔ document.IsNarrow

theorem Value.ofJson_keeps {document : Json} (distinct : document.Distinct) :
    (Value.ofJson document).Keeps document where
  narrowed := Value.toJson_ofJson document distinct
  exact := by rw [Value.toJson_ofJson document distinct, document.narrowed_eq_iff]

namespace Ledger

theorem exists_of_appendJson {ledger next : Ledger} {raw : Json} {stored : StoredEvent}
    (accepted : ledger.appendJson raw = .ok (stored, next)) :
    stored.event.IsMadeOf raw ∧ next.events = ledger.events ++ [stored] := by
  obtain ⟨event, read, same⟩ := map_eq_ok_iff.mp accepted
  cases same
  exact ⟨LedgerEvent.ofJson_eq_ok_iff.mp read, rfl⟩

/-- Written as JSON again, a document is what it was, unless an integer in it is too great for a
signed word. Such an integer is the only thing that is lost. The same goes for each payload of a
raw event that is accepted. -/
theorem payloads_kept (ledger : Ledger) (raw : Json) (distinct : raw.Distinct) :
    (Value.ofJson raw).Keeps raw ∧
      ∀ stored next, ledger.appendJson raw = .ok (stored, next) →
        next.events = ledger.events ++ [stored] ∧
        (∃ goalState, raw.get? "goalState" = some goalState ∧
          stored.event.goalState.Keeps goalState) ∧
        ∀ difference, raw.get? "artifactDiff" = some difference → difference ≠ .null →
          ∃ value, stored.event.artifactDiff = some value ∧ value.Keeps difference := by
  refine ⟨Value.ofJson_keeps distinct, fun stored next accepted => ?_⟩
  obtain ⟨made, events⟩ := exists_of_appendJson accepted
  refine ⟨events, ?_, fun difference given notNull => ?_⟩
  · obtain ⟨goalState, found, read⟩ := made.goalState
    exact ⟨goalState, found, read ▸ Value.ofJson_keeps (distinct.get? found)⟩
  · have payload := made.difference
    rw [given] at payload
    exact ⟨_, payload.eq_some notNull, Value.ofJson_keeps (distinct.get? given)⟩

def greatest : Json :=
  .number (.integer .greatest)

theorem greatest_narrowed : greatest.narrowed = .ofFloat 18446744073709551616 := by
  have nearest : Float.ofInt WideInt.greatest.value = 18446744073709551616 := by decide +kernel
  have large : ¬WideInt.greatest.value < 0x8000000000000000 := by decide
  rw [← nearest, Json.ofFloat_value ⟨_, WideInt.greatest.isFinite⟩, greatest, Json.narrowed,
    Number.narrowed, if_neg large]

def sampleWide : Json :=
  .object [("ts", .number (.integer .least)), ("url", .string "u"), ("title", .string "t"),
    ("goalState", .array [.object [], greatest]),
    ("artifactDiff", .object [("b", .number (.integer .least)), ("a", .null)])]

theorem sampleWide_distinct : sampleWide.Distinct := by
  simp [sampleWide, greatest, Json.Distinct, Json.DistinctItems, Json.DistinctFields, Fields.keys]

theorem payloads_kept_of_sampleWide :
    sampleWide.Distinct ∧ (Value.ofJson sampleWide).Keeps sampleWide ∧
      ∃ stored next, empty.appendJson sampleWide = .ok (stored, next) ∧
        stored.event.goalState.toJson = .array [.object [], .ofFloat 18446744073709551616] ∧
        ∃ difference value, sampleWide.get? "artifactDiff" = some difference ∧
          stored.event.artifactDiff = some value ∧ value.toJson = difference := by
  obtain ⟨whole, appended⟩ := payloads_kept empty sampleWide sampleWide_distinct
  have accepted : ∃ stored next, empty.appendJson sampleWide = .ok (stored, next) := ⟨_, _, rfl⟩
  obtain ⟨stored, next, accepted⟩ := accepted
  obtain ⟨-, ⟨goalState, found, kept⟩, differences⟩ := appended stored next accepted
  obtain ⟨value, held, keeps⟩ := differences _ rfl nofun
  refine ⟨sampleWide_distinct, whole, stored, next, accepted, ?_, _, value, rfl, held,
    keeps.exact.mpr ?_⟩
  · cases found
    rw [kept.narrowed, Json.narrowed, Json.narrowedItems, Json.narrowedItems, greatest_narrowed]
    rfl
  · have narrow : (Json.number (.integer .least)).IsNarrow :=
      show WideInt.least.value < 0x8000000000000000 by decide
    exact ⟨narrow, trivial, trivial⟩

theorem payloads_changed_sampleWide :
    ∃ goalState stored next, sampleWide.get? "goalState" = some goalState ∧
      empty.appendJson sampleWide = .ok (stored, next) ∧
      stored.event.goalState.toJson ≠ goalState := by
  have found : sampleWide.get? "goalState" = some (.array [.object [], greatest]) := rfl
  have wide : ¬greatest.IsNarrow := Int.not_lt.mpr (by decide)
  refine ⟨.array [.object [], greatest], _, _, found, rfl, fun same => wide ?_⟩
  obtain ⟨-, narrow, -⟩ :=
    (Value.ofJson_keeps (sampleWide_distinct.get? found)).exact.mp same
  exact narrow

end Ledger

end Authoring
