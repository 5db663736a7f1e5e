import Mathlib
import Authoring.Proofs.Decimal.Words
import Authoring.Proofs.Value.Readers

/-! The JSON form of the value that was read from a document. It is the document again, save that an
integer without a signed word has become the nearest float. -/

namespace Authoring

theorem WideInt.isFinite (whole : WideInt) : (Float.ofInt whole.value).isFinite = true := by
  have range := whole.inRange
  obtain ⟨_, -, found⟩ := @Decimal.rational?_ofInt_rounded whole.value (by omega)
  exact Decimal.isFinite_of_rational found

def Number.narrowed : Number → Number
  | .integer whole =>
      if whole.value < 0x8000000000000000 then .integer whole
      else .float ⟨Float.ofInt whole.value, whole.isFinite⟩
  | .float exact => .float exact

def Number.IsNarrow : Number → Prop
  | .integer whole => whole.value < 0x8000000000000000
  | .float _ => True

theorem Number.narrowed_eq_iff (number : Number) : number.narrowed = number ↔ number.IsNarrow := by
  cases number with
  | float exact => simp [narrowed, IsNarrow]
  | integer whole => simp [narrowed, IsNarrow]

namespace Json

mutual
def narrowed : Json → Json
  | .number value => .number value.narrowed
  | .array items => .array (narrowedItems items)
  | .object fields => .object (narrowedFields fields)
  | .null => .null
  | .bool value => .bool value
  | .string value => .string value

def narrowedItems : List Json → List Json
  | [] => []
  | item :: rest => item.narrowed :: narrowedItems rest

def narrowedFields : List (String × Json) → List (String × Json)
  | [] => []
  | (name, value) :: rest => (name, value.narrowed) :: narrowedFields rest
end

mutual
def IsNarrow : Json → Prop
  | .number value => value.IsNarrow
  | .array items => NarrowItems items
  | .object fields => NarrowFields fields
  | _ => True

def NarrowItems : List Json → Prop
  | [] => True
  | item :: rest => item.IsNarrow ∧ NarrowItems rest

def NarrowFields : List (String × Json) → Prop
  | [] => True
  | (_, value) :: rest => value.IsNarrow ∧ NarrowFields rest
end

mutual
theorem narrowed_eq_iff : (document : Json) → (document.narrowed = document ↔ document.IsNarrow)
  | .null => by simp [narrowed, IsNarrow]
  | .bool _ => by simp [narrowed, IsNarrow]
  | .string _ => by simp [narrowed, IsNarrow]
  | .number value => by rw [narrowed, number.injEq, IsNarrow, value.narrowed_eq_iff]
  | .array items => by rw [narrowed, array.injEq, IsNarrow, narrowedItems_eq_iff items]
  | .object fields => by rw [narrowed, object.injEq, IsNarrow, narrowedFields_eq_iff fields]

theorem narrowedItems_eq_iff : (items : List Json) → (narrowedItems items = items ↔ NarrowItems items)
  | [] => by simp [narrowedItems, NarrowItems]
  | item :: rest => by
      rw [narrowedItems, List.cons.injEq, NarrowItems, narrowed_eq_iff item,
        narrowedItems_eq_iff rest]

theorem narrowedFields_eq_iff : (fields : List (String × Json)) →
    (narrowedFields fields = fields ↔ NarrowFields fields)
  | [] => by simp [narrowedFields, NarrowFields]
  | (name, value) :: rest => by
      rw [narrowedFields, List.cons.injEq, Prod.mk.injEq, NarrowFields, narrowed_eq_iff value,
        narrowedFields_eq_iff rest]
      simp
end

end Json

namespace Value

theorem toJson_ofNumber (number : Number) : (ofNumber number).toJson = .number number.narrowed := by
  cases number with
  | float exact => exact Json.ofFloat_value exact
  | integer whole =>
      by_cases small : whole.value < 0x8000000000000000
      · rw [ofNumber, Number.narrowed, if_pos small, if_pos small, toJson,
          Int64.toInt_ofInt_of_le whole.inRange.1 small, Json.ofInt_value]
      · rw [ofNumber, Number.narrowed, if_neg small, if_neg small, toJson]
        exact Json.ofFloat_value ⟨_, whole.isFinite⟩

mutual
theorem toJson_ofJson : (document : Json) → document.Distinct →
    (ofJson document).toJson = document.narrowed
  | .null, _ => rfl
  | .bool _, _ => rfl
  | .string _, _ => rfl
  | .number number, _ => toJson_ofNumber number
  | .array items, distinct => by
      rw [ofJson, toJson, Json.narrowed, toItems_ofItems items distinct]
  | .object fields, distinct => by
      rw [ofJson_object distinct.1, toJson, Json.narrowed, toFields_ofFields fields distinct.2]

theorem toItems_ofItems : (items : List Json) → Json.DistinctItems items →
    toItems (ofItems items) = Json.narrowedItems items
  | [], _ => rfl
  | item :: rest, distinct => by
      rw [ofItems, toItems, Json.narrowedItems, toJson_ofJson item distinct.1,
        toItems_ofItems rest distinct.2]

theorem toFields_ofFields : (fields : List (String × Json)) → Json.DistinctFields fields →
    toFields (ofFields fields) = Json.narrowedFields fields
  | [], _ => rfl
  | (name, value) :: rest, distinct => by
      rw [ofFields, toFields, Json.narrowedFields, toJson_ofJson value distinct.1,
        toFields_ofFields rest distinct.2]
end

end Value

end Authoring
