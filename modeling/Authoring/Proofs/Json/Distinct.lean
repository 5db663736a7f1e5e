import Mathlib
import Authoring.Json.Reader
import Authoring.Proofs.Fields

/-! Documents whose objects have no name twice, as all documents that are read have none. Putting
the fields of such a document in order changes no value that can be looked up in it. -/

namespace Authoring.Json

mutual
def Distinct : Json → Prop
  | .array items => DistinctItems items
  | .object fields => (Fields.keys fields).Nodup ∧ DistinctFields fields
  | _ => True

def DistinctItems : List Json → Prop
  | [] => True
  | item :: rest => item.Distinct ∧ DistinctItems rest

def DistinctFields : List (String × Json) → Prop
  | [] => True
  | (_, value) :: rest => value.Distinct ∧ DistinctFields rest
end

theorem distinctItems_iff {items : List Json} :
    DistinctItems items ↔ ∀ item ∈ items, item.Distinct := by
  induction items with
  | nil => simp [DistinctItems]
  | cons item rest ih => simp [DistinctItems, ih]

theorem distinctFields_iff {fields : List (String × Json)} :
    DistinctFields fields ↔ ∀ field ∈ fields, field.2.Distinct := by
  induction fields with
  | nil => simp [DistinctFields]
  | cons field rest ih => simp [DistinctFields, ih]

theorem exists_object_of_get? {document value : Json} {name : String}
    (found : document.get? name = some value) :
    ∃ held, document = .object held ∧ Fields.get? name held = some value := by
  cases document with
  | object held => exact ⟨held, rfl, found⟩
  | null | bool | number | string | array => cases found

theorem distinct_array_iff {items : List Json} :
    (Json.array items).Distinct ↔ ∀ item ∈ items, item.Distinct := by
  rw [Distinct, distinctItems_iff]

theorem distinct_object_iff {fields : List (String × Json)} :
    (Json.object fields).Distinct ↔
      (Fields.keys fields).Nodup ∧ ∀ field ∈ fields, field.2.Distinct := by
  rw [Distinct, distinctFields_iff]

theorem Distinct.get? {document value : Json} {name : String} (distinct : document.Distinct)
    (found : document.get? name = some value) : value.Distinct := by
  cases document with
  | object fields =>
      exact (distinct_object_iff.mp distinct).2 _ (Fields.mem_of_get? found)
  | null | bool | number | string | array => simp [Json.get?, fields?] at found

theorem ofFloat_value (exact : FiniteFloat) : ofFloat exact.value = .number (.float exact) := by
  simp [ofFloat, Number.ofFloat?, exact.isFinite]

theorem ofFloat_distinct (value : Float) : (ofFloat value).Distinct := by
  rw [ofFloat]
  split <;> trivial

theorem ofInt_distinct (value : Int) : (ofInt value).Distinct := by
  rw [ofInt]
  split
  · trivial
  · exact ofFloat_distinct _

theorem ofNat_distinct (value : Nat) : (ofNat value).Distinct := by
  -- With a natural number in it, the goal would be evaluated.
  rw [ofNat]
  generalize (value : Int) = whole
  exact ofInt_distinct whole

theorem strings_distinct (texts : List String) : (strings texts).Distinct := by
  rw [strings, distinct_array_iff, List.forall_mem_map]
  exact fun _ _ => trivial

theorem sortedItems_eq_map (items : List Json) : sortedItems items = items.map sorted := by
  induction items with
  | nil => rfl
  | cons item rest ih => rw [sortedItems, ih, List.map_cons]

theorem sortedFields_eq_map (fields : List (String × Json)) :
    sortedFields fields = fields.map fun field => (field.1, field.2.sorted) := by
  induction fields with
  | nil => rfl
  | cons field rest ih => rw [sortedFields, ih, List.map_cons]

theorem keys_sortedFields (fields : List (String × Json)) :
    Fields.keys (sortedFields fields) = Fields.keys fields := by
  rw [sortedFields_eq_map, Fields.keys, List.map_map]
  rfl

theorem get?_sortedFields (name : String) (fields : List (String × Json)) :
    Fields.get? name (sortedFields fields) = (Fields.get? name fields).map sorted := by
  rw [sortedFields_eq_map]
  exact Fields.get?_map (fun _ value => sorted value) fields

theorem get?_sorted_object {fields : List (String × Json)} (distinct : (Fields.keys fields).Nodup)
    (name : String) :
    (Json.object fields).sorted.get? name = ((Json.object fields).get? name).map sorted := by
  rw [← keys_sortedFields] at distinct
  simp only [Json.get?, sorted, fields?, Option.bind_some]
  rw [Fields.get?_ordered distinct, get?_sortedFields]

theorem get?_sorted {document : Json} (distinct : document.Distinct) (name : String) :
    document.sorted.get? name = (document.get? name).map sorted := by
  cases document with
  | object fields => exact get?_sorted_object (distinct_object_iff.mp distinct).1 name
  | null | bool | number | string | array => simp [Json.get?, sorted, fields?]

mutual
theorem sorted_distinct : (document : Json) → document.sorted.Distinct
  | .null => trivial
  | .bool _ => trivial
  | .number _ => trivial
  | .string _ => trivial
  | .array items => by
      rw [sorted, Distinct]
      exact sortedItems_distinct items
  | .object fields => by
      rw [sorted, distinct_object_iff]
      refine ⟨(Fields.ordered_ascending _).distinct, fun field member => ?_⟩
      exact distinctFields_iff.mp (sortedFields_distinct fields) field
        (Fields.mem_of_mem_ordered member)

theorem sortedItems_distinct : (items : List Json) → DistinctItems (sortedItems items)
  | [] => trivial
  | item :: rest => ⟨sorted_distinct item, sortedItems_distinct rest⟩

theorem sortedFields_distinct :
    (fields : List (String × Json)) → DistinctFields (sortedFields fields)
  | [] => trivial
  | (_, value) :: rest => ⟨sorted_distinct value, sortedFields_distinct rest⟩
end

theorem ofText_distinct {text : String} {document : Json} (found : ofText text = .ok document) :
    document.Distinct := by
  simp only [ofText, bind, Except.bind] at found
  split at found
  · cases found
  · split at found
    · cases found
    · rw [← Except.ok.inj found]
      exact sorted_distinct _

mutual
theorem sorted_sorted : (document : Json) → document.sorted.sorted = document.sorted
  | .null => rfl
  | .bool _ => rfl
  | .number _ => rfl
  | .string _ => rfl
  | .array items => by rw [sorted, sorted, sortedItems_sortedItems items]
  | .object fields => by
      have moved := Fields.ordered_map sorted (sortedFields fields)
      rw [← sortedFields_eq_map, ← sortedFields_eq_map, sortedFields_sortedFields fields] at moved
      rw [sorted, sorted, ← moved, (Fields.ordered_ascending _).ordered_eq]

theorem sortedItems_sortedItems :
    (items : List Json) → sortedItems (sortedItems items) = sortedItems items
  | [] => rfl
  | item :: rest => by
      rw [sortedItems, sortedItems, sorted_sorted item, sortedItems_sortedItems rest]

theorem sortedFields_sortedFields :
    (fields : List (String × Json)) → sortedFields (sortedFields fields) = sortedFields fields
  | [] => rfl
  | (name, value) :: rest => by
      rw [sortedFields, sortedFields, sorted_sorted value, sortedFields_sortedFields rest]
end

variable {form document : Json}

theorem eq_of_sorted_eq_null (alike : form.sorted = .null) : form = .null := by
  cases form with
  | null => rfl
  | bool | number | string | array | object => simp [sorted] at alike

theorem eq_of_sorted_eq_string {text : String} (alike : form.sorted = .string text) :
    form = .string text := by
  cases form with
  | string => exact alike
  | null | bool | number | array | object => simp [sorted] at alike

theorem number?_sorted (document : Json) : document.sorted.number? = document.number? := by
  cases document <;> rfl

theorem sorted_eq_of_alike {left right : List (String × Json)}
    (leftDistinct : (Fields.keys left).Nodup) (rightDistinct : (Fields.keys right).Nodup)
    (alike : ∀ name, (Fields.get? name left).map sorted = (Fields.get? name right).map sorted) :
    (Json.object left).sorted = (Json.object right).sorted := by
  rw [sorted, sorted]
  congr 1
  apply Fields.ordered_eq_of_alike
  · rwa [keys_sortedFields]
  · rwa [keys_sortedFields]
  · intro name
    rw [get?_sortedFields, get?_sortedFields]
    exact alike name

end Authoring.Json
