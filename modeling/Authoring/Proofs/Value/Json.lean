import Mathlib
import Authoring.Value.Decoder
import Authoring.Proofs.Json.Compact
import Authoring.Proofs.Json.Distinct

/-! Values and their JSON form. Both readers make the same of a document, and of the form of a value
they make the value again, except that a float without a JSON form has become null. -/

namespace Authoring.Value

/-! The two readers -/

theorem ofNumber_of_intOf? (number : Number) :
    (intOf? (.number number)).getD (.float number.toFloat) = ofNumber number := by
  cases number with
  | float exact => rfl
  | integer whole =>
      have range := whole.inRange
      by_cases small : whole.value < 0x8000000000000000
      · have fits : -0x8000000000000000 ≤ whole.value ∧ whole.value ≤ 0x7fffffffffffffff := by
          omega
        simp [intOf?, ofNumber, small, fits]
      · have wide : ¬(-0x8000000000000000 ≤ whole.value ∧ whole.value ≤ 0x7fffffffffffffff) := by
          omega
        simp [intOf?, ofNumber, small, wide, Number.toFloat]

mutual
theorem attempt_eq_ofJson : (document : Json) → attempt document = some (ofJson document)
  | .null => rfl
  | .bool _ => rfl
  | .number number => by
      have read := ofNumber_of_intOf? number
      rw [ofJson, ← read]
      cases found : intOf? (.number number) <;>
        simp [attempt, nullOf?, boolOf?, found, floatOf?]
  | .string _ => rfl
  | .array items => by
      rw [attempt, attemptItems_eq_ofItems items]
      rfl
  | .object fields => by
      rw [attempt, attemptFields_eq_ofFields fields]
      rfl

theorem attemptItems_eq_ofItems : (items : List Json) → attemptItems items = some (ofItems items)
  | [] => rfl
  | item :: rest => by
      rw [attemptItems, attempt_eq_ofJson item, attemptItems_eq_ofItems rest]
      rfl

theorem attemptFields_eq_ofFields : (fields : List (String × Json)) →
    attemptFields fields = some (ofFields fields)
  | [] => rfl
  | (name, value) :: rest => by
      rw [attemptFields, attempt_eq_ofJson value, attemptFields_eq_ofFields rest]
      rfl
end

theorem eq_null_of_ofJson {document : Json} (null : ofJson document = .null) : document = .null := by
  cases document with
  | null => rfl
  | number number =>
      rw [ofJson] at null
      unfold ofNumber at null
      split at null
      · split at null <;> cases null
      · cases null
  | bool | string | array | object => cases null

theorem ofFields_eq_map (fields : List (String × Json)) :
    ofFields fields = fields.map fun field => (field.1, ofJson field.2) := by
  induction fields with
  | nil => rfl
  | cons field rest ih => rw [ofFields, ih, List.map_cons]

theorem toFields_eq_map (fields : List (String × Value)) :
    toFields fields = fields.map fun field => (field.1, field.2.toJson) := by
  induction fields with
  | nil => rfl
  | cons field rest ih => rw [toFields, ih, List.map_cons]

/-! Maps in order -/

mutual
def sorted : Value → Value
  | .list items => .list (sortedItems items)
  | .map fields => .map (Fields.ordered (sortedFields fields))
  | .null => .null
  | .bool value => .bool value
  | .int value => .int value
  | .float value => .float value
  | .string value => .string value

def sortedItems : List Value → List Value
  | [] => []
  | item :: rest => item.sorted :: sortedItems rest

def sortedFields : List (String × Value) → List (String × Value)
  | [] => []
  | (name, value) :: rest => (name, value.sorted) :: sortedFields rest
end

theorem sortedFields_eq_map (fields : List (String × Value)) :
    sortedFields fields = fields.map fun field => (field.1, field.2.sorted) := by
  induction fields with
  | nil => rfl
  | cons field rest ih => rw [sortedFields, ih, List.map_cons]

mutual
theorem sorted_sorted : (value : Value) → value.sorted.sorted = value.sorted
  | .null => rfl
  | .bool _ => rfl
  | .int _ => rfl
  | .float _ => rfl
  | .string _ => rfl
  | .list items => by rw [sorted, sorted, sortedItems_sortedItems items]
  | .map fields => by
      have moved := Fields.ordered_map sorted (sortedFields fields)
      rw [← sortedFields_eq_map, ← sortedFields_eq_map, sortedFields_sortedFields fields] at moved
      rw [sorted, sorted, ← moved, (Fields.ordered_ascending _).ordered_eq]

theorem sortedItems_sortedItems : (items : List Value) →
    sortedItems (sortedItems items) = sortedItems items
  | [] => rfl
  | item :: rest => by
      rw [sortedItems, sortedItems, sorted_sorted item, sortedItems_sortedItems rest]

theorem sortedFields_sortedFields : (fields : List (String × Value)) →
    sortedFields (sortedFields fields) = sortedFields fields
  | [] => rfl
  | (name, value) :: rest => by
      rw [sortedFields, sortedFields, sorted_sorted value, sortedFields_sortedFields rest]
end

mutual
theorem ofJson_sorted : (document : Json) → document.Distinct →
    ofJson document.sorted = (ofJson document).sorted
  | .null, _ => rfl
  | .bool _, _ => rfl
  | .number (.float _), _ => rfl
  | .number (.integer whole), _ => by
      simp only [Json.sorted, ofJson, ofNumber]
      split <;> rfl
  | .string _, _ => rfl
  | .array items, distinct => by
      rw [Json.sorted, ofJson, ofJson, sorted, ofItems_sortedItems items distinct]
  | .object fields, distinct => by
      have inside := (Json.distinct_object_iff.mp distinct).1
      have keys : (Fields.keys (ofFields fields)).Nodup := by
        rwa [ofFields_eq_map, Fields.keys, List.map_map]
      have moved := Fields.ordered_map ofJson (Json.sortedFields fields)
      rw [← ofFields_eq_map, ← ofFields_eq_map, ofFields_sortedFields fields distinct.2] at moved
      rw [Json.sorted, ofJson, ofJson, sorted, Fields.collect_eq keys, ← moved,
        Fields.collect_eq (Fields.ordered_ascending _).distinct]

theorem ofItems_sortedItems : (items : List Json) → Json.DistinctItems items →
    ofItems (Json.sortedItems items) = sortedItems (ofItems items)
  | [], _ => rfl
  | item :: rest, distinct => by
      rw [Json.sortedItems, ofItems, ofItems, sortedItems, ofJson_sorted item distinct.1,
        ofItems_sortedItems rest distinct.2]

theorem ofFields_sortedFields : (fields : List (String × Json)) → Json.DistinctFields fields →
    ofFields (Json.sortedFields fields) = sortedFields (ofFields fields)
  | [], _ => rfl
  | (name, value) :: rest, distinct => by
      rw [Json.sortedFields, ofFields, ofFields, sortedFields, ofJson_sorted value distinct.1,
        ofFields_sortedFields rest distinct.2]
end

/-! What JSON carries of a value -/

mutual
def Distinct : Value → Prop
  | .list items => DistinctItems items
  | .map fields => (Fields.keys fields).Nodup ∧ DistinctFields fields
  | _ => True

def DistinctItems : List Value → Prop
  | [] => True
  | item :: rest => item.Distinct ∧ DistinctItems rest

def DistinctFields : List (String × Value) → Prop
  | [] => True
  | (_, value) :: rest => value.Distinct ∧ DistinctFields rest
end

theorem distinctFields_iff {fields : List (String × Value)} :
    DistinctFields fields ↔ ∀ field ∈ fields, field.2.Distinct := by
  induction fields with
  | nil => simp [DistinctFields]
  | cons field rest ih => simp [DistinctFields, ih]

mutual
theorem ofJson_distinct : (document : Json) → (ofJson document).Distinct
  | .null => trivial
  | .bool _ => trivial
  | .number (.float _) => trivial
  | .number (.integer whole) => by
      simp only [ofJson, ofNumber]
      split <;> trivial
  | .string _ => trivial
  | .array items => ofItems_distinct items
  | .object fields => by
      refine ⟨Fields.collect_distinct _, distinctFields_iff.mpr fun field member => ?_⟩
      exact ofFields_distinct fields field (Fields.mem_of_mem_collect member)

theorem ofItems_distinct : (items : List Json) → DistinctItems (ofItems items)
  | [] => trivial
  | item :: rest => ⟨ofJson_distinct item, ofItems_distinct rest⟩

theorem ofFields_distinct : (fields : List (String × Json)) →
    ∀ field ∈ ofFields fields, field.2.Distinct
  | [] => nofun
  | (_, value) :: rest => by
      rw [ofFields, List.forall_mem_cons]
      exact ⟨ofJson_distinct value, ofFields_distinct rest⟩
end

mutual
def carried : Value → Value
  | .float value => if value.isFinite then .float value else .null
  | .list items => .list (carriedItems items)
  | .map fields => .map (carriedFields fields)
  | .null => .null
  | .bool value => .bool value
  | .int value => .int value
  | .string value => .string value

def carriedItems : List Value → List Value
  | [] => []
  | item :: rest => item.carried :: carriedItems rest

def carriedFields : List (String × Value) → List (String × Value)
  | [] => []
  | (name, value) :: rest => (name, value.carried) :: carriedFields rest
end

theorem carriedFields_eq_map (fields : List (String × Value)) :
    carriedFields fields = fields.map fun field => (field.1, field.2.carried) := by
  induction fields with
  | nil => rfl
  | cons field rest ih => rw [carriedFields, ih, List.map_cons]

mutual
def IsFinite : Value → Prop
  | .float value => value.isFinite = true
  | .list items => FiniteItems items
  | .map fields => FiniteFields fields
  | _ => True

def FiniteItems : List Value → Prop
  | [] => True
  | item :: rest => item.IsFinite ∧ FiniteItems rest

def FiniteFields : List (String × Value) → Prop
  | [] => True
  | (_, value) :: rest => value.IsFinite ∧ FiniteFields rest
end

theorem finiteFields_iff {fields : List (String × Value)} :
    FiniteFields fields ↔ ∀ field ∈ fields, field.2.IsFinite := by
  induction fields with
  | nil => simp [FiniteFields]
  | cons field rest ih => simp [FiniteFields, ih]

mutual
theorem carried_eq_iff : (value : Value) → (value.carried = value ↔ value.IsFinite)
  | .null => by simp [carried, IsFinite]
  | .bool _ => by simp [carried, IsFinite]
  | .int _ => by simp [carried, IsFinite]
  | .float value => by
      by_cases finite : value.isFinite = true
      · simp [carried, IsFinite, finite]
      · simp [carried, IsFinite, finite]
  | .string _ => by simp [carried, IsFinite]
  | .list items => by
      rw [carried, list.injEq, IsFinite, carriedItems_eq_iff items]
  | .map fields => by
      rw [carried, map.injEq, IsFinite, carriedFields_eq_iff fields]

theorem carriedItems_eq_iff : (items : List Value) →
    (carriedItems items = items ↔ FiniteItems items)
  | [] => by simp [carriedItems, FiniteItems]
  | item :: rest => by
      rw [carriedItems, List.cons.injEq, FiniteItems, carried_eq_iff item,
        carriedItems_eq_iff rest]

theorem carriedFields_eq_iff : (fields : List (String × Value)) →
    (carriedFields fields = fields ↔ FiniteFields fields)
  | [] => by simp [carriedFields, FiniteFields]
  | (name, value) :: rest => by
      rw [carriedFields, List.cons.injEq, Prod.mk.injEq, FiniteFields, carried_eq_iff value,
        carriedFields_eq_iff rest]
      simp
end

theorem get?_sortedFields (name : String) (fields : Fields Value) :
    Fields.get? name (sortedFields fields) = (Fields.get? name fields).map sorted := by
  rw [sortedFields_eq_map]
  exact Fields.get?_map (fun _ value => sorted value) fields

theorem get?_carriedFields (name : String) (fields : Fields Value) :
    Fields.get? name (carriedFields fields) = (Fields.get? name fields).map carried := by
  rw [carriedFields_eq_map]
  exact Fields.get?_map (fun _ value => carried value) fields

theorem keys_sortedFields (fields : Fields Value) :
    Fields.keys (sortedFields fields) = Fields.keys fields := by
  rw [sortedFields_eq_map, Fields.keys, List.map_map]
  rfl

theorem keys_carriedFields (fields : Fields Value) :
    Fields.keys (carriedFields fields) = Fields.keys fields := by
  rw [carriedFields_eq_map, Fields.keys, List.map_map]
  rfl

mutual
theorem isFinite_of_carried : (value : Value) → value.Distinct →
    value.carried.sorted = value.sorted → value.IsFinite
  | .null, _, _ => trivial
  | .bool _, _, _ => trivial
  | .int _, _, _ => trivial
  | .float value, _, alike => by
      by_contra infinite
      simp [carried, sorted, show ¬value.isFinite = true from infinite] at alike
  | .string _, _, _ => trivial
  | .list items, distinct, alike => by
      rw [carried, sorted, sorted, list.injEq] at alike
      exact finiteItems_of_carried items distinct alike
  | .map fields, distinct, alike => by
      rw [carried, sorted, sorted, map.injEq] at alike
      apply finiteFields_of_carried fields distinct.2
      intro field member
      have found := Fields.get?_of_mem distinct.1 member
      have same := congrArg (Fields.get? field.1) alike
      rw [Fields.get?_ordered (by rw [keys_sortedFields, keys_carriedFields]; exact distinct.1),
        Fields.get?_ordered (by rw [keys_sortedFields]; exact distinct.1), get?_sortedFields,
        get?_sortedFields, get?_carriedFields, found] at same
      exact Option.some.inj same

theorem finiteItems_of_carried : (items : List Value) → DistinctItems items →
    sortedItems (carriedItems items) = sortedItems items → FiniteItems items
  | [], _, _ => trivial
  | item :: rest, distinct, alike => by
      rw [carriedItems, sortedItems, sortedItems, List.cons.injEq] at alike
      exact ⟨isFinite_of_carried item distinct.1 alike.1,
        finiteItems_of_carried rest distinct.2 alike.2⟩

theorem finiteFields_of_carried : (fields : List (String × Value)) → DistinctFields fields →
    (∀ field ∈ fields, field.2.carried.sorted = field.2.sorted) → FiniteFields fields
  | [], _, _ => trivial
  | (name, value) :: rest, distinct, alike =>
      ⟨isFinite_of_carried value distinct.1 (alike (name, value) List.mem_cons_self),
        finiteFields_of_carried rest distinct.2 fun field member =>
          alike field (List.mem_cons_of_mem _ member)⟩
end

theorem ofJson_ofInt (value : Int64) : ofJson (.ofInt value.toInt) = .int value := by
  have least := value.le_toInt
  have greatest := value.toInt_lt
  have inRange : -0x8000000000000000 ≤ value.toInt ∧ value.toInt < 0x10000000000000000 := by
    omega
  have small : value.toInt < 0x8000000000000000 := greatest
  simp [Json.ofInt, WideInt.ofInt?, inRange, ofJson, ofNumber, small]

theorem toJson_ne_null {value : Value} (finite : value.IsFinite) (notNull : value ≠ .null) :
    value.toJson ≠ .null := by
  intro null
  cases value with
  | null => exact notNull rfl
  | int value =>
      have read := ofJson_ofInt value
      rw [show Json.ofInt value.toInt = .null from null] at read
      cases read
  | float value =>
      have held : value.isFinite = true := finite
      simp [toJson, Json.ofFloat, Number.ofFloat?, held] at null
  | bool | string | list | map => cases null

mutual
theorem ofJson_toJson : (value : Value) → value.Distinct → ofJson value.toJson = value.carried
  | .null, _ => rfl
  | .bool _, _ => rfl
  | .int value, _ => ofJson_ofInt value
  | .float value, _ => by
      by_cases finite : value.isFinite = true
      · simp [toJson, Json.ofFloat, Number.ofFloat?, finite, ofJson, ofNumber, carried]
      · simp [toJson, Json.ofFloat, Number.ofFloat?, finite, ofJson, carried]
  | .string _, _ => rfl
  | .list items, distinct => by
      rw [toJson, ofJson, carried, ofItems_toItems items distinct]
  | .map fields, distinct => by
      have keys : (Fields.keys (carriedFields fields)).Nodup := by
        rw [keys_carriedFields]
        exact distinct.1
      rw [toJson, ofJson, carried, ofFields_toFields fields distinct.2, Fields.collect_eq keys]

theorem ofItems_toItems : (items : List Value) → DistinctItems items →
    ofItems (toItems items) = carriedItems items
  | [], _ => rfl
  | item :: rest, distinct => by
      rw [toItems, ofItems, carriedItems, ofJson_toJson item distinct.1,
        ofItems_toItems rest distinct.2]

theorem ofFields_toFields : (fields : List (String × Value)) → DistinctFields fields →
    ofFields (toFields fields) = carriedFields fields
  | [], _ => rfl
  | (name, value) :: rest, distinct => by
      rw [toFields, ofFields, carriedFields, ofJson_toJson value distinct.1,
        ofFields_toFields rest distinct.2]
end

mutual
theorem toJson_distinct : (value : Value) → value.Distinct → value.toJson.Distinct
  | .null, _ => trivial
  | .bool _, _ => trivial
  | .int value, _ => Json.ofInt_distinct value.toInt
  | .float value, _ => Json.ofFloat_distinct value
  | .string _, _ => trivial
  | .list items, distinct => toItems_distinct items distinct
  | .map fields, distinct => by
      refine ⟨?_, toFields_distinct fields distinct.2⟩
      rw [toFields_eq_map, Fields.keys, List.map_map]
      exact distinct.1

theorem toItems_distinct : (items : List Value) → DistinctItems items →
    Json.DistinctItems (toItems items)
  | [], _ => trivial
  | item :: rest, distinct =>
      ⟨toJson_distinct item distinct.1, toItems_distinct rest distinct.2⟩

theorem toFields_distinct : (fields : List (String × Value)) → DistinctFields fields →
    Json.DistinctFields (toFields fields)
  | [], _ => trivial
  | (_, value) :: rest, distinct =>
      ⟨toJson_distinct value distinct.1, toFields_distinct rest distinct.2⟩
end

/-! Values without floats -/

mutual
def Floatless : Value → Prop
  | .float _ => False
  | .list items => FloatlessItems items
  | .map fields => FloatlessFields fields
  | _ => True

def FloatlessItems : List Value → Prop
  | [] => True
  | item :: rest => item.Floatless ∧ FloatlessItems rest

def FloatlessFields : List (String × Value) → Prop
  | [] => True
  | (_, value) :: rest => value.Floatless ∧ FloatlessFields rest
end

mutual
theorem Floatless.isFinite : {value : Value} → value.Floatless → value.IsFinite
  | .null, _ => trivial
  | .bool _, _ => trivial
  | .int _, _ => trivial
  | .string _, _ => trivial
  | .list _, whole => finiteItems_of_floatless whole
  | .map _, whole => finiteFields_of_floatless whole

theorem finiteItems_of_floatless : {items : List Value} → FloatlessItems items → FiniteItems items
  | [], _ => trivial
  | _ :: _, whole => ⟨whole.1.isFinite, finiteItems_of_floatless whole.2⟩

theorem finiteFields_of_floatless : {fields : List (String × Value)} → FloatlessFields fields →
    FiniteFields fields
  | [], _ => trivial
  | _ :: _, whole => ⟨whole.1.isFinite, finiteFields_of_floatless whole.2⟩
end

mutual
theorem Floatless.toJson : {value : Value} → value.Floatless → value.toJson.Floatless
  | .null, _ => trivial
  | .bool _, _ => trivial
  | .int value, _ => by
      obtain ⟨whole, -, written⟩ := Json.ofInt64_whole value
      rw [Value.toJson, written]
      trivial
  | .string _, _ => trivial
  | .list _, whole => toItems_floatless whole
  | .map _, whole => toFields_floatless whole

theorem toItems_floatless : {items : List Value} → FloatlessItems items →
    Json.FloatlessItems (toItems items)
  | [], _ => trivial
  | _ :: _, whole => ⟨whole.1.toJson, toItems_floatless whole.2⟩

theorem toFields_floatless : {fields : List (String × Value)} → FloatlessFields fields →
    Json.FloatlessFields (toFields fields)
  | [], _ => trivial
  | _ :: _, whole => ⟨whole.1.toJson, toFields_floatless whole.2⟩
end

end Authoring.Value
