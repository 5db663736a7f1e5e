import Mathlib
import Authoring.Json.Basic
import Authoring.Proofs.Fields

/-! Fields written from a table in which some of them have no value. -/

namespace Authoring

def present (table : List (String × Option Json)) : List (String × Json) :=
  table.filterMap fun field => field.2.map fun value => (field.1, value)

def nonEmptyArray (items : List Json) : Option Json :=
  if items.isEmpty then none else some (.array items)

theorem keys_present_sublist (table : List (String × Option Json)) :
    (Fields.keys (present table)).Sublist (Fields.keys table) := by
  induction table with
  | nil => exact List.Sublist.refl _
  | cons field rest ih =>
      obtain ⟨key, value?⟩ := field
      cases value? with
      | none => exact ih.cons key
      | some value => exact ih.cons_cons key

theorem get?_present {table : List (String × Option Json)} (distinct : (Fields.keys table).Nodup)
    (name : String) : Fields.get? name (present table) = (Fields.get? name table).join := by
  induction table with
  | nil => rfl
  | cons field rest ih =>
      obtain ⟨key, value?⟩ := field
      obtain ⟨fresh, laterDistinct⟩ := List.nodup_cons.mp distinct
      have tail := ih laterDistinct
      by_cases same : key = name
      · have absent : Fields.get? name rest = none := Fields.get?_eq_none_iff.mpr (same ▸ fresh)
        cases value? with
        | none =>
            rw [absent] at tail
            simpa [present, Fields.get?, same] using tail
        | some value => simp [present, Fields.get?, same]
      · cases value? with
        | none => simpa [present, Fields.get?, same] using tail
        | some value => simpa [present, Fields.get?, same] using tail

theorem optionalField_eq_present {α : Type} (name : String) (encode : α → Json)
    (value? : Option α) :
    optionalField name encode value? = present [(name, value?.map encode)] := by
  cases value? <;> rfl

theorem optionalList_eq_present {α : Type} (name : String) (encode : α → Json)
    (values : List α) :
    optionalList name encode values = present [(name, nonEmptyArray (values.map encode))] := by
  cases values <;> rfl

theorem present_append (left right : List (String × Option Json)) :
    present left ++ present right = present (left ++ right) :=
  List.filterMap_append.symm

theorem cons_present (name : String) (value : Json) (table : List (String × Option Json)) :
    (name, value) :: present table = present ((name, some value) :: table) :=
  rfl

end Authoring
