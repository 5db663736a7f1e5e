import Mathlib
import Authoring.Proofs.Contract.Accepts
import Authoring.Proofs.Json.Route

/-! Names that a contract never mentions. Contracts are closed, so such a name stands nowhere in a
document that the contract accepts. -/

namespace Authoring.Contract

mutual
def mentions (name : String) : Contract → Bool
  | .object fields _ => mentionsIn name fields
  | .array _ _ items => items.mentions name
  | .string _ => false
  | .integer _ _ => false
  | .const _ => false

def mentionsIn (name : String) : List (String × Presence × Contract) → Bool
  | [] => false
  | (key, _, contract) :: rest => key == name || contract.mentions name || mentionsIn name rest
end

variable {name : String} {fields : List (String × Presence × Contract)} {names : List String}
variable {document holder : Json}

theorem mentionsIn_eq_false_iff : mentionsIn name fields = false ↔
    ∀ field ∈ fields, field.1 ≠ name ∧ field.2.2.mentions name = false := by
  induction fields with
  | nil => simp [mentionsIn]
  | cons field rest ih =>
      obtain ⟨key, presence, contract⟩ := field
      simp [mentionsIn, ih, and_assoc]

theorem Accepts.listed {value : Json} (accepted : (Contract.object fields names).Accepts document)
    (found : document.get? name = some value) :
    ∃ presence contract, (name, presence, contract) ∈ fields ∧ contract.Accepts value := by
  obtain ⟨held, rfl, _, known, inside, _⟩ := accepts_object_iff.mp accepted
  obtain ⟨⟨key, presence, contract⟩, listed, rfl⟩ :=
    List.mem_map.mp (known name (Fields.mem_keys_of_get? found))
  exact ⟨presence, contract, listed, inside _ listed value found⟩

theorem get?_of_not_mentions {contract : Contract} (distinct : document.Distinct)
    (accepted : contract.Accepts document) (silent : contract.mentions name = false)
    (contains : document.Contains holder) : holder.get? name = none := by
  induction contains generalizing contract with
  | root document =>
      cases contract with
      | object fields names =>
          refine accepted.unlisted fun member => ?_
          obtain ⟨field, listed, same⟩ := List.mem_map.mp member
          exact (mentionsIn_eq_false_iff.mp silent field listed).1 same
      | array minItems maxItems items =>
          obtain ⟨items, rfl, _⟩ := accepts_array_iff.mp accepted
          rfl
      | string contract =>
          obtain ⟨text, rfl, _⟩ := accepts_string_iff.mp accepted
          rfl
      | integer minimum maximum =>
          cases document with
          | number number => rfl
          | null | bool | string | array | object => simp [Accepts, check] at accepted
      | const expected =>
          rw [accepts_const_iff.mp accepted]
          rfl
  | field member inside ih =>
      cases contract with
      | object fields names =>
          have found := Fields.get?_of_mem (Json.distinct_object_iff.mp distinct).1 member
          obtain ⟨presence, contract, listed, accepted⟩ := accepted.listed found
          exact ih (distinct.get? found) accepted (mentionsIn_eq_false_iff.mp silent _ listed).2
      | array | string | integer | const => simp [Accepts, check] at accepted
  | item member inside ih =>
      cases contract with
      | array minItems maxItems contract =>
          obtain ⟨items, same, _, _, each⟩ := accepts_array_iff.mp accepted
          cases same
          exact ih (Json.distinct_array_iff.mp distinct _ member) (each _ member) silent
      | object | string | integer | const => simp [Accepts, check] at accepted

theorem contains_cases (distinct : document.Distinct)
    (accepted : (Contract.object fields names).Accepts document)
    (contains : document.Contains holder) :
    holder = document ∨ ∃ key presence contract value, (key, presence, contract) ∈ fields ∧
      document.get? key = some value ∧ contract.Accepts value ∧ value.Contains holder := by
  obtain ⟨held, rfl, _⟩ := accepts_object_iff.mp accepted
  cases contains with
  | root => exact .inl rfl
  | field member inside =>
      have found := Fields.get?_of_mem (Json.distinct_object_iff.mp distinct).1 member
      obtain ⟨presence, contract, listed, accepted⟩ := Accepts.listed accepted found
      exact .inr ⟨_, presence, contract, _, listed, found, accepted, inside⟩

theorem contains_self (distinct : document.Distinct)
    (accepted : (Contract.object fields names).Accepts document)
    (silent : fields.all fun field => !field.2.2.mentions name)
    (contains : document.Contains holder) (has : holder.get? name ≠ none) : holder = document := by
  rcases contains_cases distinct accepted contains with same | inside
  · exact same
  · obtain ⟨key, presence, contract, value, listed, found, accepted, inside⟩ := inside
    have quiet : contract.mentions name = false := by
      simpa using List.all_eq_true.mp silent _ listed
    exact absurd (get?_of_not_mentions (distinct.get? found) accepted quiet inside) has

theorem contains_item (key : String) {minItems : Nat} {maxItems : Option Nat} {items : Contract}
    (distinct : document.Distinct) (accepted : (Contract.object fields names).Accepts document)
    (elsewhere : fields.all fun field => field.1 == key || !field.2.2.mentions name)
    (list : Fields.get? key fields = some (.required, .array minItems maxItems items))
    (contains : document.Contains holder) (has : holder.get? name ≠ none) :
    holder = document ∨ ∃ values value, document.get? key = some (.array values) ∧
      value ∈ values ∧ items.Accepts value ∧ value.Contains holder := by
  rcases contains_cases distinct accepted contains with same | inside
  · exact .inl same
  · obtain ⟨other, presence, contract, value, listed, found, otherAccepted, inside⟩ := inside
    have either := List.all_eq_true.mp elsewhere _ listed
    by_cases same : other = key
    · subst same
      obtain ⟨values, rfl, _, _, each⟩ := accepts_array_iff.mp (accepted.inside other list found)
      cases inside with
      | root => exact absurd rfl has
      | item member inside => exact .inr ⟨values, _, found, member, each _ member, inside⟩
    · have quiet : contract.mentions name = false := by simpa [same] using either
      exact absurd (get?_of_not_mentions (distinct.get? found) otherAccepted quiet inside) has

end Authoring.Contract
