import Mathlib
import Authoring.Json.Basic
import Authoring.Proofs.Fields

/-! Documents that are the same but for one value inside them. -/

namespace Authoring.Json

inductive InField (name : String) (inside : Json → Json → Prop) : Json → Json → Prop
  | intro {before after : Fields Json} {old new : Json} (first : name ∉ Fields.keys before)
      (changed : inside old new) :
      InField name inside (.object (before ++ (name, old) :: after))
        (.object (before ++ (name, new) :: after))

inductive InItem (position : Nat) (inside : Json → Json → Prop) : Json → Json → Prop
  | intro {before after : List Json} {old new : Json} (place : before.length = position)
      (changed : inside old new) :
      InItem position inside (.array (before ++ old :: after)) (.array (before ++ new :: after))

/-- The documents are the same but for the value that the segments lead to, in both of them. -/
def DiffersAt : List String → Json → Json → Prop
  | [], _, _ => True
  | segment :: rest, left, right =>
      InField segment (DiffersAt rest) left right ∨
        ∃ position, segment = toString position ∧ InItem position (DiffersAt rest) left right

variable {name : String} {inside : Json → Json → Prop} {left right : Json}

theorem InField.lookups (differ : InField name inside left right) :
    ∃ held changed old new, left = .object held ∧ right = .object changed ∧
      Fields.keys changed = Fields.keys held ∧ inside old new ∧
      Fields.get? name held = some old ∧ Fields.get? name changed = some new ∧
      ∀ other, other ≠ name → Fields.get? other changed = Fields.get? other held := by
  obtain @⟨before, after, old, new, first, changed⟩ := differ
  have absent : Fields.get? name before = none := Fields.get?_eq_none_iff.mpr first
  refine ⟨_, _, old, new, rfl, rfl, ?_, changed, ?_, ?_, fun other different => ?_⟩
  · simp [Fields.keys]
  · simp [Fields.get?_append, absent, Fields.get?]
  · simp [Fields.get?_append, absent, Fields.get?]
  · simp [Fields.get?_append, Fields.get?, different.symm]

end Authoring.Json
