import Mathlib
import Authoring.Text.Basic
import Authoring.Proofs.Json.Distinct

/-! Reading values straight off a document: along a route of names and items, or anywhere in it. -/

namespace Authoring

inductive Leg where
  | field (name : String)
  | each

namespace Json

def reach : List Leg → Json → List Json
  | [], document => [document]
  | .field name :: rest, document =>
      match document.get? name with
      | some value => reach rest value
      | none => []
  | .each :: rest, document =>
      match document.items? with
      | some items => items.flatMap (reach rest)
      | none => []

def EachText (document : Json) (route : List Leg) (holds : String → Prop) : Prop :=
  ∀ value ∈ document.reach route, ∃ text, value = .string text ∧ holds text

def words : Json → Nat
  | .string text => Text.wordCount text
  | _ => 0

def wordsAt (document : Json) (routes : List (List Leg)) : Nat :=
  (routes.map fun route => ((document.reach route).map words).sum).sum

inductive Contains : Json → Json → Prop
  | root (document : Json) : Contains document document
  | field {fields : List (String × Json)} {name : String} {value inner : Json}
      (member : (name, value) ∈ fields) (inside : Contains value inner) :
      Contains (.object fields) inner
  | item {items : List Json} {value inner : Json} (member : value ∈ items)
      (inside : Contains value inner) : Contains (.array items) inner

variable {document value : Json} {name : String} {rest : List Leg}

theorem reach_field (found : document.get? name = some value) :
    document.reach (.field name :: rest) = value.reach rest := by
  rw [reach, found]

theorem reach_absent (absent : document.get? name = none) :
    document.reach (.field name :: rest) = [] := by
  rw [reach, absent]

theorem reach_each (items : List Json) :
    (Json.array items).reach (.each :: rest) = items.flatMap (reach rest) :=
  rfl

end Json

end Authoring
