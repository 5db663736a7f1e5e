import Mathlib
import Authoring.Proofs.Contract.Location
import Authoring.Proofs.Json.Changes

/-! Nothing that is wrong elsewhere is hidden or brought about by what stands in one place. Changing
one value of a document changes what is reported of this value and of what is inside it, and perhaps
whether the object around it has a list with items. -/

namespace Authoring

/-- The path is not that of the value, nor of anything inside it. Not counted either is that all
lists of the object around the value are empty. -/
def Problem.isElsewhere (segments path : List String) (problem : Problem) : Bool :=
  !segments.isPrefixOf path && !(problem.rule == "anyOf" && path == segments.dropLast)

def Violation.isElsewhere (segments : List String) (violation : Violation) : Bool :=
  (Pointer.segments? violation.pathText).all fun path =>
    violation.problem.isElsewhere segments path

namespace Contract

def elsewhere (segments : List String) (violations : List Violation) : List Violation :=
  violations.filter fun violation => violation.problem.isElsewhere segments violation.segments

theorem elsewhere_append (segments : List String) (left right : List Violation) :
    elsewhere segments (left ++ right) = elsewhere segments left ++ elsewhere segments right :=
  List.filter_append left right

theorem elsewhere_flatMap {α : Type} (segments : List String) (entries : List α)
    (inner : α → List Violation) :
    elsewhere segments (entries.flatMap inner) =
      entries.flatMap fun entry => elsewhere segments (inner entry) :=
  List.filter_flatMap

theorem elsewhere_root (violations : List Violation) : elsewhere [] violations = [] := by
  rw [elsewhere, List.filter_eq_nil_iff]
  simp [Problem.isElsewhere]

theorem isElsewhere_cons (problem : Problem) (segment : String) (rest path : List String) :
    problem.isElsewhere (segment :: rest) (segment :: path) = problem.isElsewhere rest path := by
  cases rest with
  | nil => simp [Problem.isElsewhere]
  | cons next rest => simp [Problem.isElsewhere]

theorem elsewhere_under (step : Step) (rest : List String) (violations : List Violation) :
    elsewhere (step.segment :: rest) (violations.map (Violation.under step)) =
      (elsewhere rest violations).map (Violation.under step) := by
  rw [elsewhere, List.filter_map]
  congr 2
  funext violation
  exact isElsewhere_cons violation.problem step.segment rest violation.segments

variable {fields : List (String × Presence × Contract)} {held changed : Fields Json}
  {segment : String} {rest : List String} {old new : Json}

theorem checkMissing_congr (keys : Fields.keys changed = Fields.keys held) :
    checkMissing fields changed = checkMissing fields held := by
  refine List.flatMap_congr fun field _ => ?_
  have same : (Fields.get? field.1 changed).isNone = (Fields.get? field.1 held).isNone := by
    rw [Bool.eq_iff_iff, Option.isNone_iff_eq_none, Option.isNone_iff_eq_none,
      Fields.get?_eq_none_iff, Fields.get?_eq_none_iff, keys]
  simp only [same]

theorem checkAdditional_congr (keys : Fields.keys changed = Fields.keys held) :
    checkAdditional fields changed = checkAdditional fields held := by
  rw [checkAdditional, checkAdditional, keys]

theorem holdsItems_congr {name : String} {left right : Fields Json}
    (same : Fields.get? name right = Fields.get? name left) :
    holdsItems right name = holdsItems left name := by
  rw [holdsItems, holdsItems, same]

theorem holdsItems_inside {next : String} (foundOld : Fields.get? segment held = some old)
    (foundNew : Fields.get? segment changed = some new)
    (differ : Json.DiffersAt (next :: rest) old new) :
    holdsItems changed segment = holdsItems held segment := by
  rw [holdsItems, holdsItems, foundOld, foundNew]
  rcases differ with @⟨before, after, one, other, _, _⟩ | ⟨_, _, @⟨before, after, one, other, _, _⟩⟩
  · rfl
  · cases before <;> rfl

theorem checkNonEmpty_elsewhere (names : List String)
    (foundOld : Fields.get? segment held = some old)
    (foundNew : Fields.get? segment changed = some new) (differ : Json.DiffersAt rest old new)
    (others : ∀ other, other ≠ segment → Fields.get? other changed = Fields.get? other held) :
    elsewhere (segment :: rest) (checkNonEmpty names changed) =
      elsewhere (segment :: rest) (checkNonEmpty names held) := by
  cases rest with
  | nil =>
      -- This is the object around the value: its violation does not count.
      have leftOut : ∀ fields : Fields Json,
          elsewhere [segment] (checkNonEmpty names fields) = [] := by
        intro fields
        rw [elsewhere, List.filter_eq_nil_iff]
        intro violation found
        rw [mem_when found]
        simp [Problem.isElsewhere, Problem.rule, Violation.segments, Violation.here]
      rw [leftOut, leftOut]
  | cons next rest =>
      have same : holdsItems changed = holdsItems held := by
        funext name
        by_cases here : name = segment
        · rw [here]
          exact holdsItems_inside foundOld foundNew differ
        · exact holdsItems_congr (others name here)
      rw [checkNonEmpty, checkNonEmpty, same]

theorem checkFields_elsewhere (foundOld : Fields.get? segment held = some old)
    (foundNew : Fields.get? segment changed = some new)
    (others : ∀ other, other ≠ segment → Fields.get? other changed = Fields.get? other held)
    (inside : ∀ contract : Contract,
      elsewhere rest (contract.check new) = elsewhere rest (contract.check old)) :
    elsewhere (segment :: rest) (checkFields fields changed) =
      elsewhere (segment :: rest) (checkFields fields held) := by
  rw [checkFields_eq, checkFields_eq, elsewhere_flatMap, elsewhere_flatMap]
  refine List.flatMap_congr fun field _ => ?_
  by_cases here : field.1 = segment
  · have under := elsewhere_under (.field segment) rest
    rw [Step.segment] at under
    rw [checkField, checkField, here, foundOld, foundNew, under, under, inside]
  · rw [checkField, checkField, others field.1 here]

theorem check_field_elsewhere {left right : Json} (contract : Contract)
    (inside : ∀ contract : Contract, ∀ old new, Json.DiffersAt rest old new →
      elsewhere rest (contract.check new) = elsewhere rest (contract.check old))
    (differ : Json.InField segment (Json.DiffersAt rest) left right) :
    elsewhere (segment :: rest) (contract.check right) =
      elsewhere (segment :: rest) (contract.check left) := by
  obtain ⟨held, changed, old, new, rfl, rfl, keys, deeper, foundOld, foundNew, others⟩ :=
    differ.lookups
  cases contract with
  | object fields names =>
      simp only [check, elsewhere_append]
      rw [checkMissing_congr keys, checkAdditional_congr keys,
        checkFields_elsewhere foundOld foundNew others fun contract =>
          inside contract old new deeper,
        checkNonEmpty_elsewhere names foundOld foundNew deeper others]
  | array | string | integer | const => rfl

theorem check_item_elsewhere {left right : Json} {position : Nat} (contract : Contract)
    (inside : ∀ contract : Contract, ∀ old new, Json.DiffersAt rest old new →
      elsewhere rest (contract.check new) = elsewhere rest (contract.check old))
    (differ : Json.InItem position (Json.DiffersAt rest) left right) :
    elsewhere (toString position :: rest) (contract.check right) =
      elsewhere (toString position :: rest) (contract.check left) := by
  obtain @⟨before, after, old, new, place, deeper⟩ := differ
  cases contract with
  | array minItems maxItems contract =>
      have under := elsewhere_under (.index position) rest
      rw [Step.segment] at under
      simp only [check, elsewhere_append, List.zipIdx_append, List.zipIdx_cons,
        List.flatMap_append, List.flatMap_cons, List.length_append, List.length_cons, Nat.zero_add,
        place, under, inside contract old new deeper]
  | object | string | integer | const => rfl

theorem check_elsewhere_steps (segments : List String) (contract : Contract) {left right : Json}
    (differ : left.DiffersAt segments right) :
    elsewhere segments (contract.check right) = elsewhere segments (contract.check left) := by
  induction segments generalizing contract left right with
  | nil => rw [elsewhere_root, elsewhere_root]
  | cons segment rest ih =>
      have inside : ∀ contract : Contract, ∀ old new, Json.DiffersAt rest old new →
          elsewhere rest (contract.check new) = elsewhere rest (contract.check old) :=
        fun contract old new deeper => ih contract deeper
      rcases differ with field | ⟨position, rfl, item⟩
      · exact check_field_elsewhere contract inside field
      · exact check_item_elsewhere contract inside item

theorem elsewhere_eq_filter {contract : Contract} (named : contract.WellNamed)
    (segments : List String) (document : Json) :
    (contract.check document).filter (Violation.isElsewhere segments) =
      elsewhere segments (contract.check document) := by
  refine List.filter_congr fun violation found => ?_
  rw [Violation.isElsewhere, Violation.segments?_pathText (locates_of_mem named found).1]
  rfl

/-- Documents that differ in one place have the same violations elsewhere, in the same order. -/
theorem check_elsewhere {contract : Contract} (named : contract.WellNamed)
    {segments : List String} {left right : Json} (differ : left.DiffersAt segments right) :
    (contract.check left).filter (Violation.isElsewhere segments) =
      (contract.check right).filter (Violation.isElsewhere segments) := by
  rw [elsewhere_eq_filter named, elsewhere_eq_filter named]
  exact (check_elsewhere_steps segments contract differ).symm

theorem check_elsewhere_of_sampleItems :
    sampleContract.WellNamed ∧
      (sampleItems (.strings ["y", ""])).DiffersAt ["1", "tags"] (sampleItems (.string "y")) ∧
      ⟨[.index 1, .field "count"], .aboveMaximum 2⟩ ∈
        (sampleContract.check (sampleItems (.strings ["y", ""]))).filter
          (Violation.isElsewhere ["1", "tags"]) ∧
      (sampleContract.check (sampleItems (.strings ["y", ""]))).filter
          (Violation.isElsewhere ["1", "tags"]) =
        (sampleContract.check (sampleItems (.string "y"))).filter
          (Violation.isElsewhere ["1", "tags"]) := by
  have differ :
      (sampleItems (.strings ["y", ""])).DiffersAt ["1", "tags"] (sampleItems (.string "y")) := by
    refine .inr ⟨1, rfl, @Json.InItem.intro 1 _ [_] [] _ _ rfl (.inl ?_)⟩
    exact @Json.InField.intro "tags" _ [_, _] [] _ _ (by decide +kernel) trivial
  exact ⟨sampleContract_wellNamed, differ, by decide +kernel,
    check_elsewhere sampleContract_wellNamed differ⟩

end Contract

end Authoring
