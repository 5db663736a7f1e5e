import Mathlib
import Authoring.Deliverable.Validation
import Authoring.Proofs.Contract.Dates
import Authoring.Proofs.Contract.Location
import Authoring.Proofs.Outcomes

/-! The dates on which sources were accessed, as the check of the shape takes them. -/

namespace Authoring

open Date (IsCalendarDate IsLooseDate IsMarked)

theorem DocumentKind.contract_sources (kind : DocumentKind) :
    ∃ fields, kind.contract = .closed fields ∧ (Fields.keys fields).Nodup ∧
      Fields.get? "sources" fields = some (.required, sourcesContract) := by
  cases kind <;> exact ⟨_, rfl, by decide, rfl⟩

def dateContract : Contract :=
  .string { StringContract.any with format := some .date }

def accessedPath (position : Nat) : List Step :=
  [.field "sources", .index position, .field "accessed"]

section Sources

variable {document source : Json} {report : ShapeReport} {sources : List Json} {position : Nat}
  {text : String} {problem : Problem}

theorem violations_of_checkShape (checked : checkShape document = .ok report) :
    report.violations = report.kind.contract.check document := by
  obtain ⟨kind, -, same⟩ := bind_eq_ok_iff.mp checked
  cases same
  rfl

theorem mem_check_sources_iff (kind : DocumentKind)
    (listed : document.get? "sources" = some (.array sources))
    (placed : sources[position]? = some source)
    (dated : source.get? "accessed" = some (.string text)) :
    ⟨accessedPath position, problem⟩ ∈ kind.contract.check document ↔
      .here problem ∈ dateContract.check (.string text) := by
  obtain ⟨fields, contract, distinct, sourcesListed⟩ := kind.contract_sources
  obtain ⟨held, rfl, sourcesHeld⟩ := Json.exists_object_of_get? listed
  obtain ⟨sourceHeld, rfl, textHeld⟩ := Json.exists_object_of_get? dated
  have steps : ⟨accessedPath position, problem⟩ =
      (((Violation.here problem).under (.field "accessed")).under (.index position)).under
        (.field "sources") := rfl
  rw [steps, contract, Contract.closed,
    Contract.mem_check_field_iff distinct sourcesListed sourcesHeld, sourcesContract,
    Contract.listOf, Contract.mem_check_item_iff placed, Contract.closed]
  exact Contract.mem_check_field_iff (by decide) rfl textHeld

theorem mem_check_date_iff : .here problem ∈ dateContract.check (.string text) ↔
    problem = .misformatted .date ∧ Date.accepts text = false := by
  cases accepted : Date.accepts text <;>
    simp [dateContract, Contract.check, Contract.checkString, StringContract.any, Contract.when,
      Format.accepts, accepted, Violation.here]

/-- The check of the shape finds nothing wrong with how the day of a source is written just if it is
a calendar date or a loose date, which no calendar date is. -/
theorem accessed_accepted_iff (checked : checkShape document = .ok report)
    (listed : document.get? "sources" = some (.array sources))
    (placed : sources[position]? = some source)
    (dated : source.get? "accessed" = some (.string text)) :
    ((¬∃ violation ∈ report.violations, violation.path = accessedPath position ∧
        violation.problem.rule = "format") ↔
      IsCalendarDate text.toList ∨ IsLooseDate text.toList) ∧
    (IsCalendarDate text.toList → ¬IsMarked text.toList) := by
  refine ⟨?_, IsCalendarDate.unmarked⟩
  rw [violations_of_checkShape checked, ← Date.accepts_cases, not_iff_comm, Bool.not_eq_true]
  constructor
  · intro refused
    refine ⟨⟨accessedPath position, .misformatted .date⟩, ?_, rfl, rfl⟩
    rw [mem_check_sources_iff report.kind listed placed dated, mem_check_date_iff]
    exact ⟨rfl, refused⟩
  · rintro ⟨⟨path, problem⟩, found, rfl, -⟩
    rw [mem_check_sources_iff report.kind listed placed dated, mem_check_date_iff] at found
    exact found.2

end Sources

def sampleDatedSource (accessed : String) : Json :=
  .object
    [("accessed", .string accessed), ("id", .string "s1"), ("kind", .string "url"),
      ("value", .string "u")]

def sampleDated (accessed : String) : Json :=
  let card : Json := .object [("a", .string "Yes."), ("q", .string "Is it?")]
  .object
    [("cards", .array [card, card, card]), ("kind", .string "Flashcards"),
      ("sources", .array [sampleDatedSource accessed])]

theorem accessed_accepted_iff_of_sampleDated :
    (∃ report, checkShape (sampleDated "2024-02-29") = .ok report ∧
      ¬∃ violation ∈ report.violations, violation.path = accessedPath 0 ∧
        violation.problem.rule = "format") ∧
    ∃ report, checkShape (sampleDated "2023-02-29") = .ok report ∧
      ∃ violation ∈ report.violations, violation.path = accessedPath 0 ∧
        violation.problem.rule = "format" := by
  have accepted_iff (text : String) : ∃ report, checkShape (sampleDated text) = .ok report ∧
      ((¬∃ violation ∈ report.violations, violation.path = accessedPath 0 ∧
          violation.problem.rule = "format") ↔
        IsCalendarDate text.toList ∨ IsLooseDate text.toList) := by
    have placed : [sampleDatedSource text][0]? = some (sampleDatedSource text) := rfl
    have checked : checkShape (sampleDated text) =
        .ok ⟨.flashcards, DocumentKind.flashcards.contract.check (sampleDated text)⟩ := rfl
    exact ⟨_, checked, (accessed_accepted_iff checked rfl placed rfl).1⟩
  constructor
  · obtain ⟨report, checked, accepted⟩ := accepted_iff "2024-02-29"
    exact ⟨report, checked, accepted.mpr (Date.accepts_cases.mp (by decide))⟩
  · obtain ⟨report, checked, accepted⟩ := accepted_iff "2023-02-29"
    refine ⟨report, checked, not_not.mp fun nothing => ?_⟩
    have passes := Date.accepts_cases.mpr (accepted.mp nothing)
    exact absurd passes (by decide)

theorem checkShape_takes_sampleDated :
    checkShape (sampleDated "+2024-1-01") = .ok ⟨.flashcards, []⟩ ∧
      ¬IsCalendarDate "+2024-1-01".toList := by
  constructor
  · rfl
  · exact fun date => date.unmarked (.inl ⟨'+', rfl, .inl rfl⟩)

end Authoring
