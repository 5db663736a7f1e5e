import Mathlib
import Authoring.Proofs.Contract.Accepts
import Authoring.Proofs.Contract.Lines
import Authoring.Proofs.Deliverable.Decoding

/-! Passing over rules that cannot be checked. What keeps a document from being decoded is also a
violation of its shape, so whoever is asked for silence still refuses the document. -/

namespace Authoring

variable {document : Json} {kind : DocumentKind} {options : ValidateOptions}

namespace Contract

theorem mem_check_object {fields : List (String × Presence × Contract)} {names : List String}
    {held : Fields Json} {field : String × Presence × Contract} {value : Json}
    {violation : Violation} (listed : field ∈ fields)
    (found : Fields.get? field.1 held = some value) (inside : violation ∈ field.2.2.check value) :
    violation.under (.field field.1) ∈ (Contract.object fields names).check (.object held) := by
  have member : violation.under (.field field.1) ∈ checkFields fields held := by
    rw [checkFields_eq_flatMap, List.mem_flatMap]
    refine ⟨field, listed, ?_⟩
    rw [found]
    exact List.mem_map_of_mem inside
  simp only [check, List.mem_append]
  exact .inl (.inr member)

theorem check_array_of_nonList {minItems : Nat} {maxItems : Option Nat} {contract : Contract}
    {value : Json} (notList : value.items? = none) :
    (Contract.array minItems maxItems contract).check value = [.here (.wrongType "array")] := by
  cases value with
  | array items => cases notList
  | null | bool | number | string | object => simp [check]

end Contract

namespace DocumentKind

theorem listFields_arrays (kind : DocumentKind) :
    ∃ fields, kind.contract = .closed fields ∧ ∀ name ∈ kind.listFields,
      ∃ presence minItems maxItems contract,
        (name, presence, Contract.array minItems maxItems contract) ∈ fields := by
  cases kind with
  | slideDeck =>
      refine ⟨_, rfl, fun name known => ?_⟩
      simp only [listFields, List.mem_cons, List.not_mem_nil, or_false] at known
      rcases known with rfl | rfl <;>
        simp [required, Contract.listOf, sourcesContract]
  | onePager =>
      refine ⟨_, rfl, fun name known => ?_⟩
      simp only [listFields, List.mem_cons, List.not_mem_nil, or_false] at known
      rcases known with rfl | rfl | rfl | rfl | rfl <;>
        simp [required, Contract.listOf, sourcesContract]
  | flashcards =>
      refine ⟨_, rfl, fun name known => ?_⟩
      simp only [listFields, List.mem_cons, List.not_mem_nil, or_false] at known
      rcases known with rfl | rfl <;>
        simp [required, optional, Contract.listOf, sourcesContract]

theorem violation_of_nonList {name : String} {value : Json} (known : name ∈ kind.listFields)
    (found : document.get? name = some value) (notList : value.items? = none) :
    ⟨[.field name], .wrongType "array"⟩ ∈ kind.contract.check document := by
  obtain ⟨fields, same, arrays⟩ := kind.listFields_arrays
  obtain ⟨presence, minItems, maxItems, contract, listed⟩ := arrays name known
  rw [same, Contract.closed]
  cases document with
  | object held =>
      have inside : .here (.wrongType "array") ∈
          (Contract.array minItems maxItems contract).check value := by
        rw [Contract.check_array_of_nonList notList]
        exact List.mem_singleton_self _
      exact Contract.mem_check_object listed found inside
  | null | bool | number | string | array => cases found

end DocumentKind

theorem validate_unknown {reason : KindError}
    (unknown : DocumentKind.ofJson document = .error reason) :
    validate options document = ⟨false, [reason.message], none⟩ := by
  simp only [validate, checkShape, unknown]
  rfl

theorem validate_decoded {deliverable : Deliverable}
    (known : DocumentKind.ofJson document = .ok kind)
    (decoded : Deliverable.decoder.decodeJson document = .ok deliverable) :
    validate options document =
      ⟨((kind.contract.check document).map Violation.text ++ deliverable.ruleErrors).isEmpty,
        (kind.contract.check document).map Violation.text ++ deliverable.ruleErrors, none⟩ := by
  simp only [validate, checkShape_known known, evaluateRules, decoded, ShapeReport.isValid,
    Option.isNone_none, Bool.and_true]
  cases kind.contract.check document <;> simp

theorem validate_undecoded {fault : Fault} (known : DocumentKind.ofJson document = .ok kind)
    (broken : kind.contract.check document ≠ [])
    (refused : Deliverable.decoder.decodeJson document = .error fault) :
    validate options document = ⟨false, (kind.contract.check document).map Violation.text,
      if options.failOpen then none else some (EvaluationError.mk fault).message⟩ := by
  simp only [validate, checkShape_known known, evaluateRules, refused, ShapeReport.isValid]
  cases violations : kind.contract.check document with
  | nil => exact absurd violations broken
  | cons first rest => simp

theorem validate_cases (document : Json) (distinct : document.Distinct) :
    (∃ reason, DocumentKind.ofJson document = .error reason) ∨
    (∃ kind deliverable, DocumentKind.ofJson document = .ok kind ∧
      Deliverable.decoder.decodeJson document = .ok deliverable ∧
      ∀ name ∈ kind.listFields, ∀ value, document.get? name = some value → value.items?.isSome) ∨
    (∃ kind fault, DocumentKind.ofJson document = .ok kind ∧
      Deliverable.decoder.decodeJson document = .error fault ∧
      kind.contract.check document ≠ [] ∧
      ∃ name ∈ kind.listFields, ∃ value,
        document.get? name = some value ∧ value.items? = none) := by
  cases outcome : DocumentKind.ofJson document with
  | error reason => exact .inl ⟨reason, rfl⟩
  | ok kind =>
      refine .inr ?_
      have decodes := Deliverable.decodes_iff distinct outcome
      cases result : Deliverable.decoder.decodeJson document with
      | ok deliverable => exact .inl ⟨kind, deliverable, rfl, rfl, decodes.mp ⟨deliverable, result⟩⟩
      | error fault =>
          have notLists : ¬ ∀ name ∈ kind.listFields, ∀ value,
              document.get? name = some value → value.items?.isSome := by
            intro lists
            obtain ⟨deliverable, decoded⟩ := decodes.mpr lists
            rw [result] at decoded
            cases decoded
          push Not at notLists
          obtain ⟨name, listed, value, found, notList⟩ := notLists
          have notList : value.items? = none := by simpa using notList
          have violation := DocumentKind.violation_of_nonList listed found notList
          exact .inr ⟨kind, fault, rfl, rfl, List.ne_nil_of_mem violation, name, listed, value,
            found, notList⟩

/-- Failing open changes no verdict and no error: it only keeps silent about rules that could not be
checked. These are the rules of documents one of whose lists is none, and that is an error by
itself. -/
theorem failOpen_keeps_verdict (document : Json) (distinct : document.Distinct) :
    (validate ⟨true⟩ document).ok = (validate ⟨false⟩ document).ok ∧
    (validate ⟨true⟩ document).errors = (validate ⟨false⟩ document).errors ∧
    (validate ⟨true⟩ document).evaluationError = none ∧
    ((validate ⟨false⟩ document).evaluationError.isSome ↔
      ∃ kind, DocumentKind.ofJson document = .ok kind ∧ ∃ name ∈ kind.listFields,
        ∃ value, document.get? name = some value ∧ value.items? = none) ∧
    (∀ kind, DocumentKind.ofJson document = .ok kind → ∀ name ∈ kind.listFields,
      ∀ value, document.get? name = some value → value.items? = none →
        "type at /" ++ name ++ " \x7b\"type\":\"array\"\x7d" ∈ (validate ⟨false⟩ document).errors) ∧
    ∀ options : ValidateOptions,
      (validate options document).ok = true ↔ (validate options document).errors = [] := by
  rcases validate_cases document distinct with ⟨reason, unknown⟩ |
    ⟨kind, deliverable, known, decoded, lists⟩ | ⟨kind, fault, known, refused, broken, notList⟩
  · simp [validate_unknown unknown, unknown]
  · have isList : ∀ other, DocumentKind.ofJson document = .ok other → ∀ name ∈ other.listFields,
        ∀ value, document.get? name = some value → value.items? ≠ none := by
      intro other same name listed value found notList
      rw [known] at same
      have list := lists name (Except.ok.inj same ▸ listed) value found
      simp [notList] at list
    simp only [validate_decoded known decoded]
    refine ⟨trivial, trivial, trivial, ?_, ?_, ?_⟩
    · constructor
      · intro silent
        cases silent
      · rintro ⟨other, same, name, listed, value, found, notList⟩
        exact absurd notList (isList other same name listed value found)
    · intro other same name listed value found notList
      exact absurd notList (isList other same name listed value found)
    · exact fun options => List.isEmpty_iff
  · simp only [validate_undecoded known broken refused]
    refine ⟨trivial, trivial, rfl, ?_, ?_, ?_⟩
    · exact ⟨fun _ => ⟨kind, known, notList⟩, fun _ => rfl⟩
    · intro other same name listed value found notList
      rw [known] at same
      rw [← Except.ok.inj same] at listed
      rw [← Violation.text_wrongType_array]
      exact List.mem_map_of_mem (DocumentKind.violation_of_nonList listed found notList)
    · simp [broken]

theorem failOpen_keeps_verdict_of_null_slides :
    (Json.object [("kind", .string "SlideDeck"), ("slides", .null)]).Distinct ∧
      (validate ⟨false⟩
        (.object [("kind", .string "SlideDeck"), ("slides", .null)])).evaluationError.isSome ∧
      "type at /slides \x7b\"type\":\"array\"\x7d" ∈
        (validate ⟨false⟩ (.object [("kind", .string "SlideDeck"), ("slides", .null)])).errors ∧
      (validate ⟨true⟩
        (.object [("kind", .string "SlideDeck"), ("slides", .null)])).ok = false := by
  have distinct : (Json.object [("kind", .string "SlideDeck"), ("slides", .null)]).Distinct := by
    simp [Json.Distinct, Json.DistinctFields, Fields.keys]
  obtain ⟨_, same, _, noticed, named, verdict⟩ := failOpen_keeps_verdict _ distinct
  have listed : "slides" ∈ DocumentKind.slideDeck.listFields := List.mem_cons_self
  have error := named .slideDeck rfl "slides" listed .null rfl rfl
  refine ⟨distinct, noticed.mpr ⟨.slideDeck, rfl, "slides", listed, .null, rfl, rfl⟩, error, ?_⟩
  rw [← same] at error
  rw [← Bool.not_eq_true, verdict]
  exact List.ne_nil_of_mem error

end Authoring
