import Authoring.Contract.Check
import Authoring.Deliverable.Codec
import Authoring.Deliverable.Contracts
import Authoring.Deliverable.Rules

/-! The verdict on a document: its shape is checked against the contract of its kind, and its rules
are checked beside that, so that one run reports everything. -/

namespace Authoring

inductive KindError where
  | notAnObject
  | unknown (kind : String)
deriving DecidableEq

def KindError.message : KindError → String
  | notAnObject => "artifact must be an object with a 'kind' field"
  | unknown kind => s!"unknown kind: {kind}"

def DocumentKind.ofJson (document : Json) : Except KindError DocumentKind :=
  match document.get? "kind" with
  | none => .error .notAnObject
  | some (.string name) =>
      match ofName? name with
      | some kind => .ok kind
      | none => .error (.unknown name)
  | some other => .error (.unknown other.toText)

structure ShapeReport where
  kind : DocumentKind
  violations : List Violation

def ShapeReport.isValid (report : ShapeReport) : Bool :=
  report.violations.isEmpty

def checkShape (document : Json) : Except KindError ShapeReport := do
  let kind ← DocumentKind.ofJson document
  return ⟨kind, kind.contract.check document⟩

structure EvaluationError where
  fault : Fault

def EvaluationError.message (error : EvaluationError) : String :=
  s!"Rule evaluation error: {error.fault.message}"

def evaluateRules (document : Json) : Except EvaluationError (List String) :=
  match Deliverable.decoder.decodeJson document with
  | .ok deliverable => .ok deliverable.ruleErrors
  | .error fault => .error ⟨fault⟩

structure ValidateOptions where
  failOpen : Bool
deriving DecidableEq

def ValidateOptions.default : ValidateOptions :=
  ⟨false⟩

structure Validation where
  ok : Bool
  errors : List String
  evaluationError : Option String
deriving DecidableEq

def validate (options : ValidateOptions) (document : Json) : Validation :=
  match checkShape document with
  | .error reason => ⟨false, [reason.message], none⟩
  | .ok shape =>
      let (broken, evaluationError) : List String × Option String :=
        match evaluateRules document with
        | .ok errors => (errors, none)
        | .error error => ([], if options.failOpen then none else some error.message)
      let errors := shape.violations.map Violation.text ++ broken
      ⟨shape.isValid && errors.isEmpty && evaluationError.isNone, errors, evaluationError⟩

namespace Validation

def decoder : Decoder Validation :=
  ((Record.of Validation.mk).required "ok" .bool
    |>.required "errors" (.list .string)
    |>.optional "evaluationError" (.option .string) none).decoder "Validation"

def toJson (validation : Validation) : Json :=
  .object
    ([("ok", .bool validation.ok), ("errors", .strings validation.errors)] ++
      optionalField "evaluationError" .string validation.evaluationError)

end Validation

end Authoring
