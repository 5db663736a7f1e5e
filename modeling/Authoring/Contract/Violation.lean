import Authoring.Contract.Basic

/-! What a document does against a contract, and where. -/

namespace Authoring

inductive Step where
  | field (name : String)
  | index (position : Nat)
deriving DecidableEq

def Step.text : Step → String
  | field name => s!"/{name}"
  | index position => s!"/{position}"

inductive Problem where
  | wrongType (wanted : String)
  | missing (name : String)
  | additional (name : String)
  | allEmpty (names : List String)
  | tooFewItems (limit : Nat)
  | tooManyItems (limit : Nat)
  | tooShort (limit : Nat)
  | tooLong (limit : Nat)
  | mismatch (pattern : String)
  | misformatted (format : Format)
  | notAllowed (allowed : List String)
  | belowMinimum (limit : Int64)
  | aboveMaximum (limit : Int64)
  | notConstant (value : String)
deriving DecidableEq

namespace Problem

def rule : Problem → String
  | wrongType _ => "type"
  | missing _ => "required"
  | additional _ => "additionalProperties"
  | allEmpty _ => "anyOf"
  | tooFewItems _ => "minItems"
  | tooManyItems _ => "maxItems"
  | tooShort _ => "minLength"
  | tooLong _ => "maxLength"
  | mismatch _ => "pattern"
  | misformatted _ => "format"
  | notAllowed _ => "enum"
  | belowMinimum _ => "minimum"
  | aboveMaximum _ => "maximum"
  | notConstant _ => "const"

def params : Problem → Json
  | wrongType wanted => .object [("type", .string wanted)]
  | missing name => .object [("missingProperty", .string name)]
  | additional name => .object [("additionalProperty", .string name)]
  | allEmpty names => .object [("nonEmpty", .strings names)]
  | tooFewItems limit => .object [("limit", .ofNat limit)]
  | tooManyItems limit => .object [("limit", .ofNat limit)]
  | tooShort limit => .object [("limit", .ofNat limit)]
  | tooLong limit => .object [("limit", .ofNat limit)]
  | mismatch pattern => .object [("pattern", .string pattern)]
  | misformatted format => .object [("format", .string format.name)]
  | notAllowed allowed => .object [("allowedValues", .strings allowed)]
  | belowMinimum limit => .object [("comparison", .string ">="), ("limit", .ofInt limit.toInt)]
  | aboveMaximum limit => .object [("comparison", .string "<="), ("limit", .ofInt limit.toInt)]
  | notConstant value => .object [("allowedValue", .string value)]

end Problem

structure Violation where
  path : List Step
  problem : Problem
deriving DecidableEq

namespace Violation

def here (problem : Problem) : Violation :=
  ⟨[], problem⟩

def under (step : Step) (violation : Violation) : Violation :=
  { violation with path := step :: violation.path }

def pathText (violation : Violation) : String :=
  String.join (violation.path.map Step.text)

def text (violation : Violation) : String :=
  let rule := violation.problem.rule
  let params := violation.problem.params.toText
  if violation.path.isEmpty then s!"{rule} {params}"
  else
    let path := violation.pathText
    s!"{rule} at {path} {params}"

def toJson (violation : Violation) : Json :=
  .object
    [("path", .string violation.pathText), ("rule", .string violation.problem.rule),
      ("params", violation.problem.params)]

end Violation

end Authoring
