import Authoring.Contract.Violation

/-! Checks documents against contracts. All violations are reported, but nothing is looked for
inside a value of the wrong type. -/

namespace Authoring.Contract

def when (broken : Bool) (problem : Problem) : List Violation :=
  if broken then [.here problem] else []

def checkMissing (fields : List (String × Presence × Contract)) (held : Fields Json) :
    List Violation :=
  fields.flatMap fun (name, presence, _) =>
    when (presence == .required && (Fields.get? name held).isNone) (.missing name)

def checkAdditional (fields : List (String × Presence × Contract)) (held : Fields Json) :
    List Violation :=
  (Fields.keys held).flatMap fun key =>
    when (!fields.any fun (name, _) => name == key) (.additional key)

def holdsItems (held : Fields Json) (name : String) : Bool :=
  match (Fields.get? name held).bind Json.items? with
  | some items => !items.isEmpty
  | none => false

def checkNonEmpty (names : List String) (held : Fields Json) : List Violation :=
  when (!names.isEmpty && !names.any (holdsItems held)) (.allEmpty names)

def checkCount (minItems : Nat) (maxItems : Option Nat) (count : Nat) : List Violation :=
  when (count < minItems) (.tooFewItems minItems) ++
    match maxItems with
    | some limit => when (limit < count) (.tooManyItems limit)
    | none => []

def checkString (contract : StringContract) (value : String) : List Violation :=
  when (value.length < contract.minLength) (.tooShort contract.minLength) ++
    (match contract.maxLength with
    | some limit => when (limit < value.length) (.tooLong limit)
    | none => []) ++
    (match contract.pattern with
    | some pattern => when (!pattern.accepts value) (.mismatch pattern.text)
    | none => []) ++
    (match contract.format with
    | some format => when (!format.accepts value) (.misformatted format)
    | none => []) ++
    when (!contract.allowed.isEmpty && !contract.allowed.contains value)
      (.notAllowed contract.allowed)

/-- Numbers and bounds are compared as floats. A float without a fraction is an integer. -/
def checkInteger (minimum maximum : Option Int64) (value : Number) : List Violation :=
  if Decimal.isWhole value.toFloat then
    (match minimum with
    | some limit => when (value.toFloat < Float.ofInt limit.toInt) (.belowMinimum limit)
    | none => []) ++
    (match maximum with
    | some limit => when (Float.ofInt limit.toInt < value.toFloat) (.aboveMaximum limit)
    | none => [])
  else [.here (.wrongType "integer")]

mutual
def check : Contract → Json → List Violation
  | .object fields nonEmpty, document =>
      match document with
      | .object held =>
          checkMissing fields held ++ checkAdditional fields held ++ checkFields fields held ++
            checkNonEmpty nonEmpty held
      | _ => [.here (.wrongType "object")]
  | .array minItems maxItems contract, document =>
      match document with
      | .array items =>
          checkCount minItems maxItems items.length ++
            items.zipIdx.flatMap fun (item, position) =>
              (check contract item).map (Violation.under (.index position))
      | _ => [.here (.wrongType "array")]
  | .string contract, document =>
      match document with
      | .string value => checkString contract value
      | _ => [.here (.wrongType "string")]
  | .integer minimum maximum, document =>
      match document with
      | .number value => checkInteger minimum maximum value
      | _ => [.here (.wrongType "integer")]
  | .const expected, document =>
      match document with
      | .string value => when (value != expected) (.notConstant expected)
      | _ => [.here (.notConstant expected)]

def checkFields : List (String × Presence × Contract) → Fields Json → List Violation
  | [], _ => []
  | (name, _, contract) :: rest, held =>
      (match Fields.get? name held with
      | some value => (check contract value).map (Violation.under (.field name))
      | none => []) ++ checkFields rest held
end

end Authoring.Contract
