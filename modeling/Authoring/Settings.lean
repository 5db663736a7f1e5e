import Authoring.Deliverable.Validation
import Authoring.Json.Reader
import Authoring.Program.Compiler
import Authoring.Score.Codec

/-! Settings of the compiler, the scorer, the validator and the telemetry buffer, from a JSON text
or from named variables. -/

namespace Authoring

namespace CompileOptions

def decoder : Decoder CompileOptions :=
  ((Record.of CompileOptions.mk).optional "allowDuplicateIds" .bool false).decoder "CompileOptions"

def toJson (options : CompileOptions) : Json :=
  .object [("allowDuplicateIds", .bool options.allowDuplicateIds)]

end CompileOptions

namespace ValidateOptions

def decoder : Decoder ValidateOptions :=
  ((Record.of ValidateOptions.mk).optional "failOpen" .bool false).decoder "ValidateOptions"

def toJson (options : ValidateOptions) : Json :=
  .object [("failOpen", .bool options.failOpen)]

end ValidateOptions

structure Settings where
  compile : CompileOptions
  scoring : PerComponent
  validation : ValidateOptions
  telemetryCapacity : UInt64
deriving DecidableEq

inductive SettingsError where
  | notBoolean (name text : String)
  | notCapacity (text : String)
  | notWeights (text : String)
  | weightCount (count : Nat)
  | zeroCapacity
  | weightTotal (total : Float)
deriving DecidableEq

namespace Settings

def duplicatesVariable : String := "QEVA_ALLOW_DUPLICATE_IDS"
def failOpenVariable : String := "QEVA_RULES_FAIL_OPEN"
def capacityVariable : String := "TELEMETRY_BUFFER_SIZE"
def weightsVariable : String := "QEVA_SCORE_WEIGHTS"

end Settings

open Settings in
def SettingsError.message : SettingsError → String
  | notBoolean name text => name ++ " must be a boolean, got " ++ Text.quoted text
  | notCapacity text =>
      capacityVariable ++ " must be a positive integer, got " ++ Text.quoted text
  | notWeights text => weightsVariable ++ " must be numbers, got " ++ Text.quoted text
  | weightCount count => s!"{weightsVariable} needs 6 values, got {count}"
  | zeroCapacity => "telemetry capacity must be at least 1"
  | weightTotal total =>
      "score weights must sum to a positive number, got " ++ Decimal.display total

namespace Settings

def default : Settings :=
  ⟨.default, .ones, .default, 200⟩

def decoder : Decoder Settings :=
  ((Record.of Settings.mk).optional "compile" CompileOptions.decoder .default
    |>.optional "scoring" PerComponent.weightsDecoder .ones
    |>.optional "validation" ValidateOptions.decoder .default
    |>.optional "telemetryCapacity" (.uint64 "usize") 200).decoder "Config"

def toJson (settings : Settings) : Json :=
  .object
    [("compile", settings.compile.toJson), ("scoring", settings.scoring.toJson),
      ("validation", settings.validation.toJson),
      ("telemetryCapacity", .ofNat settings.telemetryCapacity.toNat)]

def validated (settings : Settings) : Except SettingsError Settings :=
  if settings.telemetryCapacity = 0 then .error .zeroCapacity
  else if settings.scoring.total.isFinite && 0 < settings.scoring.total then .ok settings
  else .error (.weightTotal settings.scoring.total)

inductive LoadError where
  | json (fault : Fault)
  | refused (error : SettingsError)

def ofDocument (decoded : Except Fault Settings) : Except LoadError Settings :=
  match decoded with
  | .error fault => .error (.json fault)
  | .ok settings => settings.validated.mapError .refused

def ofText (text : String) : Except LoadError Settings :=
  ofDocument (decoder.decodeText (Json.outline text))

def flag? (text : String) : Option Bool :=
  let word := String.ofList ((Text.trim text.toList).map Char.toLower)
  if word ∈ ["1", "true", "yes", "on"] then some true
  else if word ∈ ["0", "false", "no", "off", ""] then some false
  else none

def capacity? (text : String) : Option UInt64 :=
  let digits :=
    match Text.trim text.toList with
    | '+' :: digits => digits
    | digits => digits
  if digits.isEmpty || !digits.all Decimal.isDigit then none
  else
    let value := Decimal.valueOf digits
    if value < 0x10000000000000000 then some (UInt64.ofNat value) else none

def weights (text : String) : Except SettingsError PerComponent :=
  match (text.toList.splitOn ',').mapM fun part => Decimal.float? (Text.trim part) with
  | none => .error (.notWeights text)
  | some [goalMatch, constraintPass, testPass, structureCompleteness, evidence, humanity] =>
      .ok ⟨goalMatch, constraintPass, testPass, structureCompleteness, evidence, humanity⟩
  | some values => .error (.weightCount values.length)

def fromVariable {α : Type} (lookup : String → Option String) (name : String) (default : α)
    (parse : String → Except SettingsError α) : Except SettingsError α :=
  match lookup name with
  | none => .ok default
  | some text => parse text

def parseFlag (name text : String) : Except SettingsError Bool :=
  match flag? text with
  | some value => .ok value
  | none => .error (.notBoolean name text)

def parseCapacity (text : String) : Except SettingsError UInt64 :=
  match capacity? text with
  | some value => .ok value
  | none => .error (.notCapacity text)

def ofVariables (lookup : String → Option String) : Except SettingsError Settings := do
  let allow ← fromVariable lookup duplicatesVariable false (parseFlag duplicatesVariable)
  let failOpen ← fromVariable lookup failOpenVariable false (parseFlag failOpenVariable)
  let capacity ← fromVariable lookup capacityVariable 200 parseCapacity
  let scoring ← fromVariable lookup weightsVariable .ones weights
  validated ⟨⟨allow⟩, scoring, ⟨failOpen⟩, capacity⟩

end Settings

end Authoring
