import Authoring.Service

/-! The command line: its arguments, and what a run prints. -/

namespace Authoring.CommandLine

inductive Command where
  | compile
  | score (program : Bool)
  | validate
deriving DecidableEq

structure Invocation where
  command : Command
  input : Option String
  settings : Option String
deriving DecidableEq

inductive Request where
  | help
  | misuse
  | run (invocation : Invocation)
deriving DecidableEq

structure Options where
  settings : Option String
  logLevel : Option String
  program : Bool
  input : Option String

namespace Options

def none : Options :=
  ⟨.none, .none, false, .none⟩

def withSettings? (options : Options) (path : String) : Option Options :=
  if options.settings.isSome || path.isEmpty then .none
  else some { options with settings := some path }

def withLogLevel? (options : Options) (level : String) : Option Options :=
  if options.logLevel.isSome then .none else some { options with logLevel := some level }

def withInput? (options : Options) (path : String) : Option Options :=
  if options.input.isSome || path.isEmpty then .none else some { options with input := some path }

end Options

inductive Argument where
  | settings (attached : Option String)
  | logLevel (attached : Option String)
  | program
  | help
  | separator
  | plain (text : String)
  | unknown

def attachedTo? (sign argument : String) : Option String :=
  if sign.toList.isPrefixOf argument.toList then
    some (String.ofList (argument.toList.drop sign.length))
  else .none

def Argument.ofText (text : String) : Argument :=
  if text = "--" then .separator
  else if text = "--config" then .settings .none
  else if text = "--log-level" then .logLevel .none
  else if text = "--qgl" then .program
  else if text = "--help" then .help
  else if let some path := attachedTo? "--config=" text then .settings (some path)
  else if let some level := attachedTo? "--log-level=" text then .logLevel (some level)
  else if text = "-" then .plain text
  else if text = "-c" then .settings .none
  else if let some path := attachedTo? "-c=" text then .settings (some path)
  else if (attachedTo? "--" text).isSome then .unknown
  else if let some path := attachedTo? "-c" text then .settings (some path)
  else if (attachedTo? "-h" text).isSome then .help
  else if (attachedTo? "-" text).isSome then .unknown
  else .plain text

/-- A value that follows its option must not look like an option itself. -/
def isValue (text : String) : Bool :=
  match Argument.ofText text with
  | .plain _ => true
  | _ => false

def readArguments (scores : Bool) (options : Options) : List String → Option (Option Options)
  | [] => some (some options)
  | argument :: rest =>
      match Argument.ofText argument with
      | .help => some .none
      | .unknown => .none
      | .program =>
          if scores && !options.program then
            readArguments scores { options with program := true } rest
          else .none
      | .plain path => (options.withInput? path).bind fun next => readArguments scores next rest
      | .separator =>
          (rest.foldlM (fun (state : Options) path => state.withInput? path) options).map some
      | .settings (some path) =>
          (options.withSettings? path).bind fun next => readArguments scores next rest
      | .logLevel (some level) =>
          (options.withLogLevel? level).bind fun next => readArguments scores next rest
      | .settings .none =>
          match rest with
          | [] => .none
          | path :: rest =>
              if isValue path then
                (options.withSettings? path).bind fun next => readArguments scores next rest
              else .none
      | .logLevel .none =>
          match rest with
          | [] => .none
          | level :: rest =>
              if isValue level then
                (options.withLogLevel? level).bind fun next => readArguments scores next rest
              else .none

def invoke (before : Options) (scores : Bool) (command : Options → Command)
    (arguments : List String) : Request :=
  match readArguments scores .none arguments with
  | .none => .misuse
  | some .none => .help
  | some (some options) =>
      .run ⟨command options, options.input, options.settings <|> before.settings⟩

def helpOn : List String → Request
  | [] => .help
  | [topic] => if topic ∈ ["compile", "score", "validate", "help"] then .help else .misuse
  | _ => .misuse

def readCommand (options : Options) : List String → Request
  | [] => .misuse
  | argument :: rest =>
      match Argument.ofText argument with
      | .help => .help
      | .plain name =>
          if name = "compile" then invoke options false (fun _ => .compile) rest
          else if name = "score" then invoke options true (fun found => .score found.program) rest
          else if name = "validate" then invoke options false (fun _ => .validate) rest
          else if name = "help" then helpOn rest
          else .misuse
      | .settings (some path) =>
          match options.withSettings? path with
          | some next => readCommand next rest
          | .none => .misuse
      | .logLevel (some level) =>
          match options.withLogLevel? level with
          | some next => readCommand next rest
          | .none => .misuse
      | .settings .none =>
          match rest with
          | [] => .misuse
          | path :: rest =>
              if isValue path then
                match options.withSettings? path with
                | some next => readCommand next rest
                | .none => .misuse
              else .misuse
      | .logLevel .none =>
          match rest with
          | [] => .misuse
          | level :: rest =>
              if isValue level then
                match options.withLogLevel? level with
                | some next => readCommand next rest
                | .none => .misuse
              else .misuse
      | _ => .misuse

def Request.ofArguments (arguments : List String) : Request :=
  readCommand .none arguments

structure Surroundings where
  file : String → Option String
  input : Option String
  setting : String → Option String

structure Outcome where
  exitCode : Nat
  output : String
  error : Option String
deriving DecidableEq

inductive Failure where
  | unreadableSettings (path : String)
  | settings (error : SettingsError)
  | settingsJson (fault : Fault)
  | unreadableFile (path : String)
  | unreadableInput
  | notJson

def Failure.message : Failure → String
  | unreadableSettings path => s!"reading config {path}"
  | settings error => s!"Configuration error: {error.message}"
  | settingsJson fault => s!"JSON error: {fault.message}"
  | unreadableFile path => s!"reading {path}"
  | unreadableInput => "reading stdin"
  | notJson => "input is not valid JSON"

def settingsOf (surroundings : Surroundings) (path? : Option String) : Except Failure Settings :=
  match path? with
  | .none => (Settings.ofVariables surroundings.setting).mapError .settings
  | some path =>
      match surroundings.file path with
      | .none => .error (.unreadableSettings path)
      | some text =>
          match Settings.ofText text with
          | .ok settings => .ok settings
          | .error (.json fault) => .error (.settingsJson fault)
          | .error (.refused error) => .error (.settings error)

def standardInput (surroundings : Surroundings) : Except Failure String :=
  match surroundings.input with
  | some text => .ok text
  | .none => .error .unreadableInput

def inputOf (surroundings : Surroundings) (path? : Option String) : Except Failure String :=
  match path? with
  | .none => standardInput surroundings
  | some path =>
      if path = "-" then standardInput surroundings
      else
        match surroundings.file path with
        | some text => .ok text
        | .none => .error (.unreadableFile path)

def documentOf (text : String) : Except Failure Json :=
  match Json.ofText text with
  | .ok document => .ok document
  | .error _ => .error .notJson

def compileText (settings : Settings) (text : String) : Json :=
  Service.compile settings (.object [("source", .string text)])

def scoreGraph (settings : Settings) (graph : Json) : Json :=
  Service.score settings (.object [("tgir", graph)])

def replyTo (settings : Settings) (text : String) : Command → Except Failure Json
  | .compile => .ok (compileText settings text)
  | .score true =>
      let compiled := compileText settings text
      if Service.succeeded compiled then
        .ok (scoreGraph settings ((compiled.get? "tgir").getD .null))
      else .ok compiled
  | .score false => (documentOf text).map (scoreGraph settings)
  | .validate => (documentOf text).map (Service.validate settings)

def reply (surroundings : Surroundings) (invocation : Invocation) : Except Failure Json := do
  let settings ← settingsOf surroundings invocation.settings
  let text ← inputOf surroundings invocation.input
  replyTo settings text invocation.command

def usage : String :=
  "Usage: qeva [OPTIONS] <COMMAND>\n\nCommands: compile, score, validate, help\n"

/-- The run exits with 0 only for a reply that says ok, and with 2 for wrong arguments. -/
def run (surroundings : Surroundings) : Request → Outcome
  | .help => ⟨0, usage, .none⟩
  | .misuse => ⟨2, "", some usage⟩
  | .run invocation =>
      match reply surroundings invocation with
      | .error failure => ⟨1, "", some s!"Error: {failure.message}"⟩
      | .ok document =>
          ⟨if Service.succeeded document then 0 else 1, document.toPrettyText ++ "\n", .none⟩

end Authoring.CommandLine
