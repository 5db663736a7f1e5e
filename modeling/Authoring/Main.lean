import Authoring.CommandLine

/-! The program itself: it reads the files, the input and the variables, and prints the outcome. -/

namespace Authoring

def readText (path : String) : IO (Option String) := do
  try
    let text ← IO.FS.readFile path
    return some text
  catch _ => return none

def readInput : IO (Option String) := do
  try
    let stream ← IO.getStdin
    let text ← stream.readToEnd
    return some text
  catch _ => return none

open CommandLine in
def surroundingsOf (request : Request) : IO Surroundings := do
  let names :=
    match request with
    | .run invocation => invocation.settings.toList ++ invocation.input.toList
    | _ => []
  let texts ← names.mapM fun path => do
    let text ← readText path
    return (path, text)
  let input ←
    match request with
    | .run invocation =>
        if invocation.input.getD "-" = "-" then readInput else pure none
    | _ => pure none
  let environment ←
    [Settings.duplicatesVariable, Settings.failOpenVariable, Settings.capacityVariable,
      Settings.weightsVariable].mapM fun name => do
        let value ← IO.getEnv name
        return (name, value)
  return ⟨fun path => (Fields.get? path texts).join, input,
    fun name => (Fields.get? name environment).join⟩

end Authoring

open Authoring CommandLine in
def main (arguments : List String) : IO UInt32 := do
  let request := Request.ofArguments arguments
  let surroundings ← surroundingsOf request
  let outcome := run surroundings request
  IO.print outcome.output
  match outcome.error with
  | some message => IO.eprintln message
  | none => pure ()
  return outcome.exitCode.toUInt32
