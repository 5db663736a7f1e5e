import Authoring.Program.Statement

/-! Compiles programs into graphs. The first line that is refused ends the compilation. -/

namespace Authoring

structure CompileOptions where
  allowDuplicateIds : Bool
deriving DecidableEq

def CompileOptions.default : CompileOptions :=
  ⟨false⟩

/-- The refused line, without the blanks around it, and its number, counted from one. -/
structure CompileError where
  lineNumber : Nat
  line : List Char
  reason : Reason
deriving DecidableEq

def CompileError.message (error : CompileError) : String :=
  s!"QGL syntax error on line {error.lineNumber}: {error.reason.message}"

namespace Program

def isSilent (line : List Char) : Bool :=
  match line with
  | [] => true
  | '/' :: '/' :: _ => true
  | _ => false

/-- The statements of some lines. `declared` holds the ids of the nodes before them, and `number`
is the number of the first line. -/
def statements (options : CompileOptions) (declared : List String) (number : Nat) :
    List (List Char) → Except CompileError (List Statement)
  | [] => .ok []
  | raw :: rest =>
      let line := Text.trim raw
      if isSilent line then statements options declared (number + 1) rest
      else
        match Statement.parse line with
        | .error reason => .error ⟨number, line, reason⟩
        | .ok (.edge edge) => do
            let later ← statements options declared (number + 1) rest
            return .edge edge :: later
        | .ok (.node node) =>
            if node.id ∈ declared ∧ options.allowDuplicateIds = false then
              .error ⟨number, line, .duplicateId node.id⟩
            else do
              let later ← statements options (node.id :: declared) (number + 1) rest
              return .node node :: later

end Program

def Statement.node? : Statement → Option Node
  | .node declared => some declared
  | .edge _ => none

def Statement.edge? : Statement → Option Edge
  | .node _ => none
  | .edge link => some link

def Graph.ofStatements (statements : List Statement) : Graph :=
  ⟨statements.filterMap Statement.node?, statements.filterMap Statement.edge?,
    some Graph.schemaId⟩

def compile (options : CompileOptions) (source : String) : Except CompileError Graph := do
  let statements ← Program.statements options [] 1 (Text.lines source.toList)
  return Graph.ofStatements statements

end Authoring
