import Authoring.Graph.Basic
import Authoring.Program.Literal
import Authoring.Text.WordCharacter

/-! The statements of a program, one a line: nodes and edges. -/

namespace Authoring

inductive Statement where
  | node (node : Node)
  | edge (edge : Edge)

inductive Reason where
  | invalidEdge (line : List Char)
  | unknownEdgeType (name : UnknownName)
  | invalidStatement (line : List Char)
  | unclosedLabel (line : List Char)
  | missingLabel (line : List Char)
  | trailingTokens (tail : List Char)
  | invalidProperties (fault : Literal.Fault)
  | duplicateId (id : String)
deriving DecidableEq

def Reason.message : Reason → String
  | invalidEdge line => "invalid edge syntax: " ++ String.ofList line
  | unknownEdgeType name => name.message
  | invalidStatement line => "invalid statement: " ++ String.ofList line
  | unclosedLabel line => "unclosed label in: " ++ String.ofList line
  | missingLabel line => "missing label in: " ++ String.ofList line
  | trailingTokens tail => "unexpected trailing tokens: " ++ String.ofList tail
  | invalidProperties fault => fault.message
  | duplicateId id => "duplicate node id: " ++ id

namespace Statement

def isIdStart (c : Char) : Bool :=
  ('A' ≤ c && c ≤ 'Z') || ('a' ≤ c && c ≤ 'z') || ('0' ≤ c && c ≤ '9') || c == '_'

def isIdCharacter (c : Char) : Bool :=
  isIdStart c || c == '-'

def identifier? (text : List Char) : Option (List Char × List Char) :=
  match text with
  | [] => none
  | c :: _ =>
      if isIdStart c then some (text.takeWhile isIdCharacter, text.dropWhile isIdCharacter)
      else none

def after? : List Char → List Char → Option (List Char)
  | [], text => some text
  | _, [] => none
  | letter :: letters, c :: rest => if c = letter then after? letters rest else none

def blanks? (text : List Char) : Option (List Char) :=
  match text with
  | [] => none
  | c :: _ => if Text.isBlank c then some (Text.trimStart text) else none

/-- An identifier and the arrow behind it. A hyphen right before `>` belongs to the arrow. -/
def arrowSource? (text : List Char) : Option (List Char × List Char) := do
  let (id, rest) ← identifier? text
  match after? ['-', '>'] (Text.trimStart rest) with
  | some rest => return (id, rest)
  | none =>
      let rest ← after? ['>'] rest
      if id.getLast? = some '-' ∧ 2 ≤ id.length then return (id.dropLast, rest) else none

def edgeParts? (line : List Char) : Option (List Char × List Char × List Char) := do
  let rest ← after? ['e', 'd', 'g', 'e'] line
  let rest ← blanks? rest
  let (source, rest) ← arrowSource? rest
  let (target, rest) ← identifier? (Text.trimStart rest)
  let rest ← after? [':'] (Text.trimStart rest)
  let rest := Text.trimStart rest
  let type := rest.takeWhile Text.isWordCharacter
  let tail := rest.dropWhile Text.isWordCharacter
  if type.isEmpty || !tail.all Text.isBlank then none else return (source, target, type)

def edgeOf (line : List Char) : Except Reason Edge :=
  match edgeParts? line with
  | none => .error (.invalidEdge line)
  | some (source, target, type) =>
      match EdgeType.ofName (String.ofList type) with
      | .ok type => .ok ⟨String.ofList source, String.ofList target, type⟩
      | .error unknown => .error (.unknownEdgeType unknown)

def head? (line : List Char) : Option (NodeType × List Char × List Char) := do
  let keyword := line.takeWhile fun c => !Text.isBlank c
  let type ← NodeType.ofKeyword? (String.ofList keyword)
  let rest ← blanks? (line.dropWhile fun c => !Text.isBlank c)
  let (id, rest) ← identifier? rest
  if rest.isEmpty || (blanks? rest).isSome then return (type, id, Text.trim rest) else none

/-- A label in quotes or a bare word, and the text behind it, which must not have a line feed. -/
def label? (text : List Char) : Option (List Char × List Char) := do
  let (label, rest) ←
    match text with
    | '"' :: quoted =>
        match quoted.takeWhile (· != '"'), quoted.dropWhile (· != '"') with
        | [], _ => none
        | _, [] => none
        | label, _ :: rest => some (label, rest)
    | bare => identifier? bare
  let tail := Text.trimStart rest
  if tail.contains '\n' then none else return (label, tail)

def propertiesOf (tail : List Char) : Except Reason Properties :=
  match tail with
  | [] => .ok []
  | '\x7b' :: _ =>
      match Literal.object tail with
      | .ok properties => .ok properties
      | .error fault => .error (.invalidProperties fault)
  | ':' :: '=' :: expression =>
      let expression := Text.trim expression
      if expression.isEmpty then .ok []
      else .ok [("expr", .string (String.ofList expression))]
  | _ => .error (.trailingTokens tail)

def nodeOf (line : List Char) : Except Reason Node :=
  match head? line with
  | none => .error (.invalidStatement line)
  | some (type, id, rest) =>
      match label? rest with
      | none =>
          if rest.head? = some '"' then .error (.unclosedLabel line)
          else .error (.missingLabel line)
      | some (label, tail) => do
          let properties ← propertiesOf (Text.trim tail)
          return ⟨String.ofList id, type, String.ofList label, properties⟩

def parse (line : List Char) : Except Reason Statement :=
  match (after? ['e', 'd', 'g', 'e'] line).bind blanks? with
  | some _ => (edgeOf line).map .edge
  | none => (nodeOf line).map .node

end Statement

end Authoring
