import Authoring.Decimal.Reader
import Authoring.Text.Basic
import Authoring.Value.Basic

/-! Property literals. An object is a list of entries between braces; entries are cut at the commas
outside quotes and brackets, and whatever is nothing else is a string. -/

namespace Authoring.Literal

inductive Fault where
  | notAnObject (source : List Char)
  | malformedProperty (entry : List Char)
deriving DecidableEq

def Fault.message : Fault → String
  | notAnObject source => "invalid properties object: " ++ String.ofList source
  | malformedProperty entry => "malformed property: " ++ String.ofList entry

def isOpener (c : Char) : Bool :=
  c == '[' || c == '\x7b' || c == '('

def isCloser (c : Char) : Bool :=
  c == ']' || c == '\x7d' || c == ')'

structure Scan where
  depth : Nat
  quoted : Bool
deriving DecidableEq

namespace Scan

def start : Scan :=
  ⟨0, false⟩

def isTop (scan : Scan) : Bool :=
  scan.depth == 0 && !scan.quoted

/-- A closer without an opener is passed over. -/
def next (scan : Scan) (c : Char) : Scan :=
  if c = '"' then { scan with quoted := !scan.quoted }
  else if scan.quoted then scan
  else if isOpener c then { scan with depth := scan.depth + 1 }
  else if isCloser c then { scan with depth := scan.depth - 1 }
  else scan

end Scan

def piecesFrom (scan : Scan) : List Char → List Char × List (List Char)
  | [] => ([], [])
  | c :: rest =>
      if c = ',' ∧ scan.isTop = true then
        let (piece, later) := piecesFrom scan rest
        ([], piece :: later)
      else
        let (piece, later) := piecesFrom (scan.next c) rest
        (c :: piece, later)

def pieces (body : List Char) : List (List Char) :=
  if body.isEmpty then []
  else
    let (piece, later) := piecesFrom .start body
    piece :: later

def entries (body : List Char) : List (List Char) :=
  ((pieces body).map Text.trim).filter fun entry => !entry.isEmpty

def between? (opening closing : Char) : List Char → Option (List Char)
  | [] => none
  | c :: rest =>
      if c = opening ∧ rest.getLast? = some closing then some rest.dropLast else none

/-- Digits with an optional minus and an optional fraction. What fits a signed word and has no
fraction is an integer. -/
def number? (text : List Char) : Option Value :=
  let (negative, size) :=
    match text with
    | '-' :: size => (true, size)
    | size => (false, size)
  let whole := size.takeWhile Decimal.isDigit
  let float (count : Nat) (scale : Int) : Value :=
    .float (if negative then -(Decimal.nearest count scale) else Decimal.nearest count scale)
  if whole.isEmpty then none
  else
    match size.dropWhile Decimal.isDigit with
    | [] =>
        let value : Int := if negative then -Decimal.valueOf whole else Decimal.valueOf whole
        if -0x8000000000000000 ≤ value ∧ value < 0x8000000000000000 then some (.int (Int64.ofInt value))
        else some (float (Decimal.valueOf whole) 0)
    | '.' :: fraction =>
        if fraction.isEmpty || !fraction.all Decimal.isDigit then none
        else some (float (Decimal.valueOf (whole ++ fraction)) (-(fraction.length : Int)))
    | _ => none

theorem piecesFrom_length (scan : Scan) (body : List Char) :
    (piecesFrom scan body).1.length ≤ body.length ∧
      ∀ piece ∈ (piecesFrom scan body).2, piece.length ≤ body.length := by
  induction body generalizing scan with
  | nil => simp [piecesFrom]
  | cons c rest ih =>
      simp only [piecesFrom]
      split
      · obtain ⟨first, later⟩ := ih scan
        refine ⟨by simp, fun piece member => ?_⟩
        rcases List.mem_cons.mp member with same | member
        · rw [same]
          exact Nat.le_succ_of_le first
        · exact Nat.le_succ_of_le (later piece member)
      · obtain ⟨first, later⟩ := ih (scan.next c)
        exact ⟨Nat.succ_le_succ first, fun piece member => Nat.le_succ_of_le (later piece member)⟩

theorem entries_length {body entry : List Char} (member : entry ∈ entries body) :
    entry.length ≤ body.length := by
  obtain ⟨trimmed, _⟩ := List.mem_filter.mp member
  obtain ⟨piece, found, rfl⟩ := List.mem_map.mp trimmed
  refine Nat.le_trans (Text.trim_length piece) ?_
  unfold pieces at found
  split at found
  · simp at found
  · rcases List.mem_cons.mp found with same | later
    · rw [same]
      exact (piecesFrom_length _ _).1
    · exact (piecesFrom_length _ _).2 piece later

theorem between?_length {opening closing : Char} {text inner : List Char}
    (found : between? opening closing text = some inner) : inner.length < text.length := by
  cases text with
  | nil => simp [between?] at found
  | cons c rest =>
      simp only [between?] at found
      split at found
      · rw [← Option.some.inj found, List.length_dropLast, List.length_cons]
        omega
      · simp at found

def listEntries? (text : List Char) : Option (List (List Char)) :=
  (between? '[' ']' text).map fun inner => entries (Text.trim inner)

theorem listEntries?_length {text entry : List Char} {found : List (List Char)}
    (list : listEntries? text = some found) (member : entry ∈ found) :
    entry.length < text.length := by
  obtain ⟨inner, inside, rfl⟩ := Option.map_eq_some_iff.mp list
  have shorter := between?_length inside
  have trimmed := Text.trim_length inner
  have short := entries_length member
  omega

def value (text : List Char) : Value :=
  match between? '"' '"' text with
  | some inner => .string (String.ofList inner)
  | none =>
      if text = ['t', 'r', 'u', 'e'] then .bool true
      else if text = ['f', 'a', 'l', 's', 'e'] then .bool false
      else
        match number? text with
        | some number => number
        | none =>
            match list : listEntries? text with
            | some found =>
                .list (found.attach.map fun ⟨entry, member⟩ =>
                  have _ := listEntries?_length list member
                  value entry)
            | none => .string (String.ofList text)
termination_by text.length

def property (entry : List Char) : Except Fault (String × Value) :=
  let name := Text.trim (entry.takeWhile (· != ':'))
  match entry.dropWhile (· != ':') with
  | [] => .error (.malformedProperty entry)
  | _ :: text =>
      if name.isEmpty then .error (.malformedProperty entry)
      else .ok (String.ofList name, value (Text.trim text))

def body? (source : List Char) : Option (List Char) :=
  (between? '\x7b' '\x7d' (Text.trim source)).map Text.trim

def object (source : List Char) : Except Fault Properties :=
  match body? source with
  | none => .error (.notAnObject source)
  | some body => do
      let properties ← (entries body).mapM property
      return Fields.collect properties

end Authoring.Literal
