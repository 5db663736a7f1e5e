import Authoring.Json.NumberReader
import Authoring.Json.StringReader

/-! Reads JSON text into an outline, one token at a time, with a stack of open containers. -/

namespace Authoring.Json

inductive Token where
  | openArray
  | closeArray
  | openObject
  | closeObject
  | comma
  | colon
  | leaf (value : Outline)
  | cut (value : Outline)

def isSpace (c : Char) : Bool :=
  c == ' ' || c == '\n' || c == '\t' || c == '\r'

def wordToken (value : Outline) : List Char → List Char → Token × List Char
  | [], rest => (.leaf value, rest)
  | _, [] => (.cut (.flawed true .unfinished (some .unfinished)), [])
  | expected :: letters, c :: rest =>
      if c = expected then wordToken value letters rest
      else (.cut (.flawed true .malformed (some .malformed)), [])

theorem wordToken_length (value : Outline) (letters text : List Char) :
    (wordToken value letters text).2.length ≤ text.length := by
  fun_induction wordToken value letters text with
  | case1 | case2 | case4 => simp
  | case3 _ _ _ ih =>
      rw [List.length_cons]
      exact Nat.le_succ_of_le ih

/-- A numeral that stops too early is malformed for who passes over it. A numeral beyond the
greatest float is malformed only for who reads it. -/
def numberToken (text : List Char) : Token × List Char :=
  match scanNumeral text with
  | .error fault => (.cut (.flawed true fault (some .malformed)), [])
  | .ok (numeral, rest) =>
      match numeral.number? with
      | some value => (.leaf (.number value), rest)
      | none => (.leaf (.flawed true .malformed none), rest)

theorem numberToken_length (text : List Char) (nonempty : text ≠ []) :
    (numberToken text).2.length < text.length := by
  unfold numberToken
  split
  · exact List.length_pos_iff.mpr nonempty
  · rename_i found
    have shorter := scanNumeral_length found
    split <;> exact shorter

def stringToken (text : List Char) : Token × List Char :=
  match scanString text with
  | (codes, .closed rest) =>
      match joinSurrogates .malformed codes with
      | .ok value => (.leaf (.string (String.ofList value)), rest)
      | .error fault => (.leaf (.flawed false fault none), rest)
  | (codes, .broken fault) =>
      match joinSurrogates fault codes with
      | .ok _ => (.cut (.flawed false fault (some fault)), [])
      | .error first => (.cut (.flawed false first (some fault)), [])

theorem stringToken_length (text : List Char) : (stringToken text).2.length ≤ text.length := by
  unfold stringToken
  split
  · rename_i found
    have shorter := scanString_length (congrArg Prod.snd found)
    split <;> exact Nat.le_of_lt shorter
  · split <;> exact Nat.zero_le _

def punctuation? (c : Char) : Option Token :=
  if c = '[' then some .openArray
  else if c = ']' then some .closeArray
  else if c = '\x7b' then some .openObject
  else if c = '\x7d' then some .closeObject
  else if c = ',' then some .comma
  else if c = ':' then some .colon
  else none

def tokenAt (c : Char) (rest : List Char) : Token × List Char :=
  match punctuation? c with
  | some token => (token, rest)
  | none =>
      if c = '"' then stringToken rest
      else if c = 'n' then wordToken .null ['u', 'l', 'l'] rest
      else if c = 't' then wordToken (.bool true) ['r', 'u', 'e'] rest
      else if c = 'f' then wordToken (.bool false) ['a', 'l', 's', 'e'] rest
      else if c = '-' ∨ Decimal.isDigit c then numberToken (c :: rest)
      else (.cut (.missing .malformed), [])

theorem tokenAt_length (c : Char) (rest : List Char) :
    (tokenAt c rest).2.length ≤ rest.length := by
  unfold tokenAt
  repeat' split
  · exact Nat.le_refl _
  · exact stringToken_length rest
  · exact wordToken_length _ _ rest
  · exact wordToken_length _ _ rest
  · exact wordToken_length _ _ rest
  · exact Nat.le_of_lt_succ (numberToken_length (c :: rest) (List.cons_ne_nil c rest))
  · exact Nat.zero_le _

/-- A container that is still open, its elements newest first. An object waits for the value of a
member once the member's name is known. -/
inductive Frame where
  | array (deep : Bool) (items : List Outline)
  | object (deep : Bool) (members : List (Outline × Outline))
  | member (deep : Bool) (members : List (Outline × Outline)) (name : Outline)

namespace Frame

def push (value : Outline) : Frame → Frame
  | .array deep items => .array deep (value :: items)
  | .object deep members => .object deep members
  | .member deep members name => .object deep ((name, value) :: members)

def close (ending : Option Break) : Frame → Outline
  | .array deep items => .array deep items.reverse ending
  | .object deep members => .object deep members.reverse ending
  | .member deep members _ => .object deep members.reverse ending

end Frame

inductive Progress where
  | atValue (frames : List Frame)
  | atFirstItem (deep : Bool) (frames : List Frame)
  | atFirstName (deep : Bool) (frames : List Frame)
  | atName (deep : Bool) (members : List (Outline × Outline)) (frames : List Frame)
  | atColon (deep : Bool) (members : List (Outline × Outline)) (name : Outline)
      (frames : List Frame)
  | afterElement (frame : Frame) (frames : List Frame)
  | complete (root : Outline)
  | stopped (document : Outline.Document)

namespace Progress

def fill (value : Outline) : List Frame → Progress
  | [] => .complete value
  | frame :: frames => .afterElement (frame.push value) frames

def enclose (value : Outline) (frames : List Frame) : Outline.Document :=
  ⟨frames.foldl (fun inner frame => (frame.push inner).close none) value, false⟩

def stop (value : Outline) (frames : List Frame) : Progress :=
  .stopped (enclose value frames)

def isDeep (frames : List Frame) : Bool :=
  127 ≤ frames.length

def onValue (frames : List Frame) : Token → Progress
  | .openArray => .atFirstItem (isDeep frames) frames
  | .openObject => .atFirstName (isDeep frames) frames
  | .leaf value => fill value frames
  | .cut value => stop value frames
  | _ => stop (.missing .malformed) frames

def onName (deep : Bool) (members : List (Outline × Outline)) (frames : List Frame) :
    Token → Progress
  | .leaf (.string key) => .atColon deep members (.string key) frames
  | .leaf (.flawed false fault skip) => .atColon deep members (.flawed false fault skip) frames
  | .leaf stray => stop (.missing .malformed) (.member deep members stray :: frames)
  | .cut stray => stop (.missing .malformed) (.member deep members stray :: frames)
  | _ => stop (.missing .malformed) (.member deep members (.missing .malformed) :: frames)

def step : Progress → Token → Progress
  | .atValue frames, token => onValue frames token
  | .atFirstItem deep frames, .closeArray => fill (.array deep [] none) frames
  | .atFirstItem deep frames, token => onValue (.array deep [] :: frames) token
  | .atFirstName deep frames, .closeObject => fill (.object deep [] none) frames
  | .atFirstName deep frames, token => onName deep [] frames token
  | .atName deep members frames, token => onName deep members frames token
  | .atColon deep members key frames, .colon => .atValue (.member deep members key :: frames)
  | .atColon deep members key frames, _ =>
      stop (.missing .malformed) (.member deep members key :: frames)
  | .afterElement (.array deep items) frames, .comma => .atValue (.array deep items :: frames)
  | .afterElement (.array deep items) frames, .closeArray =>
      fill ((Frame.array deep items).close none) frames
  | .afterElement (.object deep members) frames, .comma => .atName deep members frames
  | .afterElement (.object deep members) frames, .closeObject =>
      fill ((Frame.object deep members).close none) frames
  | .afterElement frame frames, _ => stop (frame.close (some .malformed)) frames
  | .complete root, _ => .stopped ⟨root, true⟩
  | .stopped document, _ => .stopped document

def finish : Progress → Outline.Document
  | .atValue frames => enclose (.missing .unfinished) frames
  | .atFirstItem deep frames => enclose (.array deep [] (some .unfinished)) frames
  | .atFirstName deep frames => enclose (.object deep [] (some .unfinished)) frames
  | .atName deep members frames =>
      enclose (.missing .unfinished) (.member deep members (.missing .unfinished) :: frames)
  | .atColon deep members key frames =>
      enclose (.missing .unfinished) (.member deep members key :: frames)
  | .afterElement frame frames => enclose (frame.close (some .unfinished)) frames
  | .complete root => ⟨root, false⟩
  | .stopped document => document

end Progress

def scan (progress : Progress) (text : List Char) : Outline.Document :=
  match text with
  | [] => progress.finish
  | c :: rest =>
      if isSpace c then scan progress rest
      else scan (progress.step (tokenAt c rest).1) (tokenAt c rest).2
termination_by text.length
decreasing_by
  · simp
  · exact Nat.lt_succ_of_le (tokenAt_length c rest)

def outline (text : String) : Outline.Document :=
  scan (.atValue []) text.toList

def ofText (text : String) : Except Break Json := do
  let document := outline text
  let found ← document.root.read
  if document.trailing then .error .malformed else .ok found.sorted

end Authoring.Json
