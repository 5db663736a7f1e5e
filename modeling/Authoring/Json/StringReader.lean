import Authoring.Json.Outline

/-! Strings in JSON text, with their escapes. -/

namespace Authoring.Json

inductive StringEnd where
  | closed (rest : List Char)
  | broken (fault : Break)

def hexValue? (c : Char) : Option Nat :=
  if '0' ≤ c ∧ c ≤ '9' then some (c.toNat - '0'.toNat)
  else if 'a' ≤ c ∧ c ≤ 'f' then some (c.toNat - 'a'.toNat + 10)
  else if 'A' ≤ c ∧ c ≤ 'F' then some (c.toNat - 'A'.toNat + 10)
  else none

def hexCode? (digits : List Char) : Option Nat :=
  digits.foldlM (fun code c => (hexValue? c).map (code * 16 + ·)) 0

def escapeCode? (c : Char) : Option Nat :=
  if c = '"' ∨ c = '\\' ∨ c = '/' then some c.toNat
  else if c = 'b' then some 8
  else if c = 't' then some 9
  else if c = 'n' then some 10
  else if c = 'f' then some 12
  else if c = 'r' then some 13
  else none

/-- A bad escape is malformed only if four bytes are left to hold it. -/
def badEscape (rest : List Char) : Break :=
  if (String.ofList rest).utf8ByteSize < 4 then .unfinished else .malformed

def withCode (code : Nat) (scan : List Nat × StringEnd) : List Nat × StringEnd :=
  (code :: scan.1, scan.2)

def scanString : List Char → List Nat × StringEnd
  | [] => ([], .broken .unfinished)
  | c :: rest =>
      if c = '"' then ([], .closed rest)
      else if c = '\\' then
        match rest with
        | [] => ([], .broken .unfinished)
        | mark :: rest =>
            if mark = 'u' then
              match rest with
              | a :: b :: c :: d :: later =>
                  match hexCode? [a, b, c, d] with
                  | some code => withCode code (scanString later)
                  | none => ([], .broken .malformed)
              | short => ([], .broken (badEscape short))
            else
              match escapeCode? mark with
              | some code => withCode code (scanString rest)
              | none => ([], .broken .malformed)
      else if c.toNat < 0x20 then ([], .broken .malformed)
      else withCode c.toNat (scanString rest)

theorem scanString_length {text rest : List Char}
    (scan : (scanString text).2 = .closed rest) : rest.length < text.length := by
  fun_induction scanString text with
  | case1 | case3 | case5 | case6 | case8 | case9 => nomatch scan
  | case2 =>
      injection scan with same
      simp [same]
  | case4 _ _ _ _ _ _ _ _ ih => exact Nat.lt_add_right 6 (ih scan)
  | case7 _ _ _ _ _ _ ih => exact Nat.lt_add_right 2 (ih scan)
  | case10 _ _ _ _ _ ih => exact Nat.lt_succ_of_lt (ih scan)

def isHighSurrogate (code : Nat) : Bool :=
  0xD800 ≤ code && code ≤ 0xDBFF

def isLowSurrogate (code : Nat) : Bool :=
  0xDC00 ≤ code && code ≤ 0xDFFF

/-- Two surrogates make one character. One alone is malformed, except that `atEnd` is the fault of
one that stands last. -/
def joinSurrogates (atEnd : Break) : List Nat → Except Break (List Char)
  | [] => .ok []
  | code :: rest =>
      if isLowSurrogate code then .error .malformed
      else if isHighSurrogate code then
        match rest with
        | [] => .error atEnd
        | low :: later =>
            if isLowSurrogate low then do
              let text ← joinSurrogates atEnd later
              return Char.ofNat ((code - 0xD800) * 0x400 + (low - 0xDC00) + 0x10000) :: text
            else .error .malformed
      else do
        let text ← joinSurrogates atEnd rest
        return Char.ofNat code :: text

end Authoring.Json
