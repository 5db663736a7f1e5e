/-! Sets of characters, white space as Unicode has it, and what it means to trim a text, to count
its words and to cut it into lines. -/

namespace Authoring.Text

abbrev Ranges := List (Nat × Nat)

def Ranges.contains (ranges : Ranges) (c : Char) : Bool :=
  ranges.any fun range => range.1 ≤ c.toNat && c.toNat ≤ range.2

/-- The 25 characters with the property White_Space. -/
def isBlank (c : Char) : Bool :=
  let code := c.toNat
  (9 ≤ code && code ≤ 13) || code == 32 || code == 0x85 || code == 0xA0 || code == 0x1680 ||
    (0x2000 ≤ code && code ≤ 0x200A) || code == 0x2028 || code == 0x2029 || code == 0x202F ||
    code == 0x205F || code == 0x3000

def trimStart (text : List Char) : List Char :=
  text.dropWhile isBlank

def trimEnd (text : List Char) : List Char :=
  (text.reverse.dropWhile isBlank).reverse

def trim (text : List Char) : List Char :=
  trimEnd (trimStart text)

theorem trim_length (text : List Char) : (trim text).length ≤ text.length := by
  unfold trim trimEnd trimStart
  rw [List.length_reverse]
  refine Nat.le_trans (List.dropWhile_sublist _).length_le ?_
  rw [List.length_reverse]
  exact (List.dropWhile_sublist _).length_le

/-- Words are the longest runs without a blank, so each is counted where it ends. -/
def countWords : List Char → Nat
  | [] => 0
  | [last] => if isBlank last then 0 else 1
  | c :: next :: rest =>
      (if !isBlank c && isBlank next then 1 else 0) + countWords (next :: rest)

def wordCount (text : String) : Nat :=
  countWords text.toList

/-- A line feed ends a line, so a final one opens no further line. -/
def lines : List Char → List (List Char)
  | [] => []
  | c :: rest =>
      if c = '\n' then [] :: lines rest
      else
        match lines rest with
        | [] => [[c]]
        | line :: later => (c :: line) :: later

end Authoring.Text
