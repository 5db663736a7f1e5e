/-! Named fields in a definite order, with at most one value a name, and which entries of a list
come more than once. -/

namespace Authoring

abbrev Fields (α : Type) := List (String × α)

namespace Fields

variable {α : Type}

def keys (fields : Fields α) : List String :=
  fields.map Prod.fst

def get? (key : String) : Fields α → Option α
  | [] => none
  | (name, value) :: rest => if name = key then some value else get? key rest

/-- A new name goes to the end; a known one keeps its place and takes the new value. -/
def insert (key : String) (value : α) : Fields α → Fields α
  | [] => [(key, value)]
  | (name, old) :: rest =>
      if name = key then (key, value) :: rest else (name, old) :: insert key value rest

/-- A new name goes before the first greater one; a known one takes the new value. Names are
compared code point by code point. -/
def insertOrdered (key : String) (value : α) : Fields α → Fields α
  | [] => [(key, value)]
  | (name, old) :: rest =>
      if name = key then (key, value) :: rest
      else if key < name then (key, value) :: (name, old) :: rest
      else (name, old) :: insertOrdered key value rest

/-- Repeated names joined into one: the place of the first, the value of the last. -/
def collect (pairs : List (String × α)) : Fields α :=
  pairs.foldl (fun fields pair => insert pair.1 pair.2 fields) []

def ordered (pairs : List (String × α)) : Fields α :=
  pairs.foldl (fun fields pair => insertOrdered pair.1 pair.2 fields) []

end Fields

section Repeats

variable {α : Type} [BEq α]

/-- An entry is reported where it comes for the second time; `seen` holds all entries before. -/
def repeatsFrom (seen : List α) : List α → List α
  | [] => []
  | entry :: rest =>
      if seen.count entry = 1 then entry :: repeatsFrom (entry :: seen) rest
      else repeatsFrom (entry :: seen) rest

def repeats (entries : List α) : List α :=
  repeatsFrom [] entries

end Repeats

end Authoring
