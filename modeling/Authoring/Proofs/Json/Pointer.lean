import Mathlib
import Authoring.Json.Basic
import Authoring.Proofs.Decimal.Digits
import Authoring.Proofs.Fields

/-! JSON pointers. Such a text has a slash before each segment, and the segments lead from a
document to a value inside it: by name through objects, by position through arrays. -/

namespace Authoring

namespace Pointer

/-- Within a segment, `~1` stands for a slash and `~0` for a tilde. -/
def unescape : List Char → List Char
  | '~' :: '1' :: rest => '/' :: unescape rest
  | '~' :: '0' :: rest => '~' :: unescape rest
  | c :: rest => c :: unescape rest
  | [] => []

/-- The segments of a pointer. Without any, it leads to the whole document. -/
def segments? (text : String) : Option (List String) :=
  match text.toList with
  | [] => some []
  | '/' :: rest => some ((rest.splitOn '/').map fun segment => String.ofList (unescape segment))
  | _ => none

def position? (segment : String) : Option Nat :=
  let digits := segment.toList
  if digits ≠ [] ∧ digits.all Decimal.isDigit = true ∧ (digits.head? = some '0' → digits.length = 1)
  then some (Decimal.valueOf digits)
  else none

def follow? {α : Type} (inner? : String → α → Option α) : List String → α → Option α
  | [], start => some start
  | segment :: rest, start => (inner? segment start).bind (follow? inner? rest)

def IsPlain (segment : String) : Prop :=
  '/' ∉ segment.toList ∧ '~' ∉ segment.toList

instance (segment : String) : Decidable (IsPlain segment) :=
  inferInstanceAs (Decidable (_ ∧ _))

theorem unescape_plain {segment : List Char} (plain : '~' ∉ segment) :
    unescape segment = segment := by
  induction segment with
  | nil => rfl
  | cons c rest ih =>
      obtain ⟨different, later⟩ := not_or.mp (mt List.mem_cons.mpr plain)
      conv_lhs => unfold unescape
      split
      · rename_i same
        exact absurd (List.cons.inj same).1.symm different
      · rename_i same
        exact absurd (List.cons.inj same).1.symm different
      · rename_i same
        obtain ⟨rfl, rfl⟩ := List.cons.inj same
        rw [ih later]
      · rename_i same
        cases same

theorem segments?_of_toList {text : String} {segments : List String}
    (plain : ∀ segment ∈ segments, IsPlain segment)
    (written : text.toList = segments.flatMap fun segment => '/' :: segment.toList) :
    segments? text = some segments := by
  have joined : ∀ (first : String) (rest : List String),
      (first :: rest).flatMap (fun segment => '/' :: segment.toList) =
        '/' :: ['/'].intercalate ((first :: rest).map String.toList) := by
    intro first rest
    induction rest generalizing first with
    | nil => simp [List.intercalate]
    | cons second rest ih =>
        rw [List.flatMap_cons, ih]
        simp [List.intercalate]
  cases segments with
  | nil => simp [segments?, written]
  | cons first rest =>
      have parts : ∀ part ∈ (first :: rest).map String.toList, '/' ∉ part := by
        simpa using fun segment member => (plain segment member).1
      have back : ∀ segment ∈ first :: rest, String.ofList (unescape segment.toList) = segment := by
        intro segment member
        rw [unescape_plain (plain segment member).2, String.ofList_toList]
      rw [joined] at written
      simp only [segments?, written]
      rw [List.splitOn_intercalate '/' parts (by simp), List.map_map]
      exact congrArg some ((List.map_congr_left back).trans (List.map_id' _))

theorem toString_plain (position : Nat) : IsPlain (toString position) := by
  refine ⟨fun member => ?_, fun member => ?_⟩
  · exact absurd (Decimal.isDigit_of_mem_toString member) (by decide)
  · exact absurd (Decimal.isDigit_of_mem_toString member) (by decide)

theorem position?_toString (position : Nat) : position? (toString position) = some position := by
  have digits := Decimal.toList_toString position
  have canonical : (Nat.toDigits 10 position).head? = some '0' →
      (Nat.toDigits 10 position).length = 1 := by
    intro zero
    rcases Nat.eq_zero_or_pos position with rfl | positive
    · rfl
    · exact absurd zero (Decimal.toDigits_head_ne_zero positive)
  have all : (Nat.toDigits 10 position).all Decimal.isDigit = true :=
    List.all_eq_true.mpr fun c member => Decimal.isDigit_of_mem_toDigits member
  simp only [position?, digits]
  rw [if_pos ⟨Nat.toDigits_ne_nil, all, canonical⟩, Decimal.valueOf_toDigits]

theorem toString_injective {one other : Nat} (same : toString one = toString other) :
    one = other := by
  have positions := congrArg position? same
  rw [position?_toString, position?_toString] at positions
  exact Option.some.inj positions

end Pointer

namespace Json

def inner? (segment : String) : Json → Option Json
  | .object held => Fields.get? segment held
  | .array items => (Pointer.position? segment).bind fun position => items[position]?
  | _ => none

def pointer? (text : String) (document : Json) : Option Json :=
  (Pointer.segments? text).bind fun segments => Pointer.follow? inner? segments document

end Json

end Authoring
