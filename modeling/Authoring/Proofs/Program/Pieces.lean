import Mathlib
import Authoring.Proofs.Program.Cuts

/-! What the pieces of a body are. With the commas between them they are the body again, and none of
them comes apart any further. Two texts with a comma between them come apart there just if the first
one leaves neither quotes nor brackets open. -/

namespace Authoring.Literal

variable {passed text body front back : List Char} {parts more first second : List (List Char)}

theorem pieces_eq_cutFrom (nonempty : body ≠ []) : pieces body = cutFrom .start body := by
  rw [pieces, if_neg (by rwa [List.isEmpty_iff])]
  rfl

theorem over_of_isTop (top : IsTop passed) : Scan.start.over passed = .start := by
  rw [isTop_iff, Scan.isTop, Bool.and_eq_true, beq_iff_eq, Bool.not_eq_true'] at top
  obtain ⟨depth, quoted⟩ := top
  generalize Scan.start.over passed = scan at depth quoted
  cases scan
  cases depth
  cases quoted
  rfl

theorem isTop_append_iff (top : IsTop passed) : IsTop (passed ++ text) ↔ IsTop text := by
  rw [isTop_iff, isTop_iff, over_append, over_of_isTop top]

theorem isTop_comma_iff : IsTop (text ++ [',']) ↔ IsTop text := by
  rw [isTop_iff, isTop_iff, over_comma]

namespace IsCutBehind

theorem ne_nil (cut : IsCutBehind passed body parts) : parts ≠ [] := by
  cases cut <;> exact List.cons_ne_nil _ _

theorem joined (cut : IsCutBehind passed body parts) : [','].intercalate parts = body := by
  induction cut with
  | last uncut => exact List.intercalate_singleton
  | next uncut top later ih =>
      rw [List.intercalate_cons_of_ne_nil later.ne_nil, ih, List.append_assoc]
      rfl

theorem uncut (cut : IsCutBehind passed body parts) (top : IsTop passed) :
    ∀ part ∈ parts, IsUncut [] part := by
  have afresh {passed part : List Char} (top : IsTop passed) (uncut : IsUncut passed part) :
      IsUncut [] part := fun before behind same => by
    rw [List.nil_append, ← isTop_append_iff top]
    exact uncut before behind same
  induction cut with
  | last uncut => exact List.forall_mem_singleton.mpr (afresh top uncut)
  | next uncut ends later ih =>
      exact List.forall_mem_cons.mpr ⟨afresh top uncut, ih (isTop_comma_iff.mpr ends)⟩

theorem append (cut : IsCutBehind passed front parts) (top : IsTop (passed ++ front))
    (behind : IsCutBehind (passed ++ front ++ [',']) back more) :
    IsCutBehind passed (front ++ ',' :: back) (parts ++ more) := by
  induction cut with
  | last uncut => exact .next uncut top behind
  | next uncut ends later ih =>
      rw [List.append_assoc, List.cons_append, List.cons_append]
      refine .next uncut ends (ih ?_ ?_)
      · simpa using top
      · simpa using behind

theorem isTop (cut : IsCutBehind passed body (first ++ second)) (before : first ≠ [])
    (behind : second ≠ []) : IsTop (passed ++ [','].intercalate first) := by
  induction first generalizing passed body with
  | nil => exact absurd rfl before
  | cons piece rest ih =>
      generalize whole : piece :: rest ++ second = parts at cut
      cases cut with
      | last uncut =>
          obtain ⟨-, none⟩ := List.cons.inj whole
          exact absurd (List.append_eq_nil_iff.mp none).2 behind
      | next uncut top later =>
          obtain ⟨rfl, rfl⟩ := List.cons.inj whole
          by_cases last : rest = []
          · rwa [last, List.intercalate_singleton]
          · have onward := ih later last
            rwa [List.intercalate_cons_of_ne_nil last, ← List.append_assoc, ← List.append_assoc]

end IsCutBehind

theorem isCut_pieces (nonempty : body ≠ []) : IsCut body (pieces body) :=
  isCut_iff.mpr (pieces_eq_cutFrom nonempty)

theorem joined_pieces (body : List Char) : [','].intercalate (pieces body) = body := by
  by_cases empty : body = []
  · rw [empty]
    rfl
  · exact (isCut_pieces empty).joined

theorem pieces_of_mem_pieces (member : text ∈ pieces body) (nonempty : text ≠ []) :
    pieces text = [text] := by
  have some : body ≠ [] := by
    rintro rfl
    cases member
  have uncut := (isCut_pieces some).uncut (isTop_iff.mpr rfl) text member
  rw [pieces_eq_cutFrom nonempty, ← isCut_iff.mp (.last uncut)]

theorem pieces_append_iff (frontSome : front ≠ []) (backSome : back ≠ []) :
    pieces (front ++ ',' :: back) = pieces front ++ pieces back ↔ IsTop front := by
  have cut := isCut_pieces frontSome
  have some : front ++ ',' :: back ≠ [] := by simp
  rw [pieces_eq_cutFrom some, eq_comm, ← isCut_iff]
  constructor
  · intro apart
    have top := IsCutBehind.isTop apart cut.ne_nil (isCut_pieces backSome).ne_nil
    rwa [List.nil_append, joined_pieces] at top
  · intro top
    have behind := isCutBehind_cutFrom (front ++ [',']) back
    rw [over_comma, over_of_isTop top, ← pieces_eq_cutFrom backSome] at behind
    exact cut.append top behind

/-- The pieces of a body, joined by commas, are the body. No piece comes apart any further. A comma
between two texts cuts if and only if neither quotes nor brackets are open before it; then the
pieces are those of the two texts. -/
theorem pieces_cut (body : List Char) :
    [','].intercalate (pieces body) = body ∧
    (∀ piece ∈ pieces body, piece ≠ [] → pieces piece = [piece]) ∧
    ∀ front back, front ≠ [] → back ≠ [] →
      (pieces (front ++ ',' :: back) = pieces front ++ pieces back ↔ IsTop front) :=
  ⟨joined_pieces body, fun _ => pieces_of_mem_pieces, fun _ _ => pieces_append_iff⟩

def sampleFront : List Char :=
  "é]:\",(\",(b,c)".toList

def sampleBack : List Char :=
  ",[d".toList

theorem pieces_cut_of_sampleFront :
    sampleFront ≠ [] ∧ sampleBack ≠ [] ∧ IsTop sampleFront ∧
      pieces (sampleFront ++ ',' :: sampleBack) =
        ["é]:\",(\"".toList, "(b,c)".toList, [], "[d".toList] ∧
      pieces "(b,c)".toList = ["(b,c)".toList] := by
  have front : sampleFront ≠ [] := by decide
  have back : sampleBack ≠ [] := by decide
  have top : IsTop sampleFront := isTop_iff.mpr (by decide)
  obtain ⟨-, whole, apart⟩ := pieces_cut sampleFront
  refine ⟨front, back, top, (apart _ _ front back).mpr top, whole _ ?_ ?_⟩
  · decide
  · decide

end Authoring.Literal
