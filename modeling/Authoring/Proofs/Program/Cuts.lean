import Mathlib
import Authoring.Proofs.Program.Scanning
import Authoring.Proofs.Text.Runs

/-! Where literals are cut. A comma is a cut if an even number of quotes stands before it and no
bracket outside these quotes is still open. There is one way only to cut a text, and the blanks
around it do not matter to its entries. -/

namespace Authoring.Literal

def unquoted (inside : Bool) : List Char → List Char
  | [] => []
  | c :: rest =>
      if c = '"' then unquoted (!inside) rest
      else if inside then unquoted inside rest
      else c :: unquoted inside rest

def openBrackets (depth : Nat) : List Char → Nat
  | [] => depth
  | c :: rest =>
      openBrackets (if isOpener c then depth + 1 else if isCloser c then depth - 1 else depth) rest

/-- What follows the text stands outside quotes and brackets. -/
def IsTop (text : List Char) : Prop :=
  Even (text.count '"') ∧ openBrackets 0 (unquoted false text) = 0

def IsUncut (passed piece : List Char) : Prop :=
  ∀ before behind, piece = before ++ ',' :: behind → ¬IsTop (passed ++ before)

/-- The pieces of a text between the commas at the top, counted from the start of what was passed
before the text. -/
inductive IsCutBehind : List Char → List Char → List (List Char) → Prop
  | last {passed piece : List Char} (uncut : IsUncut passed piece) :
      IsCutBehind passed piece [piece]
  | next {passed piece rest : List Char} {parts : List (List Char)} (uncut : IsUncut passed piece)
      (top : IsTop (passed ++ piece)) (later : IsCutBehind (passed ++ piece ++ [',']) rest parts) :
      IsCutBehind passed (piece ++ ',' :: rest) (piece :: parts)

/-- The parts are what commas outside quotes and brackets cut the body into. -/
def IsCut (body : List Char) (parts : List (List Char)) : Prop :=
  IsCutBehind [] body parts

/-! The scan -/

def Scan.over (scan : Scan) (text : List Char) : Scan :=
  text.foldl Scan.next scan

section Over

variable {scan : Scan} {passed text piece : List Char}

theorem over_append (scan : Scan) (text more : List Char) :
    scan.over (text ++ more) = (scan.over text).over more :=
  List.foldl_append

theorem over_eq (scan : Scan) (text : List Char) :
    (scan.over text).depth = openBrackets scan.depth (unquoted scan.quoted text) ∧
      ((scan.over text).quoted = scan.quoted ↔ Even (text.count '"')) := by
  induction text generalizing scan with
  | nil => simp [Scan.over, openBrackets, unquoted]
  | cons c rest ih =>
      obtain ⟨depth, quoted⟩ := ih (scan.next c)
      rw [show scan.over (c :: rest) = (scan.next c).over rest from rfl, depth]
      by_cases quote : c = '"'
      · subst quote
        have toggled : ((scan.next '"').over rest).quoted = scan.quoted ↔
            ¬Even (rest.count '"') := by
          rw [← quoted]
          cases ((scan.next '"').over rest).quoted <;> cases held : scan.quoted <;>
            simp [Scan.next, held]
        rw [toggled, List.count_cons_self, Nat.even_add_one]
        simp [Scan.next, unquoted]
      · have kept : (scan.next c).quoted = scan.quoted := by
          simp only [Scan.next, quote, if_false]
          split_ifs <;> rfl
        rw [kept] at quoted ⊢
        rw [quoted, List.count_cons_of_ne quote]
        refine ⟨?_, Iff.rfl⟩
        cases held : scan.quoted with
        | true => simp [Scan.next, unquoted, quote, held]
        | false =>
            simp only [Scan.next, unquoted, quote, held, if_false, openBrackets, Bool.false_eq_true]
            split_ifs <;> rfl

theorem isTop_iff : IsTop text ↔ (Scan.start.over text).isTop = true := by
  obtain ⟨depth, quoted⟩ := over_eq .start text
  simp only [IsTop, Scan.isTop, Bool.and_eq_true, beq_iff_eq, Bool.not_eq_true', depth, ← quoted]
  exact and_comm

theorem over_comma (scan : Scan) (text : List Char) :
    scan.over (text ++ [',']) = scan.over text := by
  rw [over_append]
  simp [Scan.over, Scan.next, isOpener, isCloser]

theorem passes_of_isUncut (uncut : IsUncut passed piece) :
    Passes (Scan.start.over passed) piece (Scan.start.over (passed ++ piece)) := by
  induction piece generalizing passed with
  | nil =>
      rw [List.append_nil]
      exact passes_nil
  | cons c rest ih =>
      have kept : c ≠ ',' ∨ (Scan.start.over passed).isTop = false := by
        by_cases comma : c = ','
        · subst comma
          have notTop := uncut [] rest rfl
          rw [List.append_nil, isTop_iff, Bool.not_eq_true] at notTop
          exact .inr notTop
        · exact .inl comma
      have later : IsUncut (passed ++ [c]) rest := by
        rintro before behind rfl
        rw [List.append_assoc]
        exact uncut (c :: before) behind rfl
      refine Passes.cons kept ?_
      have passes := ih later
      rw [over_append, List.append_assoc] at passes
      exact passes

def cutFrom (scan : Scan) (body : List Char) : List (List Char) :=
  (piecesFrom scan body).1 :: (piecesFrom scan body).2

theorem cutFrom_comma (top : scan.isTop = true) (rest : List Char) :
    cutFrom scan (',' :: rest) = [] :: cutFrom scan rest := by
  rw [cutFrom, piecesFrom, if_pos ⟨rfl, top⟩]
  rfl

theorem Passes.cutFrom {after : Scan} (passes : Passes scan text after) (rest : List Char) :
    cutFrom scan (text ++ rest) = (cutFrom after rest).modifyHead (text ++ ·) := by
  rw [Literal.cutFrom, passes rest]
  rfl

theorem cutFrom_of_isCutBehind {body : List Char} {parts : List (List Char)}
    (cut : IsCutBehind passed body parts) : parts = cutFrom (Scan.start.over passed) body := by
  induction cut with
  | @last passed piece uncut =>
      have whole := (passes_of_isUncut uncut).cutFrom []
      rw [List.append_nil] at whole
      rw [whole]
      simp [cutFrom, piecesFrom]
  | @next passed piece rest parts uncut top later ih =>
      rw [(passes_of_isUncut uncut).cutFrom, cutFrom_comma (isTop_iff.mp top), ih, over_comma,
        List.modifyHead_cons, List.append_nil]

theorem isUncut_nil (passed : List Char) : IsUncut passed [] := by
  intro before behind same
  simp at same

theorem IsUncut.cons {c : Char} (kept : ¬(c = ',' ∧ IsTop passed))
    (uncut : IsUncut (passed ++ [c]) piece) : IsUncut passed (c :: piece) := by
  intro before behind same
  cases before with
  | nil =>
      obtain ⟨comma, -⟩ := List.cons.inj same
      rw [List.append_nil]
      exact fun top => kept ⟨comma, top⟩
  | cons first front =>
      obtain ⟨rfl, rest⟩ := List.cons.inj same
      have notTop := uncut front behind rest
      rwa [List.append_assoc] at notTop

theorem IsCutBehind.cons {c : Char} {body : List Char} {parts : List (List Char)}
    (kept : ¬(c = ',' ∧ IsTop passed)) (cut : IsCutBehind (passed ++ [c]) body (piece :: parts)) :
    IsCutBehind passed (c :: body) ((c :: piece) :: parts) := by
  cases cut with
  | last uncut => exact .last (uncut.cons kept)
  | next uncut top later =>
      rw [List.append_assoc passed, List.singleton_append] at top later
      exact .next (uncut.cons kept) top later

theorem isCutBehind_cutFrom (passed body : List Char) :
    IsCutBehind passed body (cutFrom (Scan.start.over passed) body) := by
  induction body generalizing passed with
  | nil => exact .last (isUncut_nil passed)
  | cons c rest ih =>
      have later := ih (passed ++ [c])
      by_cases comma : c = ',' ∧ (Scan.start.over passed).isTop = true
      · obtain ⟨rfl, top⟩ := comma
        rw [cutFrom_comma top, ← over_comma]
        refine IsCutBehind.next (isUncut_nil passed) ?_ ?_
        · rwa [List.append_nil, isTop_iff]
        · rwa [List.append_nil]
      · rw [cutFrom, piecesFrom, if_neg comma]
        rw [over_append] at later
        exact later.cons (by rwa [isTop_iff])

theorem isCut_iff {body : List Char} {parts : List (List Char)} :
    IsCut body parts ↔ parts = cutFrom .start body := by
  constructor
  · exact cutFrom_of_isCutBehind
  · rintro rfl
    exact isCutBehind_cutFrom [] body

end Over

/-! Entries -/

open Text (AllBlank)

variable {body gap : List Char}

theorem entries_eq (body : List Char) : entries body =
    ((cutFrom .start body).map Text.trim).filter fun entry => !entry.isEmpty := by
  cases body with
  | nil => rfl
  | cons c rest => rfl

theorem isNeutral_of_isBlank {c : Char} (blank : Text.isBlank c = true) : isNeutral c = true := by
  have differs : ∀ other : Char, Text.isBlank other = false → c ≠ other := by
    rintro other visible rfl
    rw [blank] at visible
    cases visible
  simp [isNeutral, isOpener, isCloser, differs '"' (by decide), differs ',' (by decide),
    differs '[' (by decide), differs '\x7b' (by decide), differs '(' (by decide),
    differs ']' (by decide), differs '\x7d' (by decide), differs ')' (by decide)]

theorem entries_allBlank_append (blank : AllBlank gap) (body : List Char) :
    entries (gap ++ body) = entries body := by
  have passes : Passes .start gap .start :=
    passes_neutral fun c member => isNeutral_of_isBlank (blank c member)
  rw [entries_eq, entries_eq, passes.cutFrom, cutFrom, List.modifyHead_cons, List.map_cons,
    List.map_cons, Text.trim_allBlank_append blank]

theorem cutFrom_append_allBlank (blank : AllBlank gap) (scan : Scan) (body : List Char) :
    (cutFrom scan (body ++ gap)).map Text.trimEnd = (cutFrom scan body).map Text.trimEnd := by
  induction body generalizing scan with
  | nil =>
      have passes : Passes scan gap scan :=
        passes_neutral fun c member => isNeutral_of_isBlank (blank c member)
      have whole := passes.cutFrom []
      rw [List.append_nil] at whole
      rw [List.nil_append, whole]
      simpa [cutFrom, piecesFrom] using Text.trimEnd_allBlank blank []
  | cons c rest ih =>
      by_cases comma : c = ',' ∧ scan.isTop = true
      · obtain ⟨rfl, top⟩ := comma
        rw [List.cons_append, cutFrom_comma top, cutFrom_comma top, List.map_cons, List.map_cons, ih]
      · have later := ih (scan.next c)
        simp only [cutFrom, List.map_cons, List.cons.injEq] at later
        rw [List.cons_append, cutFrom, cutFrom, piecesFrom, piecesFrom, if_neg comma, if_neg comma,
          List.map_cons, List.map_cons, later.2, Text.trimEnd_cons, later.1, ← Text.trimEnd_cons]

theorem entries_trim (body : List Char) : entries (Text.trim body) = entries body := by
  obtain ⟨before, behind, beforeBlank, behindBlank, whole⟩ := Text.exists_trim body
  conv_rhs => rw [whole, List.append_assoc, entries_allBlank_append beforeBlank, entries_eq]
  have trims (parts : List (List Char)) :
      parts.map Text.trim = (parts.map Text.trimEnd).map Text.trim := by
    rw [List.map_map]
    exact List.map_congr_left fun part _ => (Text.trim_trimEnd part).symm
  rw [trims, cutFrom_append_allBlank behindBlank, ← trims, entries_eq]

end Authoring.Literal
