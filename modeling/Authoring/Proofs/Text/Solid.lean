import Mathlib
import Authoring.Text.Basic

/-! Texts that trimming leaves alone, and texts put together from lines. -/

namespace Authoring.Text

structure Solid (text : List Char) : Prop where
  first : ∃ c rest, text = c :: rest ∧ isBlank c = false
  last : ∃ c before, text = before ++ [c] ∧ isBlank c = false

variable {text left right : List Char} {c : Char}

theorem isBlank_of_isDigit (digit : c.isDigit = true) : isBlank c = false := by
  obtain ⟨least, greatest⟩ : 48 ≤ c.toNat ∧ c.toNat ≤ 57 := Char.isDigit_iff_toNat.mp digit
  simp only [isBlank, Bool.or_eq_false_iff, Bool.and_eq_false_iff, decide_eq_false_iff_not,
    beq_eq_false_iff_ne]
  omega

theorem Solid.nonempty (solid : Solid text) : text ≠ [] := by
  obtain ⟨c, rest, rfl, _⟩ := solid.first
  exact List.cons_ne_nil c rest

theorem trimStart_of_first (first : ∃ c rest, text = c :: rest ∧ isBlank c = false) :
    trimStart text = text := by
  obtain ⟨c, rest, rfl, visible⟩ := first
  rw [trimStart, List.dropWhile_cons_of_neg (by simp [visible])]

theorem Solid.trim (solid : Solid text) : trim text = text := by
  rw [Text.trim, trimStart_of_first solid.first, trimEnd]
  obtain ⟨c, before, rfl, visible⟩ := solid.last
  rw [List.reverse_append, List.reverse_singleton, List.singleton_append,
    List.dropWhile_cons_of_neg (by simp [visible]), List.reverse_cons, List.reverse_reverse]

theorem trim_cons (blank : isBlank c = true) : trim (c :: text) = trim text := by
  rw [trim, trim, trimStart, List.dropWhile_cons_of_pos blank]
  rfl

theorem solid_of_trim (nonempty : text ≠ []) (same : trim text = text) : Solid text := by
  have first : ∃ c rest, text = c :: rest ∧ isBlank c = false := by
    cases text with
    | nil => exact absurd rfl nonempty
    | cons c rest =>
        refine ⟨c, rest, rfl, ?_⟩
        by_contra blank
        have shorter := trim_length rest
        rw [trim_cons (by simpa using blank)] at same
        rw [same, List.length_cons] at shorter
        omega
  refine ⟨first, ?_⟩
  rw [trim, trimStart_of_first first, trimEnd] at same
  rcases List.eq_nil_or_concat text with rfl | ⟨before, c, rfl⟩
  · exact absurd rfl nonempty
  · refine ⟨c, before, by simp, ?_⟩
    by_contra blank
    have shorter := (List.dropWhile_sublist isBlank (l := before.reverse)).length_le
    rw [List.concat_eq_append, List.reverse_append, List.reverse_singleton, List.singleton_append,
      List.dropWhile_cons_of_pos (by simpa using blank)] at same
    have lengths := congrArg List.length same
    simp only [List.length_reverse, List.length_append, List.length_singleton] at lengths shorter
    omega

theorem Solid.append (leftSolid : Solid left) (rightSolid : Solid right) (middle : List Char) :
    Solid (left ++ middle ++ right) where
  first := by
    obtain ⟨c, rest, rfl, visible⟩ := leftSolid.first
    exact ⟨c, rest ++ middle ++ right, rfl, visible⟩
  last := by
    obtain ⟨c, before, rfl, visible⟩ := rightSolid.last
    exact ⟨c, left ++ middle ++ before, by simp, visible⟩

theorem solid_of_visible (nonempty : text ≠ []) (visible : ∀ c ∈ text, isBlank c = false) :
    Solid text where
  first := by
    cases text with
    | nil => exact absurd rfl nonempty
    | cons c rest => exact ⟨c, rest, rfl, visible c List.mem_cons_self⟩
  last := by
    rcases List.eq_nil_or_concat text with rfl | ⟨before, c, rfl⟩
    · exact absurd rfl nonempty
    · exact ⟨c, before, by simp, visible c (by simp)⟩

theorem solid_between {opening closing : Char} (openingVisible : isBlank opening = false)
    (closingVisible : isBlank closing = false) (inner : List Char) :
    Solid (opening :: (inner ++ [closing])) :=
  ⟨⟨opening, inner ++ [closing], rfl, openingVisible⟩,
    ⟨closing, opening :: inner, rfl, closingVisible⟩⟩

theorem trim_leads (text : List Char) : trim text <+: trimStart text :=
  List.rdropWhile_prefix isBlank (trimStart text)

theorem trim_within (text : List Char) : trim text <:+: text :=
  (trim_leads text).isInfix.trans (List.dropWhile_suffix isBlank).isInfix

theorem trimEnd_last (nonempty : trimEnd text ≠ []) :
    ∃ c before, trimEnd text = before ++ [c] ∧ isBlank c = false := by
  obtain ⟨before, c, same⟩ := List.eq_nil_or_concat (trimEnd text) |>.resolve_left nonempty
  have last : (trimEnd text).getLast nonempty = c := by simp [same]
  have visible : ¬isBlank ((trimEnd text).getLast nonempty) = true :=
    List.rdropWhile_last_not isBlank text nonempty
  rw [last] at visible
  exact ⟨c, before, by rw [same, List.concat_eq_append], by simpa using visible⟩

theorem solid_trim (nonempty : trim text ≠ []) : Solid (trim text) where
  first := by
    obtain ⟨c, rest, same⟩ := List.exists_cons_of_ne_nil nonempty
    obtain ⟨dropped, whole⟩ := trim_leads text
    have head : (trimStart text).head? = some c := by rw [← whole, same]; rfl
    have visible := List.head?_dropWhile_not isBlank text
    rw [show text.dropWhile isBlank = trimStart text from rfl, head] at visible
    exact ⟨c, rest, same, by simpa using visible⟩
  last := trimEnd_last nonempty

/-! Texts up to a character -/

variable {test : Char → Bool}

theorem takeWhile_stop (kept : ∀ other ∈ left, test other = true) (stop : test c = false)
    (right : List Char) : (left ++ c :: right).takeWhile test = left := by
  rw [List.takeWhile_append_of_pos kept, List.takeWhile_cons_of_neg (by simp [stop]),
    List.append_nil]

theorem dropWhile_stop (kept : ∀ other ∈ left, test other = true) (stop : test c = false)
    (right : List Char) : (left ++ c :: right).dropWhile test = c :: right := by
  rw [List.dropWhile_append_of_pos kept, List.dropWhile_cons_of_neg (by simp [stop])]

/-! Lines -/

theorem lines_cons_line {line : List Char} (noFeed : '\n' ∉ line) (rest : List Char) :
    lines (line ++ '\n' :: rest) = line :: lines rest := by
  induction line with
  | nil => simp [lines]
  | cons c later ih =>
      have different : c ≠ '\n' := fun same => noFeed (same ▸ List.mem_cons_self)
      have tail := ih fun member => noFeed (List.mem_cons_of_mem _ member)
      simp only [List.cons_append, lines, different, if_false, tail]

theorem lines_flatMap {written : List (List Char)} (noFeed : ∀ line ∈ written, '\n' ∉ line) :
    lines (written.flatMap (· ++ ['\n'])) = written := by
  induction written with
  | nil => rfl
  | cons line rest ih =>
      obtain ⟨first, later⟩ := List.forall_mem_cons.mp noFeed
      rw [List.flatMap_cons, List.append_assoc, List.singleton_append, lines_cons_line first,
        ih later]

theorem lines_line {line : List Char} (nonempty : line ≠ []) (noFeed : '\n' ∉ line) :
    lines line = [line] := by
  induction line with
  | nil => exact absurd rfl nonempty
  | cons c later ih =>
      have different : c ≠ '\n' := fun same => noFeed (same ▸ List.mem_cons_self)
      cases later with
      | nil => simp [lines, different]
      | cons next rest =>
          have tail := ih (List.cons_ne_nil next rest) fun member =>
            noFeed (List.mem_cons_of_mem _ member)
          rw [lines, if_neg different, tail]

theorem noFeed_of_mem_lines {line : List Char} (member : line ∈ lines text) : '\n' ∉ line := by
  induction text generalizing line with
  | nil => cases member
  | cons c rest ih =>
      rw [lines] at member
      split at member
      · rcases List.mem_cons.mp member with rfl | member
        · exact List.not_mem_nil
        · exact ih member
      · rename_i different
        split at member
        · rw [List.mem_singleton.mp member, List.mem_singleton]
          exact Ne.symm different
        · rename_i first later found
          rw [found] at ih
          rcases List.mem_cons.mp member with rfl | member
          · rw [List.mem_cons, not_or]
            exact ⟨Ne.symm different, ih List.mem_cons_self⟩
          · exact ih (List.mem_cons_of_mem _ member)

theorem length_lines_terminated (text : List Char) :
    (lines (text ++ ['\n'])).length = text.count '\n' + 1 := by
  induction text with
  | nil => rfl
  | cons c rest ih =>
      rw [List.cons_append, lines]
      split
      · rename_i feed
        rw [feed, List.length_cons, ih, List.count_cons_self]
      · rename_i different
        rw [List.count_cons_of_ne different]
        cases terminated : lines (rest ++ ['\n']) with
        | nil => simp [terminated] at ih
        | cons line later => simpa [terminated] using ih

theorem lines_append_line (front back : List Char) :
    lines (front ++ '\n' :: back) = lines (front ++ ['\n']) ++ lines back := by
  induction front with
  | nil => simp [lines]
  | cons c rest ih =>
      rw [List.cons_append, List.cons_append, lines, lines, ih]
      split
      · rfl
      · have count := length_lines_terminated rest
        cases terminated : lines (rest ++ ['\n']) with
        | nil => simp [terminated] at count
        | cons line later => rfl

theorem lines_terminated (text : List Char) :
    lines (text ++ ['\n']) = lines text ∨ lines (text ++ ['\n']) = lines text ++ [[]] := by
  induction text with
  | nil => exact .inr rfl
  | cons c rest ih =>
      rw [List.cons_append, lines, lines]
      split
      · rcases ih with same | more
        · exact .inl (by rw [same])
        · exact .inr (by rw [more]; rfl)
      · rcases ih with same | more
        · exact .inl (by rw [same])
        · rw [more]
          cases lines rest with
          | nil => exact .inl rfl
          | cons line later => exact .inr rfl

def Holds (text : List Char) (written : List (List Char)) : Prop :=
  text = written.flatMap (· ++ ['\n']) ∨ text ++ ['\n'] = written.flatMap (· ++ ['\n'])

theorem lines_of_holds {written : List (List Char)} (holds : Holds text written)
    (nonempty : ∀ line ∈ written, line ≠ []) (noFeed : ∀ line ∈ written, '\n' ∉ line) :
    lines text = written := by
  induction written generalizing text with
  | nil =>
      rcases holds with same | same
      · rw [same]
        rfl
      · simp at same
  | cons line rest ih =>
      have lineNoFeed := noFeed line List.mem_cons_self
      have later := fun text holds => @ih text holds
        (fun line member => nonempty line (List.mem_cons_of_mem _ member))
        (fun line member => noFeed line (List.mem_cons_of_mem _ member))
      simp only [Holds, List.flatMap_cons, List.append_assoc, List.singleton_append] at holds
      rcases holds with same | same
      · rw [same, lines_cons_line lineNoFeed, later _ (.inl rfl)]
      · -- The last line feed is missing, either behind this line or further down.
        rcases List.eq_nil_or_concat (rest.flatMap (· ++ ['\n'])) with none | ⟨before, last, more⟩
        · have alone : rest = [] := by
            cases rest with
            | nil => rfl
            | cons next others => simp at none
          rw [none] at same
          rw [List.append_cancel_right same, alone,
            lines_line (nonempty line List.mem_cons_self) lineNoFeed]
        · rw [List.concat_eq_append] at more
          rw [more, ← List.cons_append, ← List.append_assoc] at same
          obtain ⟨front, final⟩ := List.append_inj' same rfl
          have feed : last = '\n' := (List.singleton_inj.mp final).symm
          rw [front, lines_cons_line lineNoFeed, later before (.inr (by rw [more, feed]))]

end Authoring.Text
