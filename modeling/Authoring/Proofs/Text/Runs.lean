import Mathlib
import Authoring.Proofs.Text.Solid

/-! Texts taken apart into longest runs of characters, the blanks around what trimming leaves, and
the words between blanks. -/

namespace Authoring.Text

/-- The longest run of such characters that the text starts with, and what follows it. -/
structure IsRun (test : Char → Bool) (text run rest : List Char) : Prop where
  whole : text = run ++ rest
  inside : ∀ c ∈ run, test c = true
  stops : ∀ c ∈ rest.head?, test c = false

section Runs

variable {test : Char → Bool} {text run rest : List Char}

theorem isRun_takeWhile (test : Char → Bool) (text : List Char) :
    IsRun test text (text.takeWhile test) (text.dropWhile test) where
  whole := List.takeWhile_append_dropWhile.symm
  inside := fun _ member => List.mem_takeWhile_imp member
  stops := fun c first => by
    have stopped := List.head?_dropWhile_not test text
    rw [Option.mem_def.mp first] at stopped
    simpa using stopped

theorem IsRun.splits (found : IsRun test text run rest) :
    text.takeWhile test = run ∧ text.dropWhile test = rest := by
  obtain ⟨rfl, inside, stops⟩ := found
  cases rest with
  | nil =>
      rw [List.append_nil]
      exact ⟨List.takeWhile_eq_self_iff.mpr inside, List.dropWhile_eq_nil_iff.mpr inside⟩
  | cons c later =>
      have stop := stops c rfl
      exact ⟨takeWhile_stop inside stop later, dropWhile_stop inside stop later⟩

theorem IsRun.unique {otherRun otherRest : List Char} (found : IsRun test text run rest)
    (other : IsRun test text otherRun otherRest) : run = otherRun ∧ rest = otherRest :=
  ⟨found.splits.1.symm.trans other.splits.1, found.splits.2.symm.trans other.splits.2⟩

end Runs

/-! Blanks -/

def AllBlank (text : List Char) : Prop :=
  ∀ c ∈ text, isBlank c = true

def StartsVisibly (text : List Char) : Prop :=
  ∀ c ∈ text.head?, isBlank c = false

variable {gap other text rest later : List Char} {c : Char}

theorem allBlank_append {front back : List Char} :
    AllBlank (front ++ back) ↔ AllBlank front ∧ AllBlank back := by
  simp only [AllBlank, List.forall_mem_append]

theorem startsVisibly_cons : StartsVisibly (c :: rest) ↔ isBlank c = false := by
  simp [StartsVisibly]

theorem AllBlank.isRun (blank : AllBlank gap) (visible : StartsVisibly rest) :
    IsRun isBlank (gap ++ rest) gap rest :=
  ⟨rfl, blank, visible⟩

theorem AllBlank.trimStart (blank : AllBlank gap) (visible : StartsVisibly rest) :
    trimStart (gap ++ rest) = rest :=
  (blank.isRun visible).splits.2

theorem AllBlank.unique (blank : AllBlank gap) (otherBlank : AllBlank other)
    (visible : StartsVisibly rest) (otherVisible : StartsVisibly later)
    (same : gap ++ rest = other ++ later) : gap = other ∧ rest = later :=
  (blank.isRun visible).unique (same ▸ otherBlank.isRun otherVisible)

theorem exists_trimStart (text : List Char) : ∃ gap, AllBlank gap ∧ text = gap ++ trimStart text :=
  ⟨text.takeWhile isBlank, (isRun_takeWhile isBlank text).inside,
    (isRun_takeWhile isBlank text).whole⟩

theorem trimStart_allBlank (blank : AllBlank gap) (text : List Char) :
    trimStart (gap ++ text) = trimStart text :=
  List.dropWhile_append_of_pos blank

theorem trimEnd_allBlank (blank : AllBlank gap) (text : List Char) :
    trimEnd (text ++ gap) = trimEnd text := by
  rw [trimEnd, List.reverse_append, List.dropWhile_append_of_pos]
  · rfl
  · exact fun c member => blank c (List.mem_reverse.mp member)

theorem exists_trimEnd (text : List Char) : ∃ gap, AllBlank gap ∧ text = trimEnd text ++ gap := by
  obtain ⟨gap, blank, whole⟩ := exists_trimStart text.reverse
  refine ⟨gap.reverse, fun c member => blank c (List.mem_reverse.mp member), ?_⟩
  rw [trimEnd, ← List.reverse_append, ← show text.reverse = gap ++ text.reverse.dropWhile isBlank
    from whole, List.reverse_reverse]

theorem trimEnd_cons (c : Char) (text : List Char) :
    trimEnd (c :: text) = trimEnd (c :: trimEnd text) := by
  obtain ⟨gap, blank, whole⟩ := exists_trimEnd text
  conv_lhs => rw [whole, ← List.cons_append, trimEnd_allBlank blank]

theorem exists_trim (text : List Char) :
    ∃ before behind, AllBlank before ∧ AllBlank behind ∧ text = before ++ trim text ++ behind := by
  obtain ⟨before, beforeBlank, start⟩ := exists_trimStart text
  obtain ⟨behind, behindBlank, finish⟩ := exists_trimEnd (trimStart text)
  refine ⟨before, behind, beforeBlank, behindBlank, ?_⟩
  rw [List.append_assoc, trim, ← finish, ← start]

theorem trim_trimStart (text : List Char) : trim (trimStart text) = trim text := by
  rw [trim, trim, trimStart, trimStart, List.dropWhile_idempotent]

theorem trim_append_allBlank (blank : AllBlank gap) (text : List Char) :
    trim (text ++ gap) = trim text := by
  rw [trim, trim, trimStart, trimStart, List.dropWhile_append]
  split
  · rename_i nothing
    rw [List.isEmpty_iff.mp nothing, List.dropWhile_eq_nil_iff.mpr blank]
  · exact trimEnd_allBlank blank _

theorem trim_allBlank_append (blank : AllBlank gap) (text : List Char) :
    trim (gap ++ text) = trim text := by
  rw [trim, trim, trimStart_allBlank blank]

theorem trim_trim (text : List Char) : trim (trim text) = trim text := by
  by_cases nothing : trim text = []
  · rw [nothing]
    rfl
  · exact (solid_trim nothing).trim

theorem trim_trimEnd (text : List Char) : trim (trimEnd text) = trim text := by
  obtain ⟨gap, blank, whole⟩ := exists_trimEnd text
  conv_rhs => rw [whole, trim_append_allBlank blank]

theorem trimEnd_prefix (text : List Char) : trimEnd text <+: text := by
  obtain ⟨gap, -, whole⟩ := exists_trimEnd text
  exact ⟨gap, whole.symm⟩

theorem trim_around {c : Char} (visible : isBlank c = false) (front back : List Char) :
    trim (front ++ c :: back) = trimStart front ++ c :: trimEnd back := by
  have stays : ∀ rest, (c :: rest).dropWhile isBlank = c :: rest := fun rest =>
    List.dropWhile_cons_of_neg (by simp [visible])
  have start : trimStart (front ++ c :: back) = trimStart front ++ c :: back := by
    rw [trimStart, trimStart, List.dropWhile_append, stays]
    split
    · rename_i nothing
      rw [List.isEmpty_iff.mp nothing, List.nil_append]
    · rfl
  rw [trim, start, trimEnd, trimEnd, List.reverse_append, List.reverse_cons, List.append_assoc,
    List.singleton_append, List.dropWhile_append, stays]
  split
  · rename_i nothing
    simp [List.isEmpty_iff.mp nothing]
  · simp

theorem trim_solid_append (solid : Solid text) (rest : List Char) :
    trim (text ++ rest) = text ++ trimEnd rest := by
  have ends : Solid (text ++ trimEnd rest) := by
    obtain ⟨first, later, rfl, visible⟩ := solid.first
    refine ⟨⟨first, later ++ trimEnd rest, rfl, visible⟩, ?_⟩
    by_cases nothing : trimEnd rest = []
    · rw [nothing, List.append_nil]
      exact solid.last
    · obtain ⟨c, before, same, last⟩ := trimEnd_last nothing
      exact ⟨c, first :: later ++ before, by rw [same, List.append_assoc], last⟩
  obtain ⟨gap, blank, whole⟩ := exists_trimEnd rest
  conv_lhs => rw [whole, ← List.append_assoc, trim_append_allBlank blank, ends.trim]

theorem trim_eq_nil_iff : trim text = [] ↔ AllBlank text := by
  constructor
  · intro nothing
    obtain ⟨before, behind, beforeBlank, behindBlank, whole⟩ := exists_trim text
    rw [nothing, List.append_nil] at whole
    rw [whole]
    exact allBlank_append.mpr ⟨beforeBlank, behindBlank⟩
  · intro blank
    have start := trimStart_allBlank blank []
    rw [List.append_nil] at start
    rw [trim, start]
    rfl

/-! Words -/

/-- The text consists of the words, each a longest run without a blank, and of blanks. -/
inductive IsSpaced : List (List Char) → List Char → Prop where
  | nil {gap : List Char} (blank : AllBlank gap) : IsSpaced [] gap
  | cons {words : List (List Char)} {gap word rest : List Char} (blank : AllBlank gap)
      (nonempty : word ≠ []) (solid : ∀ c ∈ word, isBlank c = false)
      (ends : ∀ c ∈ rest.head?, isBlank c = true) (later : IsSpaced words rest) :
      IsSpaced (word :: words) (gap ++ (word ++ rest))

theorem countWords_blank (blank : isBlank c = true) (rest : List Char) :
    countWords (c :: rest) = countWords rest := by
  cases rest with
  | nil => simp [countWords, blank]
  | cons next later => simp [countWords, blank]

theorem countWords_allBlank_append (blank : AllBlank gap) (text : List Char) :
    countWords (gap ++ text) = countWords text := by
  induction gap with
  | nil => rfl
  | cons c later ih =>
      obtain ⟨first, others⟩ := List.forall_mem_cons.mp blank
      rw [List.cons_append, countWords_blank first, ih others]

theorem countWords_word {word : List Char} (nonempty : word ≠ [])
    (solid : ∀ c ∈ word, isBlank c = false) (ends : ∀ c ∈ rest.head?, isBlank c = true) :
    countWords (word ++ rest) = countWords rest + 1 := by
  induction word with
  | nil => exact absurd rfl nonempty
  | cons c later ih =>
      obtain ⟨visible, others⟩ := List.forall_mem_cons.mp solid
      cases later with
      | nil =>
          cases rest with
          | nil => simp [countWords, visible]
          | cons next more =>
              have blank := ends next rfl
              simp only [List.singleton_append, countWords, visible, blank]
              exact Nat.add_comm _ _
      | cons next more =>
          have nextVisible := others next List.mem_cons_self
          have tail := ih (List.cons_ne_nil next more) others
          rw [List.cons_append] at tail
          simp [countWords, visible, nextVisible, tail]

theorem IsSpaced.count {words : List (List Char)} (spaced : IsSpaced words text) :
    countWords text = words.length := by
  induction spaced with
  | @nil gap blank =>
      have none := countWords_allBlank_append blank []
      rw [List.append_nil] at none
      exact none
  | cons blank nonempty solid ends _ ih =>
      rw [countWords_allBlank_append blank, countWords_word nonempty solid ends, ih,
        List.length_cons]

theorem IsSpaced.blank_cons {words : List (List Char)} (spaced : IsSpaced words text)
    (blank : isBlank c = true) : IsSpaced words (c :: text) := by
  cases spaced with
  | nil gap => exact .nil (List.forall_mem_cons.mpr ⟨blank, gap⟩)
  | cons gap nonempty solid ends later =>
      exact .cons (List.forall_mem_cons.mpr ⟨blank, gap⟩) nonempty solid ends later

theorem IsSpaced.word_append {words : List (List Char)} {word : List Char} (nonempty : word ≠ [])
    (solid : ∀ c ∈ word, isBlank c = false) (ends : ∀ c ∈ rest.head?, isBlank c = true)
    (later : IsSpaced words rest) : IsSpaced (word :: words) (word ++ rest) :=
  @IsSpaced.cons words [] word rest (List.forall_mem_nil _) nonempty solid ends later

theorem IsSpaced.visible_cons {words : List (List Char)} (spaced : IsSpaced words text)
    (visible : isBlank c = false) : ∃ more, IsSpaced more (c :: text) := by
  have alone (ends : ∀ next ∈ text.head?, isBlank next = true) :
      ∃ more, IsSpaced more (c :: text) :=
    ⟨[c] :: words, .word_append (List.cons_ne_nil c []) (by simpa using visible) ends spaced⟩
  cases spaced with
  | nil blank => exact alone fun next first => blank next (List.mem_of_head? first)
  | @cons words gap word rest blank nonempty solid ends later =>
      cases gap with
      | nil =>
          have longer : ∀ other ∈ c :: word, isBlank other = false :=
            List.forall_mem_cons.mpr ⟨visible, solid⟩
          exact ⟨_, .word_append (List.cons_ne_nil c word) longer ends later⟩
      | cons first others =>
          refine alone fun next same => ?_
          cases same
          exact blank first List.mem_cons_self

theorem exists_isSpaced (text : List Char) : ∃ words, IsSpaced words text := by
  induction text with
  | nil => exact ⟨[], .nil (List.forall_mem_nil _)⟩
  | cons c rest ih =>
      obtain ⟨words, spaced⟩ := ih
      cases visible : isBlank c with
      | true => exact ⟨words, spaced.blank_cons visible⟩
      | false => exact spaced.visible_cons visible

theorem wordCount_eq_iff {text : String} {count : Nat} :
    wordCount text = count ↔ ∃ words, IsSpaced words text.toList ∧ words.length = count := by
  constructor
  · rintro rfl
    obtain ⟨words, spaced⟩ := exists_isSpaced text.toList
    exact ⟨words, spaced, spaced.count.symm⟩
  · rintro ⟨words, spaced, rfl⟩
    exact spaced.count

end Authoring.Text
