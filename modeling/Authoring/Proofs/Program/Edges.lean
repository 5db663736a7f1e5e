import Mathlib
import Authoring.Proofs.Program.Words

/-! The lines that are edges. All blanks around the arrow may be missing, and ids may end in hyphens,
but a line can be taken apart in one way only. -/

namespace Authoring

structure EdgeGaps where
  opening : List Char
  beforeArrow : List Char
  behindArrow : List Char
  beforeColon : List Char
  behindColon : List Char
  closing : List Char

structure EdgeGaps.WellFormed (gaps : EdgeGaps) : Prop where
  nonempty : gaps.opening ≠ []
  opening : Text.AllBlank gaps.opening
  beforeArrow : Text.AllBlank gaps.beforeArrow
  behindArrow : Text.AllBlank gaps.behindArrow
  beforeColon : Text.AllBlank gaps.beforeColon
  behindColon : Text.AllBlank gaps.behindColon
  closing : Text.AllBlank gaps.closing

def EdgeGaps.line (gaps : EdgeGaps) (source target type : List Char) : List Char :=
  ['e', 'd', 'g', 'e'] ++ (gaps.opening ++ (source ++ (gaps.beforeArrow ++ '-' :: '>' ::
    (gaps.behindArrow ++ (target ++ (gaps.beforeColon ++ ':' ::
      (gaps.behindColon ++ (type ++ gaps.closing))))))))

structure IsEdgeLine (line : List Char) (edge : Edge) (gaps : EdgeGaps) : Prop where
  source : IsIdentifier edge.source
  target : IsIdentifier edge.target
  blank : gaps.WellFormed
  whole : line = gaps.line edge.source.toList edge.target.toList edge.type.name.toList

namespace Statement

open Text (AllBlank IsRun StartsVisibly)

variable {text line rest id source target type : List Char} {gaps : EdgeGaps} {edge : Edge}

theorem isWordCharacter_of_isBlank {c : Char} (blank : Text.isBlank c = true) :
    Text.isWordCharacter c = false := by
  -- No range of word characters meets a range of blanks.
  have apart : (Text.wordCharacters.all fun range => [(9, 13), (0x20, 0x20), (0x85, 0x85),
      (0xA0, 0xA0), (0x1680, 0x1680), (0x2000, 0x200A), (0x2028, 0x2029), (0x202F, 0x202F),
      (0x205F, 0x205F), (0x3000, 0x3000)].all fun gap =>
        Nat.blt range.2 gap.1 || Nat.blt gap.2 range.1) = true := by
    decide +kernel
  rw [Text.isWordCharacter, Text.Ranges.contains, List.any_eq_false]
  intro range member
  have outside := List.all_eq_true.mp apart range member
  simp only [List.all_cons, List.all_nil, Bool.and_eq_true, Bool.or_eq_true, Nat.blt_eq]
    at outside
  simp only [Text.isBlank, Bool.or_eq_true, Bool.and_eq_true, decide_eq_true_eq, beq_iff_eq]
    at blank
  rw [Bool.and_eq_true, decide_eq_true_eq, decide_eq_true_eq]
  omega

theorem isBlank_of_isWordCharacter {c : Char} (word : Text.isWordCharacter c = true) :
    Text.isBlank c = false := by
  rw [← Bool.not_eq_true]
  intro blank
  rw [isWordCharacter_of_isBlank blank] at word
  cases word

theorem isIdentifier_hyphen (identifier : IsIdentifier (String.ofList id)) :
    IsIdentifier (String.ofList (id ++ ['-'])) := by
  obtain ⟨first, later, same, start, characters⟩ := identifier
  rw [String.toList_ofList] at same
  subst same
  refine ⟨first, later ++ ['-'], String.toList_ofList, start, ?_⟩
  exact List.forall_mem_append.mpr ⟨characters, List.forall_mem_singleton.mpr rfl⟩

theorem isIdentifier_dropLast {id : List Char} (identifier : IsIdentifier (String.ofList id))
    (long : 2 ≤ id.length) : IsIdentifier (String.ofList id.dropLast) := by
  obtain ⟨first, later, same, start, characters⟩ := identifier
  rw [String.toList_ofList] at same
  subst same
  rw [List.length_cons] at long
  obtain ⟨second, others, rfl⟩ : ∃ second others, later = second :: others :=
    List.exists_cons_of_length_pos (by omega)
  refine ⟨first, (second :: others).dropLast, by rw [String.toList_ofList]; rfl, start, ?_⟩
  exact fun c member => characters c ((List.dropLast_prefix _).subset member)

theorem stops_gap {gap : List Char} {c : Char} (blank : AllBlank gap)
    (stop : isIdCharacter c = false) :
    ∀ first ∈ (gap ++ c :: rest).head?, isIdCharacter first = false := by
  cases gap with
  | nil =>
      rintro _ ⟨⟩
      exact stop
  | cons other later =>
      rintro _ ⟨⟩
      exact isIdCharacter_of_isBlank (blank other List.mem_cons_self)

theorem arrowSource?_append {gap : List Char} (identifier : IsIdentifier (String.ofList id))
    (blank : AllBlank gap) (rest : List Char) :
    arrowSource? (id ++ (gap ++ '-' :: '>' :: rest)) = some (id, rest) := by
  cases gap with
  | nil =>
      have longer := isIdentifier_hyphen identifier
      have named : identifier? (id ++ '-' :: '>' :: rest) = some (id ++ ['-'], '>' :: rest) := by
        have stops : ∀ c ∈ ('>' :: rest).head?, isIdCharacter c = false := by
          rintro _ ⟨⟩
          rfl
        have read := identifier?_stops longer stops
        rwa [List.append_assoc] at read
      have missing : after? ['-', '>'] (Text.trimStart ('>' :: rest)) = none := rfl
      have arrow : after? ['>'] ('>' :: rest) = some rest := rfl
      have long : 2 ≤ (id ++ ['-']).length := by
        obtain ⟨⟨first, later, rfl, -⟩, -⟩ := identifier_parts identifier
        simp
      rw [arrowSource?, List.nil_append, named, Option.bind_eq_bind, Option.bind_some]
      simp only [missing, arrow, Option.bind_eq_bind, Option.bind_some, List.getLast?_concat, long,
        and_self, if_true, List.dropLast_concat]
      rfl
  | cons c later =>
      have named : identifier? (id ++ (c :: later ++ '-' :: '>' :: rest)) =
          some (id, c :: later ++ '-' :: '>' :: rest) := by
        refine identifier?_stops identifier ?_
        rintro _ ⟨⟩
        exact isIdCharacter_of_isBlank (blank c List.mem_cons_self)
      have arrow : after? ['-', '>'] (Text.trimStart (c :: later ++ '-' :: '>' :: rest)) =
          some rest := by
        rw [blank.trimStart (Text.startsVisibly_cons.mpr (by decide))]
        rfl
      rw [arrowSource?, named, Option.bind_eq_bind, Option.bind_some]
      simp only [arrow]
      rfl

theorem arrowSource?_written (read : arrowSource? text = some (id, rest)) :
    IsIdentifier (String.ofList id) ∧
      ∃ gap, AllBlank gap ∧ text = id ++ (gap ++ '-' :: '>' :: rest) := by
  rw [arrowSource?, Option.bind_eq_bind, Option.bind_eq_some_iff] at read
  obtain ⟨⟨name, behind⟩, named, read⟩ := read
  obtain ⟨identifier, run⟩ := identifier?_eq_some_iff.mp named
  have whole := run.whole
  dsimp only at read
  split at read
  · rename_i later arrow
    cases read
    obtain ⟨gap, blank, same⟩ := Text.exists_trimStart behind
    rw [after?_eq_some_iff.mp arrow] at same
    exact ⟨identifier, gap, blank, by rw [whole, same]; rfl⟩
  · simp only [Option.bind_eq_bind, Option.bind_eq_some_iff, after?_eq_some_iff] at read
    obtain ⟨later, same, read⟩ := read
    split at read
    · rename_i hyphen
      cases read
      refine ⟨isIdentifier_dropLast identifier hyphen.2, [], List.forall_mem_nil _, ?_⟩
      have shortened := List.dropLast_append_getLast? '-' hyphen.1
      rw [whole, same]
      conv_lhs => rw [← shortened]
      simp
    · cases read

theorem startsVisibly_word (nonempty : type ≠ [])
    (word : ∀ c ∈ type, Text.isWordCharacter c = true) (rest : List Char) :
    StartsVisibly (type ++ rest) := by
  obtain ⟨c, others, rfl⟩ := List.exists_cons_of_ne_nil nonempty
  exact Text.startsVisibly_cons.mpr (isBlank_of_isWordCharacter (word c List.mem_cons_self))

theorem edgeType_starts (type : EdgeType) : ∀ c ∈ type.name.toList, isIdStart c = true := by
  rw [← List.all_eq_true]
  cases type <;> decide

theorem edgeType_solid (type : EdgeType) : Text.Solid type.name.toList :=
  solid_of_isIdStart (by cases type <;> decide) (edgeType_starts type)

theorem edgeType_ofName (type : EdgeType) : EdgeType.ofName type.name = .ok type := by
  cases type <;> decide

theorem edgeParts?_line {gaps : EdgeGaps} (blank : gaps.WellFormed)
    (sourceName : IsIdentifier (String.ofList source))
    (targetName : IsIdentifier (String.ofList target)) (nonempty : type ≠ [])
    (word : ∀ c ∈ type, Text.isWordCharacter c = true) :
    edgeParts? (gaps.line source target type) = some (source, target, type) := by
  have typeRun : IsRun Text.isWordCharacter (type ++ gaps.closing) type gaps.closing := by
    refine ⟨rfl, word, fun c first => isWordCharacter_of_isBlank ?_⟩
    exact blank.closing c (List.mem_of_mem_head? first)
  have closed : gaps.closing.all Text.isBlank = true := List.all_eq_true.mpr blank.closing
  have unempty : type.isEmpty = false := List.isEmpty_eq_false_iff.mpr nonempty
  have colon (rest : List Char) : after? [':'] (':' :: rest) = some rest := after?_append [':'] rest
  simp only [EdgeGaps.line, edgeParts?, after?_append, Option.bind_eq_bind, Option.bind_some,
    blanks?_append blank.nonempty blank.opening (startsVisibly_identifier sourceName _),
    arrowSource?_append sourceName blank.beforeArrow,
    blank.behindArrow.trimStart (startsVisibly_identifier targetName _),
    identifier?_stops targetName (stops_gap blank.beforeColon (by decide : isIdCharacter ':' = false)),
    blank.beforeColon.trimStart (Text.startsVisibly_cons.mpr (by decide : Text.isBlank ':' = false)),
    colon, blank.behindColon.trimStart (startsVisibly_word nonempty word _), typeRun.splits,
    unempty, closed]
  rfl

theorem edgeParts?_written (read : edgeParts? line = some (source, target, type)) :
    IsIdentifier (String.ofList source) ∧ IsIdentifier (String.ofList target) ∧
      ∃ gaps : EdgeGaps, gaps.WellFormed ∧ line = gaps.line source target type := by
  simp only [edgeParts?, Option.bind_eq_bind, Option.bind_eq_some_iff] at read
  obtain ⟨behindKeyword, keyword, start, opened, ⟨_, behindArrow⟩, arrow, ⟨_, behindTarget⟩,
    named, behindColon, colon, read⟩ := read
  split at read
  · cases read
  · rename_i complete
    cases read
    obtain ⟨opening, nonempty, openingRun⟩ := blanks?_eq_some_iff.mp opened
    obtain ⟨sourceName, beforeArrow, beforeArrowBlank, arrowSame⟩ := arrowSource?_written arrow
    obtain ⟨targetName, targetRun⟩ := identifier?_eq_some_iff.mp named
    obtain ⟨arrowGap, arrowBlank, targetSame⟩ := Text.exists_trimStart behindArrow
    obtain ⟨beforeColon, beforeColonBlank, colonSame⟩ := Text.exists_trimStart behindTarget
    obtain ⟨colonGap, colonBlank, typeSame⟩ := Text.exists_trimStart behindColon
    have typeRun := Text.isRun_takeWhile Text.isWordCharacter (Text.trimStart behindColon)
    simp only [Bool.or_eq_true, Bool.not_eq_true', not_or, Bool.not_eq_false] at complete
    refine ⟨sourceName, targetName, ⟨opening, beforeArrow, arrowGap, beforeColon, colonGap, _⟩,
      ⟨nonempty, openingRun.inside, beforeArrowBlank, arrowBlank, beforeColonBlank, colonBlank,
        List.all_eq_true.mp complete.2⟩, ?_⟩
    have colonWhole := after?_eq_some_iff.mp colon
    rw [List.singleton_append] at colonWhole
    rw [EdgeGaps.line, ← typeRun.whole, ← typeSame, ← colonWhole, ← colonSame, ← targetRun.whole,
      ← targetSame, ← arrowSame, ← openingRun.whole]
    exact after?_eq_some_iff.mp keyword

theorem name_of_ofName {name : String} {type : EdgeType} (found : EdgeType.ofName name = .ok type) :
    type.name = name := by
  rw [EdgeType.ofName] at found
  split at found
  · rename_i named
    cases found
    simpa using List.find?_some named
  · cases found

theorem isEdgeLine_of_parse (read : parse line = .ok (.edge edge)) :
    ∃ gaps, IsEdgeLine line edge gaps := by
  rcases parse_cases read with ⟨node, -, other⟩ | ⟨found, said, same⟩
  · cases other
  · cases same
    rw [edgeOf] at said
    split at said
    · cases said
    · rename_i source target name parts
      split at said
      · rename_i type known
        cases said
        obtain ⟨sourceName, targetName, gaps, blank, whole⟩ := edgeParts?_written parts
        refine ⟨gaps, sourceName, targetName, blank, ?_⟩
        simp only [name_of_ofName known, String.toList_ofList]
        exact whole
      · cases said

theorem edgeType_word (type : EdgeType) :
    ∀ c ∈ type.name.toList, Text.isWordCharacter c = true := fun c member =>
  isWordCharacter_of_isIdStart (edgeType_starts type c member)

theorem parse_of_isEdgeLine {gaps : EdgeGaps} (written : IsEdgeLine line edge gaps) :
    parse line = .ok (.edge edge) := by
  obtain ⟨sourceName, targetName, blank, rfl⟩ := written
  have nonempty := (edgeType_solid edge.type).nonempty
  rw [← String.ofList_toList (s := edge.source)] at sourceName
  rw [← String.ofList_toList (s := edge.target)] at targetName
  have parts := edgeParts?_line blank sourceName targetName nonempty (edgeType_word edge.type)
  obtain ⟨behind, keyword⟩ : ∃ behind, (after? ['e', 'd', 'g', 'e'] (gaps.line
      edge.source.toList edge.target.toList edge.type.name.toList)).bind blanks? = some behind :=
    ⟨_, by rw [EdgeGaps.line, after?_append, Option.bind_some,
      blanks?_append blank.nonempty blank.opening (startsVisibly_identifier sourceName _)]⟩
  simp only [parse, keyword, edgeOf, parts, String.ofList_toList, edgeType_ofName]
  rfl

theorem gaps_unique {other : EdgeGaps} (blank : gaps.WellFormed) (otherBlank : other.WellFormed)
    (sourceName : IsIdentifier (String.ofList source))
    (targetName : IsIdentifier (String.ofList target)) (nonempty : type ≠ [])
    (word : ∀ c ∈ type, Text.isWordCharacter c = true)
    (same : gaps.line source target type = other.line source target type) : gaps = other := by
  have hyphen : ∀ rest, StartsVisibly ('-' :: rest) := fun _ =>
    Text.startsVisibly_cons.mpr (by decide)
  have colon : ∀ rest, StartsVisibly (':' :: rest) := fun _ =>
    Text.startsVisibly_cons.mpr (by decide)
  have sourceFirst := startsVisibly_identifier sourceName
  have targetFirst := startsVisibly_identifier targetName
  have typeFirst := startsVisibly_word nonempty word
  obtain ⟨opening, same⟩ := blank.opening.unique otherBlank.opening (sourceFirst _)
    (sourceFirst _) (List.append_cancel_left same)
  obtain ⟨beforeArrow, same⟩ := blank.beforeArrow.unique otherBlank.beforeArrow (hyphen _)
    (hyphen _) (List.append_cancel_left same)
  obtain ⟨behindArrow, same⟩ := blank.behindArrow.unique otherBlank.behindArrow (targetFirst _)
    (targetFirst _) (List.cons.inj (List.cons.inj same).2).2
  obtain ⟨beforeColon, same⟩ := blank.beforeColon.unique otherBlank.beforeColon (colon _)
    (colon _) (List.append_cancel_left same)
  obtain ⟨behindColon, same⟩ := blank.behindColon.unique otherBlank.behindColon (typeFirst _)
    (typeFirst _) (List.cons.inj same).2
  have closing := List.append_cancel_left same
  obtain ⟨_, _, _, _, _, _⟩ := gaps
  obtain ⟨_, _, _, _, _, _⟩ := other
  subst opening beforeArrow behindArrow beforeColon behindColon closing
  rfl

/-- A line is an edge just if it is the word `edge`, blanks, an identifier, an arrow, an identifier, a
colon and the name of an edge type, with any blanks between and behind them; and which part of the
line is which is never in doubt. -/
theorem parse_edge_iff (line : List Char) :
    (∀ edge, parse line = .ok (.edge edge) ↔ ∃ gaps, IsEdgeLine line edge gaps) ∧
      ∀ edge gaps other otherGaps, IsEdgeLine line edge gaps → IsEdgeLine line other otherGaps →
        edge = other ∧ gaps = otherGaps := by
  refine ⟨fun edge => ⟨isEdgeLine_of_parse, ?_⟩, ?_⟩
  · rintro ⟨gaps, written⟩
    exact parse_of_isEdgeLine written
  · intro edge gaps other otherGaps written otherWritten
    -- Both are what is read from the line, so only the blanks could differ.
    have read := parse_of_isEdgeLine written
    rw [parse_of_isEdgeLine otherWritten] at read
    cases read
    refine ⟨rfl, gaps_unique written.blank otherWritten.blank ?_ ?_
      (edgeType_solid edge.type).nonempty (edgeType_word edge.type)
      (written.whole.symm.trans otherWritten.whole)⟩
    · rw [String.ofList_toList]
      exact written.source
    · rw [String.ofList_toList]
      exact written.target

def sampleEdgeLine : List Char :=
  ['e', 'd', 'g', 'e', ' ', 'a', '-', '-', '-', '>', ' ', 'b', ':', 'c', 'i', 't', 'e', 's', '\t']

def sampleEdge : Edge :=
  ⟨"a--", "b", .cites⟩

def sampleGaps : EdgeGaps :=
  ⟨[' '], [], [' '], [], [], ['\t']⟩

theorem parse_edge_iff_of_sampleEdgeLine :
    IsEdgeLine sampleEdgeLine sampleEdge sampleGaps ∧
      parse sampleEdgeLine = .ok (.edge sampleEdge) ∧
      ∀ edge gaps, IsEdgeLine sampleEdgeLine edge gaps → edge = sampleEdge ∧ gaps = sampleGaps := by
  have blank : sampleGaps.WellFormed := by
    constructor <;> simp [sampleGaps, AllBlank, Text.isBlank]
  have written : IsEdgeLine sampleEdgeLine sampleEdge sampleGaps := by
    refine ⟨?_, ?_, blank, by decide⟩
    · exact ⟨'a', ['-', '-'], by decide, by decide, by simp [isIdCharacter]⟩
    · exact ⟨'b', [], by decide, by decide, List.forall_mem_nil _⟩
  obtain ⟨accepted, unique⟩ := parse_edge_iff sampleEdgeLine
  exact ⟨written, (accepted sampleEdge).mpr ⟨sampleGaps, written⟩,
    fun edge gaps other => unique edge gaps sampleEdge sampleGaps other written⟩

end Statement

end Authoring
