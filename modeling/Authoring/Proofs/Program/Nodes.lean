import Mathlib
import Authoring.Proofs.Program.Words

/-! The lines that are nodes: a keyword, an id, a label, and what the label is followed by. -/

namespace Authoring

open Text (AllBlank IsRun StartsVisibly)

/-- How a label is written in front of the rest of a line: in quotes, or as it is if it is an
identifier and the rest does not go on with it. -/
inductive LabelWritten (label : String) : List Char → List Char → Prop where
  | quoted {rest : List Char} (nonempty : label ≠ "") (unquoted : '"' ∉ label.toList) :
      LabelWritten label ('"' :: (label.toList ++ ['"'])) rest
  | bare {rest : List Char} (identifier : IsIdentifier label)
      (stops : ∀ c ∈ rest.head?, Statement.isIdCharacter c = false) :
      LabelWritten label label.toList rest

namespace LabelWritten

variable {label : String} {text rest gap front : List Char}

theorem solid (written : LabelWritten label text rest) : Text.Solid text := by
  cases written with
  | quoted => exact Text.solid_between (by decide) (by decide) label.toList
  | bare identifier =>
      rw [← String.ofList_toList (s := label)] at identifier
      obtain ⟨⟨first, later, same, -⟩, characters⟩ := Statement.identifier_parts identifier
      refine Text.solid_of_visible (by simp [same]) fun c member => ?_
      rw [← Bool.not_eq_true]
      intro blank
      have other := characters c member
      rw [Statement.isIdCharacter_of_isBlank blank] at other
      cases other

theorem append_allBlank (written : LabelWritten label text rest) (blank : AllBlank gap) :
    LabelWritten label text (rest ++ gap) := by
  cases written with
  | quoted nonempty unquoted => exact .quoted nonempty unquoted
  | bare identifier stops =>
      refine .bare identifier fun c first => ?_
      cases rest with
      | nil => exact Statement.isIdCharacter_of_isBlank (blank c (List.mem_of_mem_head? first))
      | cons other later => exact stops c first

theorem of_prefix (written : LabelWritten label text rest) (leads : front <+: rest) :
    LabelWritten label text front := by
  cases written with
  | quoted nonempty unquoted => exact .quoted nonempty unquoted
  | bare identifier stops =>
      refine .bare identifier fun c first => stops c ?_
      obtain ⟨later, rfl⟩ := leads
      exact List.mem_head?_append_of_mem_head? first

end LabelWritten

/-- What may stand behind a label, blanks around it left out, and the properties that it gives. -/
inductive TailGives : List Char → Properties → Prop where
  | nothing : TailGives [] []
  | noExpression {expression : List Char} (blank : AllBlank expression) :
      TailGives (':' :: '=' :: expression) []
  | expression {expression : List Char} (visible : ¬AllBlank expression) :
      TailGives (':' :: '=' :: expression)
        [("expr", .string (String.ofList (Text.trim expression)))]
  | object {tail : List Char} {properties : Properties} (opening : tail.head? = some '\x7b')
      (accepted : Literal.object tail = .ok properties) : TailGives tail properties

structure NodeParts where
  opening : List Char
  behindId : List Char
  label : List Char
  rest : List Char

structure IsNodeLine (line : List Char) (node : Node) (parts : NodeParts) : Prop where
  openingNonempty : parts.opening ≠ []
  opening : AllBlank parts.opening
  id : IsIdentifier node.id
  behindIdNonempty : parts.behindId ≠ []
  behindId : AllBlank parts.behindId
  label : LabelWritten node.label parts.label parts.rest
  properties : TailGives (Text.trim parts.rest) node.properties
  whole : line = node.type.keyword.toList ++ (parts.opening ++ (node.id.toList ++
    (parts.behindId ++ (parts.label ++ parts.rest))))

namespace Statement

variable {line text rest id label tail : List Char} {properties : Properties} {type : NodeType}
  {node : Node}

theorem propertiesOf_iff : propertiesOf tail = .ok properties ↔ TailGives tail properties := by
  constructor
  · intro read
    unfold propertiesOf at read
    split at read
    · cases read
      exact .nothing
    · rename_i later
      split at read
      · rename_i accepted
        cases read
        exact .object rfl accepted
      · cases read
    · rename_i expression
      dsimp only at read
      split at read
      · rename_i blank
        cases read
        exact .noExpression (Text.trim_eq_nil_iff.mp (List.isEmpty_iff.mp blank))
      · rename_i visible
        cases read
        exact .expression fun blank => visible (by rw [Text.trim_eq_nil_iff.mpr blank]; rfl)
    · cases read
  · intro gives
    cases gives with
    | nothing => rfl
    | noExpression blank =>
        simp only [propertiesOf, Text.trim_eq_nil_iff.mpr blank]
        rfl
    | expression visible =>
        have nonempty : (Text.trim _).isEmpty = false :=
          List.isEmpty_eq_false_iff.mpr fun nothing => visible (Text.trim_eq_nil_iff.mp nothing)
        simp only [propertiesOf, nonempty]
        rfl
    | object opening accepted =>
        obtain ⟨later, rfl⟩ := List.head?_eq_some_iff.mp opening
        simp only [propertiesOf, accepted]

/-! Labels -/

theorem label?_written (read : label? text = some (label, tail)) :
    ∃ written rest, LabelWritten (String.ofList label) written rest ∧ text = written ++ rest ∧
      tail = Text.trimStart rest := by
  simp only [label?.eq_def] at read
  split at read
  · rename_i quoted
    split at read
    · cases read
    · cases read
    · rename_i closing behind closed nonempty
      simp only [Option.bind_eq_bind, Option.bind_some] at read
      split at read
      · cases read
      · cases read
        have run := Text.isRun_takeWhile (· != '"') quoted
        rw [closed] at run
        have quote : closing = '"' := by simpa using run.stops closing rfl
        have whole := run.whole
        rw [quote] at whole
        refine ⟨_, behind, .quoted ?_ ?_, ?_, rfl⟩
        · simpa using nonempty
        · rw [String.toList_ofList]
          exact fun member => by simpa using run.inside _ member
        · rw [String.toList_ofList, List.cons_append, List.append_assoc, List.singleton_append,
            ← whole]
  · obtain ⟨⟨name, behind⟩, named, read⟩ := Option.bind_eq_some_iff.mp read
    dsimp only at read
    split at read
    · cases read
    · cases read
      obtain ⟨identifier, run⟩ := identifier?_eq_some_iff.mp named
      refine ⟨_, behind, .bare identifier run.stops, ?_, rfl⟩
      rw [String.toList_ofList]
      exact run.whole

theorem label?_append {label : String} (written : LabelWritten label text rest)
    (oneLine : '\n' ∉ rest) : label? (text ++ rest) = some (label.toList, Text.trimStart rest) := by
  have single : (Text.trimStart rest).contains '\n' = false := by
    rw [← Bool.not_eq_true, List.contains_iff_mem]
    exact fun member => oneLine ((List.dropWhile_suffix _).subset member)
  cases written with
  | quoted nonempty unquoted =>
      have before : ∀ c ∈ label.toList, (c != '"') = true := fun c member => by
        rw [bne_iff_ne]
        exact fun same => unquoted (same ▸ member)
      have run : IsRun (· != '"') (label.toList ++ '"' :: rest) label.toList ('"' :: rest) :=
        ⟨rfl, before, by rintro _ ⟨⟩; rfl⟩
      obtain ⟨first, later, same⟩ := List.exists_cons_of_ne_nil
        (mt String.toList_eq_nil_iff.mp nonempty)
      have splits := run.splits
      rw [List.cons_append, List.append_assoc, List.singleton_append]
      rw [same] at splits ⊢
      simp only [label?, splits, Option.bind_eq_bind, Option.bind_some, single]
      rfl
  | bare identifier stops =>
      rw [← String.ofList_toList (s := label)] at identifier
      have named := identifier?_stops identifier stops
      obtain ⟨⟨first, later, same, start⟩, -⟩ := identifier_parts identifier
      have unquoted : first ≠ '"' := by
        rintro rfl
        cases start
      rw [same] at named ⊢
      rw [label?.eq_def]
      simp only [List.cons_append] at named ⊢
      split
      · rename_i quoted
        exact absurd (List.cons.inj quoted).1 unquoted
      · simp only [named, Option.bind_eq_bind, Option.bind_some, single]
        rfl

/-! Heads -/

theorem keyword_starts (type : NodeType) : ∀ c ∈ type.keyword.toList, isIdStart c = true := by
  rw [← List.all_eq_true]
  cases type <;> decide

theorem ofKeyword?_keyword (type : NodeType) : NodeType.ofKeyword? type.keyword = some type := by
  cases type <;> decide

theorem after?_keyword (type : NodeType) (rest : List Char) :
    after? ['e', 'd', 'g', 'e'] (type.keyword.toList ++ rest) = none := by
  cases type <;> simp [NodeType.keyword, after?]

theorem separated_iff : (rest.isEmpty || (blanks? rest).isSome) = true ↔
    ∀ c ∈ rest.head?, Text.isBlank c = true := by
  cases rest with
  | nil => simp
  | cons c later => cases blank : Text.isBlank c <;> simp [blanks?, blank]

theorem head?_written (read : head? line = some (type, id, text)) :
    ∃ opening behind, opening ≠ [] ∧ AllBlank opening ∧ IsIdentifier (String.ofList id) ∧
      (∀ c ∈ behind.head?, Text.isBlank c = true) ∧ text = Text.trim behind ∧
      line = type.keyword.toList ++ (opening ++ (id ++ behind)) := by
  simp only [head?, Option.bind_eq_bind, Option.bind_eq_some_iff] at read
  obtain ⟨found, known, behindGap, opened, ⟨name, behind⟩, named, read⟩ := read
  split at read
  · rename_i separated
    cases read
    obtain ⟨opening, nonempty, openingRun⟩ := blanks?_eq_some_iff.mp opened
    obtain ⟨identifier, idRun⟩ := identifier?_eq_some_iff.mp named
    have keyword : type.keyword = String.ofList (line.takeWhile fun c => !Text.isBlank c) := by
      simpa using List.find?_some known
    refine ⟨opening, behind, nonempty, openingRun.inside, identifier,
      separated_iff.mp separated, rfl, ?_⟩
    rw [keyword, String.toList_ofList, ← idRun.whole, ← openingRun.whole]
    exact List.takeWhile_append_dropWhile.symm
  · cases read

theorem head?_line (type : NodeType) {opening behind : List Char} (nonempty : opening ≠ [])
    (blank : AllBlank opening) (identifier : IsIdentifier (String.ofList id))
    (separated : ∀ c ∈ behind.head?, Text.isBlank c = true) :
    head? (type.keyword.toList ++ (opening ++ (id ++ behind))) =
      some (type, id, Text.trim behind) := by
  have keyword : IsRun (fun c => !Text.isBlank c)
      (type.keyword.toList ++ (opening ++ (id ++ behind))) type.keyword.toList
      (opening ++ (id ++ behind)) := by
    refine ⟨rfl, fun c member => ?_, ?_⟩
    · rw [isBlank_of_isIdStart (keyword_starts type c member)]
      rfl
    · obtain ⟨first, later, rfl⟩ := List.exists_cons_of_ne_nil nonempty
      rintro _ ⟨⟩
      rw [blank first List.mem_cons_self]
      rfl
  have stops : ∀ c ∈ behind.head?, isIdCharacter c = false := fun c first =>
    isIdCharacter_of_isBlank (separated c first)
  simp only [head?, keyword.splits, String.ofList_toList, ofKeyword?_keyword, Option.bind_eq_bind,
    Option.bind_some, blanks?_append nonempty blank (startsVisibly_identifier identifier _),
    identifier?_stops identifier stops, separated_iff.mpr separated, if_true]
  rfl

/-! Lines -/

theorem nodeOf_parts {line : List Char} {node : Node} (read : nodeOf line = .ok node) :
    ∃ id rest label tail, head? line = some (node.type, id, rest) ∧
      label? rest = some (label, tail) ∧ propertiesOf (Text.trim tail) = .ok node.properties ∧
      node.id = String.ofList id ∧ node.label = String.ofList label := by
  unfold nodeOf at read
  split at read
  · cases read
  · rename_i type id rest head
    split at read
    · split at read <;> cases read
    · rename_i label tail labelled
      obtain ⟨properties, found, same⟩ := bind_eq_ok_iff.mp read
      cases same
      exact ⟨id, rest, label, tail, head, labelled, found, rfl, rfl⟩

theorem isNodeLine_of_parse (read : parse line = .ok (.node node)) :
    ∃ parts, IsNodeLine line node parts := by
  rcases parse_cases read with ⟨found, said, same⟩ | ⟨edge, -, other⟩
  · cases same
    obtain ⟨id, text, label, tail, head, labelled, properties, idRead, labelRead⟩ :=
      nodeOf_parts said
    obtain ⟨opening, behind, nonempty, blank, identifier, separated, rfl, whole⟩ :=
      head?_written head
    obtain ⟨written, rest, labelWritten, labelWhole, rfl⟩ := label?_written labelled
    obtain ⟨before, after, beforeBlank, afterBlank, behindWhole⟩ := Text.exists_trim behind
    rw [labelWhole, List.append_assoc] at behindWhole
    refine ⟨⟨opening, before, written, rest ++ after⟩, nonempty, blank, ?_, ?_, beforeBlank, ?_,
      ?_, ?_⟩
    · rw [idRead]
      exact identifier
    · -- The label starts visibly, but what stands behind the id starts with a blank.
      rintro rfl
      obtain ⟨c, later, same, visible⟩ := labelWritten.solid.first
      have first := separated c (by rw [behindWhole, same]; rfl)
      rw [visible] at first
      cases first
    · rw [labelRead]
      exact labelWritten.append_allBlank afterBlank
    · rw [Text.trim_append_allBlank afterBlank, ← Text.trim_trimStart]
      exact propertiesOf_iff.mp properties
    · simp only [whole, behindWhole, idRead, String.toList_ofList, List.append_assoc]
  · cases other

theorem parse_of_isNodeLine {parts : NodeParts} (oneLine : '\n' ∉ line)
    (written : IsNodeLine line node parts) : parse line = .ok (.node node) := by
  obtain ⟨openingNonempty, openingBlank, identifier, behindIdNonempty, behindIdBlank, label,
    properties, rfl⟩ := written
  have separated : ∀ c ∈ (parts.behindId ++ (parts.label ++ parts.rest)).head?,
      Text.isBlank c = true := by
    obtain ⟨first, later, same⟩ := List.exists_cons_of_ne_nil behindIdNonempty
    rw [same] at behindIdBlank ⊢
    rintro _ ⟨⟩
    exact behindIdBlank first List.mem_cons_self
  rw [← String.ofList_toList (s := node.id)] at identifier
  have head := head?_line node.type openingNonempty openingBlank identifier separated
  rw [Text.trim_allBlank_append behindIdBlank, Text.trim_solid_append label.solid] at head
  have leads := Text.trimEnd_prefix parts.rest
  have ends : parts.rest <:+ node.type.keyword.toList ++ (parts.opening ++ (node.id.toList ++
      (parts.behindId ++ (parts.label ++ parts.rest)))) :=
    ⟨node.type.keyword.toList ++ parts.opening ++ node.id.toList ++ parts.behindId ++ parts.label,
      by simp⟩
  have single : '\n' ∉ Text.trimEnd parts.rest := fun member =>
    oneLine (ends.subset (leads.subset member))
  have labelled := label?_append (label.of_prefix leads) single
  have gives := propertiesOf_iff.mpr properties
  rw [← Text.trim_trimEnd, ← Text.trim_trimStart] at gives
  have other := after?_keyword node.type (parts.opening ++ (node.id.toList ++
    (parts.behindId ++ (parts.label ++ parts.rest))))
  simp only [parse, other, Option.bind_none, nodeOf, head, labelled, gives, String.ofList_toList]
  rfl

/-- A line is a node just if it is a keyword, blanks, an identifier, blanks and a label, and nothing
follows the label but blanks and what gives the properties. -/
theorem parse_node_iff (oneLine : '\n' ∉ line) (node : Node) :
    parse line = .ok (.node node) ↔ ∃ parts, IsNodeLine line node parts := by
  constructor
  · exact isNodeLine_of_parse
  · rintro ⟨parts, written⟩
    exact parse_of_isNodeLine oneLine written

def sampleNodeLine : List Char :=
  ['m', 'e', 't', 'r', 'i', 'c', '\t', 'm', '-', '1', ' ', ' ', '"', 'a', ' ', ':', '"', ':', '=',
    ' ', 'n', ' ', '>', ' ', '0', ' ']

def sampleMetric : Node :=
  ⟨"m-1", .metric, "a :", [("expr", .string "n > 0")]⟩

theorem parse_node_iff_of_sampleNodeLine :
    '\n' ∉ sampleNodeLine ∧ parse sampleNodeLine = .ok (.node sampleMetric) := by
  have single : '\n' ∉ sampleNodeLine := by decide
  have visible : ¬AllBlank [' ', 'n', ' ', '>', ' ', '0'] := fun blank => by
    cases blank 'n' (by decide)
  have properties : TailGives (Text.trim [':', '=', ' ', 'n', ' ', '>', ' ', '0', ' '])
      sampleMetric.properties := .expression visible
  refine ⟨single, (parse_node_iff single sampleMetric).mpr ⟨⟨['\t'], [' ', ' '],
    ['"', 'a', ' ', ':', '"'], [':', '=', ' ', 'n', ' ', '>', ' ', '0', ' ']⟩, ?_⟩⟩
  refine ⟨by decide, ?_, ?_, by decide, ?_, .quoted (by decide) (by decide), properties, by decide⟩
  · simp [AllBlank, Text.isBlank]
  · exact ⟨'m', ['-', '1'], by decide, by decide, by simp [isIdCharacter, isIdStart]⟩
  · simp [AllBlank, Text.isBlank]

end Statement

end Authoring
