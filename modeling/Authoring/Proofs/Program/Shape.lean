import Mathlib
import Authoring.Proofs.Program.Edges
import Authoring.Proofs.Program.Nodes
import Authoring.Proofs.Program.Values
import Authoring.Proofs.Repeats

/-! The shape of compiled programs. Every text in a graph is a piece of a line, and ids, labels and
names have the form that the statements give them. -/

namespace Authoring

namespace Value

mutual
def texts : Value → List String
  | .string text => [text]
  | .list items => textsOfItems items
  | .map fields => textsOfFields fields
  | _ => []

def textsOfItems : List Value → List String
  | [] => []
  | item :: rest => item.texts ++ textsOfItems rest

def textsOfFields : List (String × Value) → List String
  | [] => []
  | (name, value) :: rest => name :: (value.texts ++ textsOfFields rest)
end

theorem texts_of_isNumeric {value : Value} (numeric : value.isNumeric = true) :
    value.texts = [] := by
  cases value with
  | int | float => rfl
  | null | bool | string | list | map => cases numeric

theorem mem_textsOfItems {text : String} {items : List Value} :
    text ∈ textsOfItems items ↔ ∃ item ∈ items, text ∈ item.texts := by
  induction items with
  | nil => simp [textsOfItems]
  | cons item rest ih => simp [textsOfItems, ih]

theorem mem_textsOfFields {text : String} {fields : List (String × Value)} :
    text ∈ textsOfFields fields ↔ ∃ field ∈ fields, text = field.1 ∨ text ∈ field.2.texts := by
  induction fields with
  | nil => simp [textsOfFields]
  | cons field rest ih => simp [textsOfFields, ih, or_assoc]

end Value

def Node.texts (node : Node) : List String :=
  node.id :: node.label :: Value.textsOfFields node.properties

def Edge.texts (edge : Edge) : List String :=
  [edge.source, edge.target]

structure IsName (name : String) : Prop where
  solid : Text.Solid name.toList
  uncoloned : ':' ∉ name.toList

structure Node.WellFormed (node : Node) : Prop where
  id : IsIdentifier node.id
  label : node.label ≠ ""
  unquoted : '"' ∉ node.label.toList
  names : ∀ property ∈ node.properties, IsName property.1
  values : ∀ property ∈ node.properties, property.2.Written
  oneLine : ∀ text ∈ node.texts, '\n' ∉ text.toList

structure Edge.WellFormed (edge : Edge) : Prop where
  source : IsIdentifier edge.source
  target : IsIdentifier edge.target
  oneLine : ∀ text ∈ edge.texts, '\n' ∉ text.toList

namespace Literal

variable {text entry body : List Char}

theorem between?_within {opening closing : Char} {inner : List Char}
    (found : between? opening closing text = some inner) : inner <:+: text := by
  cases text with
  | nil => cases found
  | cons c rest =>
      rw [between?] at found
      split at found
      · rw [← Option.some.inj found]
        exact (List.dropLast_prefix rest).isInfix.trans (List.suffix_cons c rest).isInfix
      · cases found

theorem piecesFrom_within (scan : Scan) (body : List Char) :
    (piecesFrom scan body).1 <+: body ∧ ∀ piece ∈ (piecesFrom scan body).2, piece <:+: body := by
  induction body generalizing scan with
  | nil => simp [piecesFrom]
  | cons c rest ih =>
      have longer : rest <:+: c :: rest := (List.suffix_cons c rest).isInfix
      rw [piecesFrom]
      split
      · obtain ⟨first, later⟩ := ih scan
        refine ⟨List.nil_prefix, ?_⟩
        rw [List.forall_mem_cons]
        exact ⟨first.isInfix.trans longer, fun piece member => (later piece member).trans longer⟩
      · obtain ⟨first, later⟩ := ih (scan.next c)
        exact ⟨(List.prefix_cons_inj c).mpr first,
          fun piece member => (later piece member).trans longer⟩

theorem pieces_within {piece : List Char} (member : piece ∈ pieces body) : piece <:+: body := by
  rw [pieces] at member
  split at member
  · cases member
  · obtain ⟨first, later⟩ := piecesFrom_within .start body
    rcases List.mem_cons.mp member with rfl | member
    · exact first.isInfix
    · exact later piece member

theorem entries_within (member : entry ∈ entries body) : entry <:+: body := by
  obtain ⟨trimmed, -⟩ := List.mem_filter.mp member
  obtain ⟨piece, found, rfl⟩ := List.mem_map.mp trimmed
  exact (Text.trim_within piece).trans (pieces_within found)

theorem listEntries?_within {found : List (List Char)} (list : listEntries? text = some found)
    (member : entry ∈ found) : entry <:+: text := by
  obtain ⟨inner, inside, rfl⟩ := Option.map_eq_some_iff.mp list
  exact (entries_within member).trans ((Text.trim_within inner).trans (between?_within inside))

theorem value_texts (text : List Char) : ∀ piece ∈ (value text).texts, piece.toList <:+: text := by
  fun_induction value text with
  | case1 text inner inside =>
      intro piece member
      rw [List.mem_singleton.mp member, String.toList_ofList]
      exact between?_within inside
  | case2 => exact List.forall_mem_nil _
  | case3 => exact List.forall_mem_nil _
  | case4 text _ _ _ number found =>
      rw [Value.texts_of_isNumeric (number?_isNumeric found)]
      exact List.forall_mem_nil _
  | case5 text _ _ _ _ entries list ih =>
      intro piece member
      obtain ⟨item, listed, inside⟩ := Value.mem_textsOfItems.mp member
      obtain ⟨⟨entry, found⟩, -, rfl⟩ := List.mem_map.mp listed
      exact (ih entry found piece inside).trans (listEntries?_within list found)
  | case6 text =>
      intro piece member
      rw [List.mem_singleton.mp member, String.toList_ofList]

theorem property_shape {property : String × Value}
    (read : Literal.property entry = .ok property) :
    IsName property.1 ∧ property.1.toList <:+: entry ∧
      ∀ piece ∈ property.2.texts, piece.toList <:+: entry := by
  simp only [Literal.property] at read
  split at read
  · cases read
  · rename_i c text after
    split at read
    · cases read
    · rename_i nonempty
      cases read
      have name := Text.trim_within (entry.takeWhile (· != ':'))
      have before := (List.takeWhile_prefix (· != ':') (l := entry)).isInfix
      have behind : text <:+: entry := by
        have suffix := List.dropWhile_suffix (· != ':') (l := entry)
        rw [after] at suffix
        exact (List.suffix_cons c text).isInfix.trans suffix.isInfix
      refine ⟨⟨?_, ?_⟩, ?_, fun piece member => ?_⟩
      · rw [String.toList_ofList]
        exact Text.solid_trim (by simpa using nonempty)
      · rw [String.toList_ofList]
        intro member
        simpa using List.mem_takeWhile_imp (name.subset member)
      · rw [String.toList_ofList]
        exact name.trans before
      · exact (value_texts _ piece member).trans ((Text.trim_within text).trans behind)

theorem object_shape {source : List Char} {properties : Properties}
    (read : object source = .ok properties) :
    (∀ property ∈ properties, IsName property.1) ∧
      ∀ piece ∈ Value.textsOfFields properties, piece.toList <:+: source := by
  obtain ⟨-, body, inside, each⟩ := object_parts read
  obtain ⟨inner, between, rfl⟩ := Option.map_eq_some_iff.mp inside
  have within : Text.trim inner <:+: source :=
    (Text.trim_within inner).trans ((between?_within between).trans (Text.trim_within source))
  constructor
  · intro property member
    obtain ⟨entry, -, read⟩ := each property member
    exact (property_shape read).1
  · intro piece member
    obtain ⟨property, listed, inside⟩ := Value.mem_textsOfFields.mp member
    obtain ⟨entry, found, read⟩ := each property listed
    obtain ⟨-, name, value⟩ := property_shape read
    have behind := (entries_within found).trans within
    rcases inside with rfl | inside
    · exact name.trans behind
    · exact (value piece inside).trans behind

end Literal

namespace Statement

variable {text line rest tail label : List Char}

structure IsLabel (text label tail : List Char) : Prop where
  nonempty : label ≠ []
  unquoted : '"' ∉ label
  inside : label <:+: text
  behind : tail <:+: text

theorem isLabel_of_written {label : String} (written : LabelWritten label text rest) :
    IsLabel (text ++ rest) label.toList rest := by
  have behind : rest <:+: text ++ rest := (List.suffix_append text rest).isInfix
  cases written with
  | quoted nonempty unquoted =>
      refine ⟨mt String.toList_eq_nil_iff.mp nonempty, unquoted, ⟨['"'], '"' :: rest, ?_⟩, behind⟩
      simp
  | bare identifier =>
      obtain ⟨first, later, same, start, characters⟩ := identifier
      refine ⟨by simp [same], ?_, (List.prefix_append _ rest).isInfix, behind⟩
      rw [same, List.mem_cons, not_or]
      constructor
      · rintro rfl
        cases start
      · intro member
        cases characters '"' member

theorem isName_expr : IsName "expr" := by
  have starts : ∀ c ∈ "expr".toList, isIdStart c = true := by
    rw [← List.all_eq_true]
    decide
  exact ⟨solid_of_isIdStart (by decide) starts, by decide⟩

theorem properties_shape {properties : Properties} (gives : TailGives tail properties) :
    (∀ property ∈ properties, IsName property.1) ∧
      ∀ piece ∈ Value.textsOfFields properties, piece = "expr" ∨ piece.toList <:+: tail := by
  cases gives with
  | nothing => exact ⟨List.forall_mem_nil _, List.forall_mem_nil _⟩
  | noExpression => exact ⟨List.forall_mem_nil _, List.forall_mem_nil _⟩
  | @expression expression visible =>
      have behind : expression <:+ ':' :: '=' :: expression := ⟨[':', '='], rfl⟩
      refine ⟨List.forall_mem_singleton.mpr isName_expr, fun piece member => ?_⟩
      obtain ⟨field, listed, inside⟩ := Value.mem_textsOfFields.mp member
      rw [List.mem_singleton.mp listed] at inside
      rcases inside with rfl | inside
      · exact .inl rfl
      · rw [List.mem_singleton.mp inside, String.toList_ofList]
        exact .inr ((Text.trim_within expression).trans behind.isInfix)
  | object opening accepted =>
      obtain ⟨names, inside⟩ := Literal.object_shape accepted
      exact ⟨names, fun piece member => .inr (inside piece member)⟩

theorem node_shape {node : Node} {parts : NodeParts} (oneLine : '\n' ∉ line)
    (written : IsNodeLine line node parts) : node.WellFormed := by
  have label := isLabel_of_written written.label
  obtain ⟨names, pieces⟩ := properties_shape written.properties
  have behind : parts.label ++ parts.rest <:+ line :=
    ⟨node.type.keyword.toList ++ parts.opening ++ node.id.toList ++ parts.behindId,
      by simp [written.whole]⟩
  have single : ∀ {piece : List Char}, piece <:+: parts.label ++ parts.rest → '\n' ∉ piece :=
    fun inside member => oneLine (behind.subset (inside.subset member))
  refine ⟨written.id, by simpa using label.nonempty, label.unquoted, names,
    (properties_written written.properties).values, ?_⟩
  rw [Node.texts, List.forall_mem_cons, List.forall_mem_cons]
  refine ⟨oneLine_identifier written.id, single label.inside, fun piece member => ?_⟩
  -- All texts of the properties are pieces of the line, but for one name.
  rcases pieces piece member with rfl | inside
  · decide
  · exact single (inside.trans ((Text.trim_within parts.rest).trans label.behind))

theorem edge_shape {edge : Edge} {gaps : EdgeGaps} (written : IsEdgeLine line edge gaps) :
    edge.WellFormed := by
  refine ⟨written.source, written.target, ?_⟩
  simp only [Edge.texts, List.forall_mem_cons]
  exact ⟨oneLine_identifier written.source, oneLine_identifier written.target,
    List.forall_mem_nil _⟩

def WellFormed : Statement → Prop
  | .node declared => declared.WellFormed
  | .edge link => link.WellFormed

theorem parse_shape {statement : Statement} (oneLine : '\n' ∉ line)
    (read : parse line = .ok statement) : statement.WellFormed := by
  cases statement with
  | node declared =>
      obtain ⟨parts, written⟩ := isNodeLine_of_parse read
      exact node_shape oneLine written
  | edge link =>
      obtain ⟨gaps, written⟩ := isEdgeLine_of_parse read
      exact edge_shape written

end Statement

/-! Programs -/

structure Graph.WellFormed (graph : Graph) : Prop where
  nodes : ∀ node ∈ graph.nodes, node.WellFormed
  edges : ∀ edge ∈ graph.edges, edge.WellFormed

/-- Whatever the program, the graph that it compiles to is well-formed, and a strict compilation
gives its nodes different ids. -/
theorem compile_wellFormed {options : CompileOptions} {source : String} {graph : Graph}
    (compiled : compile options source = .ok graph) :
    graph.WellFormed ∧
      (options.allowDuplicateIds = false → (graph.nodes.map Node.id).Nodup) := by
  obtain ⟨nodes, edges⟩ := lines_of_compiled compiled
  have shaped : ∀ statement, (∃ raw ∈ Text.lines source.toList,
      Statement.parse (Text.trim raw) = .ok statement) → statement.WellFormed := by
    rintro statement ⟨raw, inside, read⟩
    refine Statement.parse_shape (fun member => ?_) read
    exact Text.noFeed_of_mem_lines inside ((Text.trim_within raw).subset member)
  refine ⟨⟨fun node member => shaped (.node node) (nodes node member),
    fun edge member => shaped (.edge edge) (edges edge member)⟩, fun strict => ?_⟩
  obtain ⟨allow⟩ := options
  rw [show allow = false from strict] at compiled
  exact repeats_eq_nil_iff.mp (compile_strict_ok_iff.mp compiled).2

def sampleDraft : String :=
  "  task t-1 \"Draft: a, b\" := words > 300\r\n\nedge t-1-> g1 :refines"

def sampleDraftGraph : Graph :=
  ⟨[⟨"t-1", .task, "Draft: a, b", [("expr", .string "words > 300")]⟩],
    [⟨"t-1", "g1", .refines⟩], some Graph.schemaId⟩

theorem compile_wellFormed_of_sampleDraft :
    compile .default sampleDraft = .ok sampleDraftGraph ∧ sampleDraftGraph.WellFormed ∧
      (sampleDraftGraph.nodes.map Node.id).Nodup := by
  have compiled : compile .default sampleDraft = .ok sampleDraftGraph := rfl
  obtain ⟨shaped, distinct⟩ := compile_wellFormed compiled
  exact ⟨compiled, shaped, distinct rfl⟩

end Authoring
