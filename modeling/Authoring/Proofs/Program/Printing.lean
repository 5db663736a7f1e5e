import Mathlib
import Authoring.Program.Compiler
import Authoring.Proofs.Program.Edges
import Authoring.Proofs.Program.Nodes
import Authoring.Proofs.Program.Reading

/-! Printing graphs as programs, one statement a line, and compiling them back. -/

namespace Authoring

def Node.print (node : Node) : List Char :=
  node.type.keyword.toList ++ ' ' :: (node.id.toList ++ ' ' :: '"' ::
    (node.label.toList ++ '"' :: ' ' :: (Value.map node.properties).display))

def Edge.print (edge : Edge) : List Char :=
  'e' :: 'd' :: 'g' :: 'e' :: ' ' :: (edge.source.toList ++ ' ' :: '-' :: '>' :: ' ' ::
    (edge.target.toList ++ ' ' :: ':' :: ' ' :: edge.type.name.toList))

def Statement.print : Statement → List Char
  | .node declared => declared.print
  | .edge link => link.print

structure PlainNode (node : Node) : Prop where
  id : IsIdentifier node.id
  label : node.label ≠ ""
  unquoted : '"' ∉ node.label.toList
  oneLine : '\n' ∉ node.label.toList
  properties : Literal.PlainProperties node.properties

structure PlainEdge (edge : Edge) : Prop where
  source : IsIdentifier edge.source
  target : IsIdentifier edge.target

namespace Statement

def Plain : Statement → Prop
  | .node declared => PlainNode declared
  | .edge link => PlainEdge link

variable {statement : Statement}

theorem solid_print (statement : Statement) : Text.Solid statement.print := by
  cases statement with
  | node declared =>
      have keyword : Text.Solid declared.type.keyword.toList :=
        solid_of_isIdStart (by cases declared.type <;> decide) (keyword_starts declared.type)
      have whole := keyword.append (Literal.solid_map declared.properties)
        (' ' :: (declared.id.toList ++ ' ' :: '"' :: (declared.label.toList ++ ['"', ' '])))
      simpa [print, Node.print] using whole
  | edge link =>
      have letter : Text.Solid ['e'] := Text.solid_of_visible (by simp) (by simp; decide)
      have whole := letter.append (edgeType_solid link.type)
        ('d' :: 'g' :: 'e' :: ' ' :: (link.source.toList ++ ' ' :: '-' :: '>' :: ' ' ::
          (link.target.toList ++ [' ', ':', ' '])))
      simpa [print, Edge.print] using whole

theorem isSilent_print (statement : Statement) : Program.isSilent statement.print = false := by
  cases statement with
  | node declared =>
      obtain ⟨id, type, label, properties⟩ := declared
      cases type <;> simp [print, Node.print, NodeType.keyword, Program.isSilent]
  | edge link => rfl

theorem oneLine_print (plain : statement.Plain) : '\n' ∉ statement.print := by
  cases statement with
  | node declared =>
      have keyword : '\n' ∉ declared.type.keyword.toList := by
        intro member
        cases keyword_starts declared.type '\n' member
      simp [print, Node.print, keyword, oneLine_identifier plain.id, plain.oneLine,
        Literal.oneLine_map plain.properties]
  | edge link =>
      have type : '\n' ∉ link.type.name.toList := by
        cases link.type <;> decide
      simp [print, Edge.print, oneLine_identifier plain.source, oneLine_identifier plain.target,
        type]

/-! Each statement is a line of its grammar. -/

theorem parse_edge {edge : Edge} (plain : PlainEdge edge) :
    parse edge.print = .ok (.edge edge) := by
  have blank : Text.AllBlank [' '] := List.forall_mem_singleton.mpr (by decide)
  have nothing : Text.AllBlank [] := List.forall_mem_nil _
  have written : IsEdgeLine edge.print edge ⟨[' '], [' '], [' '], [' '], [' '], []⟩ := by
    refine ⟨plain.source, plain.target, ?_, by simp [Edge.print, EdgeGaps.line]⟩
    exact ⟨List.cons_ne_nil _ _, blank, blank, blank, blank, blank, nothing⟩
  exact parse_of_isEdgeLine written

theorem tailGives_display {properties : Properties}
    (plain : Literal.PlainProperties properties) :
    TailGives (Text.trim (' ' :: (Value.map properties).display)) properties := by
  rw [Text.trim_cons (by decide), (Literal.solid_map properties).trim]
  refine .object ?_ (Literal.object_display plain)
  cases properties with
  | nil => rfl
  | cons property later => rw [Literal.display_map, List.head?_cons]

theorem parse_node {node : Node} (plain : PlainNode node) :
    parse node.print = .ok (.node node) := by
  have blank : Text.AllBlank [' '] := List.forall_mem_singleton.mpr (by decide)
  have written : IsNodeLine node.print node ⟨[' '], [' '], '"' :: (node.label.toList ++ ['"']),
      ' ' :: (Value.map node.properties).display⟩ := by
    refine ⟨List.cons_ne_nil _ _, blank, plain.id, List.cons_ne_nil _ _, blank,
      .quoted plain.label plain.unquoted, tailGives_display plain.properties, ?_⟩
    simp [Node.print]
  exact parse_of_isNodeLine (@oneLine_print (.node node) plain) written

theorem parse_print (plain : statement.Plain) : parse statement.print = .ok statement := by
  cases statement with
  | node declared => exact parse_node plain
  | edge link => exact parse_edge plain

end Statement

/-! Programs -/

theorem Program.statements_print (options : CompileOptions) {written : List Statement}
    (plain : ∀ statement ∈ written, statement.Plain) {declared : List String}
    (distinct : ((written.filterMap Statement.node?).map Node.id ++ declared).Nodup)
    (number : Nat) :
    Program.statements options declared number (written.map Statement.print) = .ok written := by
  induction written generalizing declared number with
  | nil => rfl
  | cons statement rest ih =>
      have parsed := Statement.parse_print (plain statement List.mem_cons_self)
      have later := @ih fun other member => plain other (List.mem_cons_of_mem _ member)
      rw [List.map_cons, Program.statements, (Statement.solid_print statement).trim]
      simp only [Statement.isSilent_print, Bool.false_eq_true, if_false, parsed]
      cases statement with
      | edge link =>
          have tail := @later declared distinct (number + 1)
          simp only [tail]
          rfl
      | node node =>
          have moved : ((rest.filterMap Statement.node?).map Node.id ++
              node.id :: declared).Nodup := List.nodup_middle.mpr distinct
          have fresh : node.id ∉ declared := by
            have apart := (List.nodup_append.mp moved).2.1
            exact (List.nodup_cons.mp apart).1
          have tail := @later (node.id :: declared) moved (number + 1)
          simp only [fresh, false_and, if_false, tail]
          rfl

/-- Graphs that programs can say in full. -/
structure PlainGraph (graph : Graph) : Prop where
  ids : (graph.nodes.map Node.id).Nodup
  nodes : ∀ node ∈ graph.nodes, PlainNode node
  edges : ∀ edge ∈ graph.edges, PlainEdge edge

/-- Compiling undoes printing, however the statements of nodes and edges are mixed. -/
theorem compile_print {graph : Graph} (plain : PlainGraph graph) {written : List Statement}
    (nodes : written.filterMap Statement.node? = graph.nodes)
    (edges : written.filterMap Statement.edge? = graph.edges) {source : String}
    (holds : Text.Holds source.toList (written.map Statement.print)) (options : CompileOptions) :
    compile options source = .ok ⟨graph.nodes, graph.edges, some Graph.schemaId⟩ := by
  have each : ∀ statement ∈ written, statement.Plain := by
    intro statement member
    cases statement with
    | node declared =>
        have listed : declared ∈ written.filterMap Statement.node? :=
          List.mem_filterMap.mpr ⟨_, member, rfl⟩
        exact plain.nodes declared (nodes ▸ listed)
    | edge link =>
        have listed : link ∈ written.filterMap Statement.edge? :=
          List.mem_filterMap.mpr ⟨_, member, rfl⟩
        exact plain.edges link (edges ▸ listed)
  have lines : Text.lines source.toList = written.map Statement.print := by
    refine Text.lines_of_holds holds ?_ ?_
    · rw [List.forall_mem_map]
      exact fun statement _ => (Statement.solid_print statement).nonempty
    · rw [List.forall_mem_map]
      exact fun statement member => Statement.oneLine_print (each statement member)
  have distinct : ((written.filterMap Statement.node?).map Node.id ++ []).Nodup := by
    rw [nodes, List.append_nil]
    exact plain.ids
  rw [compile, lines, Program.statements_print options each distinct]
  simp only [bind, Except.bind, pure, Except.pure, Graph.ofStatements, nodes, edges]

def sampleGoal : Node :=
  ⟨"g1", .goal, "Ship it, soon",
    [("rank", .int (-3)), ("tags", .list [.string "a, b", .list [.bool true, .int 7]])]⟩

def sampleTask : Node :=
  ⟨"t-1", .task, "Draft", []⟩

def sampleLink : Edge :=
  ⟨"g1", "t-1", .requires⟩

def samplePlan : Graph :=
  ⟨[sampleGoal, sampleTask], [sampleLink], some Graph.schemaId⟩

def sampleProgram : String :=
  "goal g1 \"Ship it, soon\" \x7brank: -3, tags: [\"a, b\", [true, 7]]\x7d\n" ++
    "edge g1 -> t-1 : requires\n" ++ "task t-1 \"Draft\" \x7b\x7d"

theorem isIdentifier_g1 : IsIdentifier "g1" :=
  ⟨'g', ['1'], by decide, by decide, by simp [Statement.isIdCharacter, Statement.isIdStart]⟩

theorem isIdentifier_t1 : IsIdentifier "t-1" :=
  ⟨'t', ['-', '1'], by decide, by decide, by simp [Statement.isIdCharacter, Statement.isIdStart]⟩

theorem samplePlan_plain : PlainGraph samplePlan where
  ids := by decide
  nodes := by
    intro node member
    simp only [samplePlan, List.mem_cons, List.not_mem_nil, or_false] at member
    rcases member with rfl | rfl
    · refine ⟨isIdentifier_g1, by decide, by decide, by decide, by decide, ?_, ?_⟩
      · intro property member
        simp only [sampleGoal, List.mem_cons, List.not_mem_nil, or_false] at member
        rcases member with rfl | rfl <;> exact ⟨by decide, by decide, by simp⟩
      · intro property member
        simp only [sampleGoal, List.mem_cons, List.not_mem_nil, or_false] at member
        rcases member with rfl | rfl <;> simp [Value.Plain, Value.PlainItems]
    · exact ⟨isIdentifier_t1, by decide, by decide, by decide, List.nodup_nil,
        List.forall_mem_nil _, List.forall_mem_nil _⟩
  edges := by
    intro edge member
    rw [List.mem_singleton.mp member]
    exact ⟨isIdentifier_g1, isIdentifier_t1⟩

theorem compile_print_of_samplePlan : compile .default sampleProgram = .ok samplePlan := by
  have holds : Text.Holds sampleProgram.toList
      ([.node sampleGoal, .edge sampleLink, .node sampleTask].map Statement.print) := by
    right
    decide +kernel
  exact compile_print samplePlan_plain rfl rfl holds .default

end Authoring
