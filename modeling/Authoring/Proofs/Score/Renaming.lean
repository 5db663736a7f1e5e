import Mathlib
import Authoring.Proofs.Score.Counts
import Authoring.Proofs.Score.Reads

/-! Scores of graphs that are the same but for the names of things. A score tells ids apart and
looks at no more of them; labels, the schema and most properties it does not see at all. -/

namespace Authoring

/-- The same node under a new id. One property counts for constraints and one for tests; every other
may have changed. -/
structure Node.Renames (rename : String → String) (left right : Node) : Prop where
  id : right.id = rename left.id
  type : right.type = left.type
  required : left.type = .constraint → right.get? "required" = left.get? "required"
  pass : left.type = .test → right.get? "pass" = left.get? "pass"

def Edge.renamed (rename : String → String) (edge : Edge) : Edge :=
  ⟨rename edge.source, rename edge.target, edge.type⟩

def Graph.names (graph : Graph) : Set String :=
  {name | (∃ node ∈ graph.nodes, node.id = name) ∨
    ∃ edge ∈ graph.edges, edge.source = name ∨ edge.target = name}

structure Graph.RenamesInPlace (rename : String → String) (left right : Graph) : Prop where
  injective : Set.InjOn rename left.names
  nodes : List.Forall₂ (Node.Renames rename) left.nodes right.nodes
  edges : right.edges = left.edges.map (Edge.renamed rename)

def Graph.Renames (rename : String → String) (left right : Graph) : Prop :=
  ∃ middle, Graph.RenamesInPlace rename left middle ∧ middle.Rearranges right

namespace Graph.RenamesInPlace

variable {rename : String → String} {left right : Graph}

theorem nodesOf (renames : RenamesInPlace rename left right) (type : NodeType) :
    List.Forall₂ (Node.Renames rename) (left.nodesOf type) (right.nodesOf type) := by
  apply List.rel_filter ?_ renames.nodes
  intro first second same
  simp [same.type]

theorem passing (renames : RenamesInPlace rename left right) (type : NodeType) (key : String)
    (expected : Bool) (kept : ∀ first second, Node.Renames rename first second →
      first.type = type → second.get? key = first.get? key) :
    left.passing type key expected = right.passing type key expected := by
  rw [passing_eq, passing_eq]
  apply countP_of_forall₂ renames.nodes
  intro first second same
  by_cases typed : first.type = type
  · rw [Node.passes, Node.passes, kept first second same typed, same.type]
  · have other : (first.type == type) = false := beq_eq_false_iff_ne.mpr typed
    rw [same.type, other, Bool.and_false, Bool.and_false]

theorem passRatio (renames : RenamesInPlace rename left right) (type : NodeType) (key : String)
    (expected : Bool) (kept : ∀ first second, Node.Renames rename first second →
      first.type = type → second.get? key = first.get? key) :
    Score.passRatio (left.nodesOf type) key expected =
      Score.passRatio (right.nodesOf type) key expected := by
  have counts := renames.passing type key expected kept
  unfold Graph.passing at counts
  rw [Score.passRatio_eq, Score.passRatio_eq, counts, (renames.nodesOf type).length_eq]

theorem hasNode (renames : RenamesInPlace rename left right) {name : String}
    (known : name ∈ left.names) : right.hasNode (rename name) = left.hasNode name := by
  have ids : right.nodes.map Node.id = left.nodes.map fun node => rename node.id := by
    rw [← List.forall₂_eq_eq_eq, List.forall₂_map_left_iff, List.forall₂_map_right_iff]
    exact (renames.nodes.imp fun _ _ same => same.id).flip
  rw [Bool.eq_iff_iff, Graph.hasNode_iff, Graph.hasNode_iff, ← List.mem_map, ids, List.mem_map]
  constructor
  · rintro ⟨node, member, same⟩
    have listed : node.id ∈ left.names := .inl ⟨node, member, rfl⟩
    exact ⟨node, member, renames.injective listed known same⟩
  · rintro ⟨node, member, rfl⟩
    exact ⟨node, member, rfl⟩

theorem isDangling (renames : RenamesInPlace rename left right) {edge : Edge}
    (member : edge ∈ left.edges) :
    right.isDangling (edge.renamed rename) = left.isDangling edge := by
  have source : edge.source ∈ left.names := .inr ⟨edge, member, .inl rfl⟩
  have target : edge.target ∈ left.names := .inr ⟨edge, member, .inr rfl⟩
  rw [Graph.isDangling, Graph.isDangling, Edge.renamed, renames.hasNode source,
    renames.hasNode target]

theorem danglingEdges (renames : RenamesInPlace rename left right) :
    right.danglingEdges = left.danglingEdges.map (Edge.renamed rename) := by
  rw [Graph.danglingEdges, Graph.danglingEdges, renames.edges, List.filter_map]
  congr 1
  exact List.filter_congr fun edge member => renames.isDangling member

theorem edgesOf (renames : RenamesInPlace rename left right) (type : EdgeType) :
    right.edgesOf type = (left.edgesOf type).map (Edge.renamed rename) := by
  rw [Graph.edgesOf, Graph.edgesOf, renames.edges, List.filter_map]
  rfl

theorem structureCompleteness (renames : RenamesInPlace rename left right) :
    Score.structureCompleteness left = Score.structureCompleteness right := by
  rw [Score.structureCompleteness_eq, Score.structureCompleteness_eq, renames.danglingEdges,
    renames.edges, List.length_map, List.length_map]

theorem score (renames : RenamesInPlace rename left right) (weights : PerComponent) :
    Authoring.score weights left = Authoring.score weights right := by
  have isEmpty (type : NodeType) := isEmpty_of_forall₂ (renames.nodesOf type)
  have deliverable : Score.hasDeliverable left = Score.hasDeliverable right := by
    rw [Score.hasDeliverable, Score.hasDeliverable, isEmpty]
  have citation : Score.hasCitation left = Score.hasCitation right := by
    rw [Score.hasCitation, Score.hasCitation, renames.edgesOf, List.isEmpty_map]
  have constraints := renames.passRatio .constraint "required" false fun _ _ same => same.required
  have tests := renames.passRatio .test "pass" true fun _ _ same => same.pass
  exact Score.score_congr (isEmpty .constraint) (isEmpty .test) deliverable citation constraints
    tests renames.structureCompleteness weights

end Graph.RenamesInPlace

theorem score_of_renames {rename : String → String} {left right : Graph}
    (renames : Graph.Renames rename left right) (weights : PerComponent) :
    score weights left = score weights right := by
  obtain ⟨middle, renamed, moved⟩ := renames
  exact (renamed.score weights).trans (moved.scoresLike.score weights)

def sampleNamed : Graph where
  nodes := [⟨"a", .constraint, "A", [("required", .bool false)]⟩, ⟨"b", .deliverable, "B", []⟩]
  edges := [⟨"a", "b", .requires⟩, ⟨"b", "c", .cites⟩]
  schema := none

def sampleRenamed : Graph where
  nodes := [⟨"b1", .deliverable, "", [("required", .null)]⟩,
    ⟨"a1", .constraint, "C", [("n", .null), ("required", .bool false)]⟩]
  edges := [⟨"b1", "c1", .cites⟩, ⟨"a1", "b1", .requires⟩]
  schema := some Graph.schemaId

theorem score_of_renames_sampleNamed :
    Graph.Renames (· ++ "1") sampleNamed sampleRenamed ∧
      score .ones sampleNamed = score .ones sampleRenamed := by
  have injective : Set.InjOn (· ++ "1") sampleNamed.names := by
    intro first _ second _ same
    simpa using same
  have renames : Graph.Renames (· ++ "1") sampleNamed sampleRenamed := by
    refine ⟨⟨sampleRenamed.nodes.reverse, sampleRenamed.edges.reverse, none⟩,
      ⟨injective, ?_, rfl⟩, List.reverse_perm _, List.reverse_perm _⟩
    refine .cons ⟨rfl, rfl, fun _ => rfl, by simp⟩ (.cons ⟨rfl, rfl, by simp, by simp⟩ .nil)
  exact ⟨renames, score_of_renames renames .ones⟩

end Authoring
