import Mathlib
import Authoring.Score.Basic

/-! What a score depends on: the ids and the types of the nodes, those of their properties that are
booleans, and the edges. It does not depend on the order in which they come. -/

namespace Authoring

structure Graph.ScoresLike (left right : Graph) : Prop where
  nodesOf_isEmpty : ∀ type, (left.nodesOf type).isEmpty = (right.nodesOf type).isEmpty
  passRatio : ∀ type key expected, Score.passRatio (left.nodesOf type) key expected =
    Score.passRatio (right.nodesOf type) key expected
  structureCompleteness : Score.structureCompleteness left = Score.structureCompleteness right
  citation : Score.hasCitation left = Score.hasCitation right

theorem Score.score_congr {left right : Graph}
    (constraints : (left.nodesOf .constraint).isEmpty = (right.nodesOf .constraint).isEmpty)
    (tests : (left.nodesOf .test).isEmpty = (right.nodesOf .test).isEmpty)
    (deliverable : Score.hasDeliverable left = Score.hasDeliverable right)
    (citation : Score.hasCitation left = Score.hasCitation right)
    (constraintPass : Score.constraintPass left = Score.constraintPass right)
    (testPass : Score.testPass left = Score.testPass right)
    (structureCompleteness :
      Score.structureCompleteness left = Score.structureCompleteness right)
    (weights : PerComponent) : Authoring.score weights left = Authoring.score weights right := by
  have components : Score.components left = Score.components right := by
    simp only [Score.components, constraintPass, testPass, structureCompleteness, deliverable,
      citation]
  have hints : Score.hints left = Score.hints right := by
    simp only [Score.hints, constraintPass, testPass, structureCompleteness, deliverable, citation,
      constraints, tests]
  rw [Authoring.score, Authoring.score, components, hints]

theorem Graph.ScoresLike.score {left right : Graph} (alike : left.ScoresLike right)
    (weights : PerComponent) : Authoring.score weights left = Authoring.score weights right := by
  have deliverable : Score.hasDeliverable left = Score.hasDeliverable right := by
    rw [Score.hasDeliverable, Score.hasDeliverable, alike.nodesOf_isEmpty]
  exact Score.score_congr (alike.nodesOf_isEmpty .constraint) (alike.nodesOf_isEmpty .test)
    deliverable alike.citation (alike.passRatio .constraint "required" false)
    (alike.passRatio .test "pass" true) alike.structureCompleteness weights

/-! Nodes that are alike -/

structure Node.Resembles (left right : Node) : Prop where
  id : left.id = right.id
  type : left.type = right.type
  flags : ∀ key, (left.get? key).bind Value.bool? = (right.get? key).bind Value.bool?

theorem countP_of_forall₂ {relates : Node → Node → Prop} {left right : List Node}
    (alike : List.Forall₂ relates left right) {counts : Node → Bool}
    (same : ∀ first second, relates first second → counts first = counts second) :
    left.countP counts = right.countP counts := by
  induction alike with
  | nil => rfl
  | cons first _ ih => rw [List.countP_cons, List.countP_cons, ih, same _ _ first]

theorem isEmpty_of_forall₂ {relates : Node → Node → Prop} {left right : List Node}
    (alike : List.Forall₂ relates left right) : left.isEmpty = right.isEmpty := by
  cases alike <;> rfl

theorem passRatio_of_resembles {left right : List Node}
    (alike : List.Forall₂ Node.Resembles left right) (key : String) (expected : Bool) :
    Score.passRatio left key expected = Score.passRatio right key expected := by
  simp only [Score.passRatio, isEmpty_of_forall₂ alike, alike.length_eq]
  rw [countP_of_forall₂ alike]
  intro first second same
  rw [same.flags]

structure Graph.Resembles (left right : Graph) : Prop where
  nodes : List.Forall₂ Node.Resembles left.nodes right.nodes
  edges : left.edges = right.edges

namespace Graph.Resembles

variable {left right : Graph}

theorem nodesOf (alike : left.Resembles right) (type : NodeType) :
    List.Forall₂ Node.Resembles (left.nodesOf type) (right.nodesOf type) := by
  apply List.rel_filter ?_ alike.nodes
  intro first second same
  simp [same.type]

theorem nodesOf_isEmpty (alike : left.Resembles right) (type : NodeType) :
    (left.nodesOf type).isEmpty = (right.nodesOf type).isEmpty :=
  isEmpty_of_forall₂ (alike.nodesOf type)

theorem ids (alike : left.Resembles right) : left.nodes.map Node.id = right.nodes.map Node.id := by
  rw [← List.forall₂_eq_eq_eq, List.forall₂_map_left_iff, List.forall₂_map_right_iff]
  exact alike.nodes.imp fun _ _ same => same.id

theorem hasNode (alike : left.Resembles right) (id : String) :
    left.hasNode id = right.hasNode id := by
  have found := congrArg (List.any · (· == id)) alike.ids
  rwa [List.any_map, List.any_map] at found

theorem structureCompleteness (alike : left.Resembles right) :
    Score.structureCompleteness left = Score.structureCompleteness right := by
  have dangling : left.danglingEdges = right.danglingEdges := by
    rw [Graph.danglingEdges, Graph.danglingEdges, alike.edges]
    congr 1
    funext edge
    rw [Graph.isDangling, Graph.isDangling, alike.hasNode, alike.hasNode]
  rw [Score.structureCompleteness, Score.structureCompleteness, dangling, alike.edges]

theorem scoresLike (alike : left.Resembles right) : left.ScoresLike right where
  nodesOf_isEmpty := alike.nodesOf_isEmpty
  passRatio := fun type => passRatio_of_resembles (alike.nodesOf type)
  structureCompleteness := alike.structureCompleteness
  citation := by
    rw [Score.hasCitation, Score.hasCitation, Graph.edgesOf, Graph.edgesOf, alike.edges]

end Graph.Resembles

/-! Nodes and edges in another order -/

theorem passRatio_of_perm {left right : List Node} (moved : left.Perm right) (key : String)
    (expected : Bool) : Score.passRatio left key expected = Score.passRatio right key expected := by
  simp only [Score.passRatio, moved.isEmpty_eq, moved.countP_eq, moved.length_eq]

structure Graph.Rearranges (left right : Graph) : Prop where
  nodes : left.nodes.Perm right.nodes
  edges : left.edges.Perm right.edges

namespace Graph.Rearranges

variable {left right : Graph}

theorem hasNode (moved : left.Rearranges right) (id : String) :
    left.hasNode id = right.hasNode id :=
  moved.nodes.any_eq

theorem danglingEdges (moved : left.Rearranges right) :
    left.danglingEdges.Perm right.danglingEdges := by
  have same : left.isDangling = right.isDangling := by
    funext edge
    rw [Graph.isDangling, Graph.isDangling, moved.hasNode, moved.hasNode]
  rw [Graph.danglingEdges, Graph.danglingEdges, same]
  exact moved.edges.filter _

theorem scoresLike (moved : left.Rearranges right) : left.ScoresLike right where
  nodesOf_isEmpty := fun _ => (moved.nodes.filter _).isEmpty_eq
  passRatio := fun _ => passRatio_of_perm (moved.nodes.filter _)
  structureCompleteness := by
    rw [Score.structureCompleteness, Score.structureCompleteness, moved.edges.isEmpty_eq,
      moved.danglingEdges.length_eq, moved.edges.length_eq]
  citation := by
    rw [Score.hasCitation, Score.hasCitation]
    exact congrArg not (moved.edges.filter _).isEmpty_eq

end Graph.Rearranges

end Authoring
