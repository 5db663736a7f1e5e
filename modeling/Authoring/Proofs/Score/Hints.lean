import Mathlib
import Authoring.Proofs.Score.Counts

/-! The hints of a report are those for the problems that the graph has. Rounding hides none of them
as long as floats hold the counts exactly. -/

namespace Authoring

open Decimal

def Hint.all : List Hint :=
  [dangling, missingCitation, unmetConstraints, failingTests]

def Graph.Shows (graph : Graph) : Hint → Prop
  | .dangling => ∃ edge ∈ graph.edges, (∀ node ∈ graph.nodes, node.id ≠ edge.source) ∨
      ∀ node ∈ graph.nodes, node.id ≠ edge.target
  | .missingCitation => (∃ node ∈ graph.nodes, node.type = .deliverable) ∧
      ∀ edge ∈ graph.edges, edge.type ≠ .cites
  | .unmetConstraints => ∃ node ∈ graph.nodes, node.type = .constraint ∧
      node.get? "required" ≠ some (.bool false)
  | .failingTests => ∃ node ∈ graph.nodes, node.type = .test ∧
      node.get? "pass" ≠ some (.bool true)

theorem Hint.text_injective : Function.Injective Hint.text := by
  intro hint other same
  cases hint <;> cases other <;> first | rfl | exact absurd same (by decide)

theorem Hint.filter_texts (present : Hint → Bool) :
    (Hint.all.filter present).map Hint.text =
      ([(.dangling, "Fix dangling edges or missing nodes."),
        (.missingCitation, "Add at least one citation (cites edge) for deliverables."),
        (.unmetConstraints, "Some constraints marked required are unmet."),
        (.failingTests, "Some tests are failing or unspecified.")].filter
          fun entry => present entry.1).map Prod.snd := by
  have listed : (Hint.all.map fun hint => (hint, hint.text)).filter (fun entry => present entry.1) =
      (Hint.all.filter present).map fun hint => (hint, hint.text) := List.filter_map
  change _ = ((Hint.all.map fun hint => (hint, hint.text)).filter fun entry =>
    present entry.1).map Prod.snd
  rw [listed, List.map_map]
  rfl

variable {graph : Graph}

theorem Graph.isDangling_iff {edge : Edge} :
    graph.isDangling edge = true ↔ (∀ node ∈ graph.nodes, node.id ≠ edge.source) ∨
      ∀ node ∈ graph.nodes, node.id ≠ edge.target := by
  simp only [Graph.isDangling, Bool.or_eq_true, Bool.not_eq_true', ← Bool.not_eq_true,
    Graph.hasNode_iff, not_exists, not_and, ne_eq]

namespace Score

def gives (graph : Graph) : Hint → Bool
  | .dangling => structureCompleteness graph < 1
  | .missingCitation => hasDeliverable graph && !hasCitation graph
  | .unmetConstraints => !(graph.nodesOf .constraint).isEmpty && constraintPass graph < 1
  | .failingTests => !(graph.nodesOf .test).isEmpty && testPass graph < 1

theorem hints_eq_filter (graph : Graph) : hints graph = Hint.all.filter (gives graph) := by
  have single (hint : Hint) :
      [hint].filter (gives graph) = if gives graph hint then [hint] else [] := by
    cases given : gives graph hint <;> simp [given]
  calc
    hints graph = [Hint.dangling].filter (gives graph) ++
        [Hint.missingCitation].filter (gives graph) ++
        [Hint.unmetConstraints].filter (gives graph) ++
        [Hint.failingTests].filter (gives graph) := by
      simp only [single, gives, decide_eq_true_eq]
      rfl
    _ = Hint.all.filter (gives graph) := by
      rw [← List.filter_append, ← List.filter_append, ← List.filter_append]
      rfl

theorem hasDeliverable_iff :
    hasDeliverable graph = true ↔ ∃ node ∈ graph.nodes, node.type = .deliverable := by
  simp [hasDeliverable, Graph.nodesOf]

theorem hasCitation_iff : hasCitation graph = true ↔ ∃ edge ∈ graph.edges, edge.type = .cites := by
  simp [hasCitation, Graph.edgesOf]

theorem passRatio_nodesOf_lt_one_iff (few : graph.nodes.length < 2 ^ 53) {type : NodeType}
    {key : String} {expected : Bool} :
    passRatio (graph.nodesOf type) key expected < 1 ↔
      ∃ node ∈ graph.nodes, node.type = type ∧ node.get? key ≠ some (.bool expected) := by
  rw [passRatio_lt_one_iff ((graph.nodesOf_length_le type).trans_lt few)]
  simp only [Graph.mem_nodesOf, and_assoc]

theorem nonempty_and_lt_iff (few : graph.nodes.length < 2 ^ 53) {type : NodeType} {key : String}
    {expected : Bool} :
    (!(graph.nodesOf type).isEmpty && decide (passRatio (graph.nodesOf type) key expected < 1)) =
        true ↔ ∃ node ∈ graph.nodes, node.type = type ∧ node.get? key ≠ some (.bool expected) := by
  rw [Bool.and_eq_true, decide_eq_true_eq, passRatio_nodesOf_lt_one_iff few,
    Bool.not_eq_true', List.isEmpty_eq_false_iff]
  refine and_iff_right_of_imp ?_
  rintro ⟨node, member, same, -⟩
  exact List.ne_nil_of_mem (Graph.mem_nodesOf.mpr ⟨member, same⟩)

theorem gives_iff (nodes : graph.nodes.length < 2 ^ 53) (edges : graph.edges.length < 2 ^ 53)
    (hint : Hint) : gives graph hint = true ↔ graph.Shows hint := by
  cases hint with
  | dangling =>
      simp only [gives, Graph.Shows, decide_eq_true_eq, structureCompleteness_lt_one_iff edges,
        Graph.isDangling_iff]
  | missingCitation =>
      simp only [gives, Graph.Shows, Bool.and_eq_true, hasDeliverable_iff, Bool.not_eq_true',
        ← Bool.not_eq_true, hasCitation_iff, not_exists, not_and, ne_eq]
  | unmetConstraints => exact nonempty_and_lt_iff nodes
  | failingTests => exact nonempty_and_lt_iff nodes

theorem passRatio_bne_one_iff (few : graph.nodes.length < 2 ^ 53) {type : NodeType} {key : String}
    {expected : Bool} : (passRatio (graph.nodesOf type) key expected != 1) = true ↔
      ∃ node ∈ graph.nodes, node.type = type ∧ node.get? key ≠ some (.bool expected) := by
  have part := graph.nodesOf_length_le type
  rw [(passRatio_le_one (by omega)).bne_iff_lt, passRatio_nodesOf_lt_one_iff few]

/-- The hints are those for the problems of the graph, in a fixed order, whatever the weights are.
Three of the problems also show in a component. -/
theorem diffs_match (weights : PerComponent) {graph : Graph} (nodes : graph.nodes.length < 2 ^ 53)
    (edges : graph.edges.length < 2 ^ 53) :
    (∃ present : Hint → Bool, (∀ hint, present hint = true ↔ graph.Shows hint) ∧
      (score weights graph).diffs =
        ([(.dangling, "Fix dangling edges or missing nodes."),
          (.missingCitation, "Add at least one citation (cites edge) for deliverables."),
          (.unmetConstraints, "Some constraints marked required are unmet."),
          (.failingTests, "Some tests are failing or unspecified.")].filter
            fun entry => present entry.1).map Prod.snd) ∧
    ((score weights graph).diffs = [] ↔ ∀ hint, ¬graph.Shows hint) ∧
    (graph.Shows .dangling ↔ ((score weights graph).components.structureCompleteness != 1) = true) ∧
    (graph.Shows .unmetConstraints ↔
      ((score weights graph).components.constraintPass != 1) = true) ∧
    (graph.Shows .failingTests ↔ ((score weights graph).components.testPass != 1) = true) := by
  have each := gives_iff nodes edges
  have given : (score weights graph).diffs = (Hint.all.filter (gives graph)).map Hint.text :=
    congrArg (List.map Hint.text) (hints_eq_filter graph)
  have dangling : graph.Shows .dangling ↔ (structureCompleteness graph != 1) = true := by
    rw [(structureCompleteness_le_one (by omega)).bne_iff_lt, ← each]
    exact decide_eq_true_iff
  refine ⟨⟨gives graph, each, given.trans (Hint.filter_texts _)⟩, ?_, dangling,
    (passRatio_bne_one_iff nodes).symm, (passRatio_bne_one_iff nodes).symm⟩
  rw [given, List.map_eq_nil_iff, List.filter_eq_nil_iff]
  constructor
  · intro none hint shown
    have listed : hint ∈ Hint.all := by cases hint <;> decide
    exact none hint listed ((each hint).mpr shown)
  · intro none hint _ shown
    exact none hint ((each hint).mp shown)

def sampleUncited : Graph where
  nodes := [⟨"d", .deliverable, "", []⟩, ⟨"t", .test, "", []⟩]
  edges := [⟨"t", "d", .evaluates⟩]
  schema := none

theorem diffs_match_of_sampleUncited :
    sampleUncited.nodes.length < 2 ^ 53 ∧ sampleUncited.edges.length < 2 ^ 53 ∧
      (score .ones sampleUncited).diffs =
        ["Add at least one citation (cites edge) for deliverables.",
          "Some tests are failing or unspecified."] := by
  have nodes : sampleUncited.nodes.length < 2 ^ 53 := by decide
  have edges : sampleUncited.edges.length < 2 ^ 53 := by decide
  obtain ⟨⟨present, each, given⟩, -⟩ := diffs_match .ones nodes edges
  have dangling : present .dangling = false := by
    rw [← Bool.not_eq_true, each]
    simp [Graph.Shows, sampleUncited]
  have uncited : present .missingCitation = true := by
    rw [each]
    simp [Graph.Shows, sampleUncited]
  have unmet : present .unmetConstraints = false := by
    rw [← Bool.not_eq_true, each]
    simp [Graph.Shows, sampleUncited]
  have failing : present .failingTests = true := by
    rw [each]
    simp [Graph.Shows, sampleUncited, Node.get?, Fields.get?]
  refine ⟨nodes, edges, ?_⟩
  simp [given, dangling, uncited, unmet, failing]

end Score

end Authoring
