import Mathlib
import Authoring.Proofs.Fields
import Authoring.Proofs.Score.Weights

/-! Repairs of a graph. No step makes a count worse that a component is made of, so no run of them
lowers a component, or the score. -/

namespace Authoring

open Decimal

inductive Graph.Repairs : Graph → Graph → Prop
  | source {nodes : List Node} {schema : Option String} (earlier later : List Edge) (edge : Edge)
      {node : Node} (member : node ∈ nodes) :
      Repairs ⟨nodes, earlier ++ edge :: later, schema⟩
        ⟨nodes, earlier ++ { edge with source := node.id } :: later, schema⟩
  | target {nodes : List Node} {schema : Option String} (earlier later : List Edge) (edge : Edge)
      {node : Node} (member : node ∈ nodes) :
      Repairs ⟨nodes, earlier ++ edge :: later, schema⟩
        ⟨nodes, earlier ++ { edge with target := node.id } :: later, schema⟩
  | constraint {edges : List Edge} {schema : Option String} (earlier later : List Node)
      {node : Node} (type : node.type = .constraint) :
      Repairs ⟨earlier ++ node :: later, edges, schema⟩
        ⟨earlier ++ node.withProperty "required" (.bool false) :: later, edges, schema⟩
  | test {edges : List Edge} {schema : Option String} (earlier later : List Node)
      {node : Node} (type : node.type = .test) :
      Repairs ⟨earlier ++ node :: later, edges, schema⟩
        ⟨earlier ++ node.withProperty "pass" (.bool true) :: later, edges, schema⟩
  | citation {nodes : List Node} {schema : Option String} (earlier later : List Edge)
      {source target : Node} (source_member : source ∈ nodes) (target_member : target ∈ nodes) :
      Repairs ⟨nodes, earlier ++ later, schema⟩
        ⟨nodes, earlier ++ ⟨source.id, target.id, .cites⟩ :: later, schema⟩
  | node {edges : List Edge} {schema : Option String} (earlier later : List Node) {node : Node}
      (type : node.type ∈ [.goal, .task, .data, .transform, .metric]) :
      Repairs ⟨earlier ++ later, edges, schema⟩ ⟨earlier ++ node :: later, edges, schema⟩

namespace Graph

structure Improves (before after : Graph) : Prop where
  nodes : ∀ type ∈ [.constraint, .test, .deliverable],
    (after.nodesOf type).length = (before.nodesOf type).length
  constraints : before.passing .constraint "required" false ≤
    after.passing .constraint "required" false
  tests : before.passing .test "pass" true ≤ after.passing .test "pass" true
  edges : before.edges.length ≤ after.edges.length
  dangling : after.danglingEdges.length ≤ before.danglingEdges.length
  citations : (before.edgesOf .cites).length ≤ (after.edgesOf .cites).length

namespace Improves

variable {before middle after : Graph}

theorem refl (graph : Graph) : graph.Improves graph :=
  ⟨fun _ _ => rfl, le_rfl, le_rfl, le_rfl, le_rfl, le_rfl⟩

theorem trans (first : before.Improves middle) (second : middle.Improves after) :
    before.Improves after where
  nodes type member := (second.nodes type member).trans (first.nodes type member)
  constraints := first.constraints.trans second.constraints
  tests := first.tests.trans second.tests
  edges := first.edges.trans second.edges
  dangling := second.dangling.trans first.dangling
  citations := first.citations.trans second.citations

end Improves

section Lists

variable {α : Type} {counts : α → Bool} {first second : α}

theorem countP_replace_le (le : counts first = true → counts second = true)
    (earlier later : List α) :
    (earlier ++ first :: later).countP counts ≤ (earlier ++ second :: later).countP counts := by
  rw [List.countP_append, List.countP_append, List.countP_cons, List.countP_cons]
  by_cases counted : counts first = true
  · rw [if_pos counted, if_pos (le counted)]
  · rw [if_neg counted]
    omega

theorem countP_insert_le (earlier later : List α) :
    (earlier ++ later).countP counts ≤ (earlier ++ first :: later).countP counts :=
  ((List.sublist_cons_self first later).append_left earlier).countP_le

theorem countP_insert (skipped : counts first = false) (earlier later : List α) :
    (earlier ++ first :: later).countP counts = (earlier ++ later).countP counts := by
  rw [List.countP_append, List.countP_append, List.countP_cons, skipped]
  rfl

end Lists

theorem danglingEdges_le {before after : Graph}
    (found : ∀ id, before.hasNode id = true → after.hasNode id = true) (edges : List Edge) :
    edges.countP after.isDangling ≤ edges.countP before.isDangling := by
  apply List.countP_mono_left
  intro edge _
  simp only [isDangling, Bool.or_eq_true, Bool.not_eq_true', ← Bool.not_eq_true]
  exact Or.imp (mt (found _)) (mt (found _))

/-! Steps -/

variable {nodes : List Node} {edges : List Edge} {schema : Option String}

theorem improves_of_edge {edge other : Edge} (type : other.type = edge.type)
    (dangles : (⟨nodes, [], schema⟩ : Graph).isDangling other = true →
      (⟨nodes, [], schema⟩ : Graph).isDangling edge = true) (earlier later : List Edge) :
    Improves ⟨nodes, earlier ++ edge :: later, schema⟩
      ⟨nodes, earlier ++ other :: later, schema⟩ where
  nodes _ _ := rfl
  constraints := le_rfl
  tests := le_rfl
  edges := by simp
  dangling := by
    rw [danglingEdges_length, danglingEdges_length]
    exact countP_replace_le dangles earlier later
  citations := by
    rw [edgesOf_length, edgesOf_length]
    apply countP_replace_le
    rw [type]
    exact id

theorem improves_of_node {node other : Node} (id : other.id = node.id)
    (type : other.type = node.type)
    (required : node.type = .constraint → other.passes "required" false = true)
    (pass : node.type = .test → other.passes "pass" true = true) (earlier later : List Node) :
    Improves ⟨earlier ++ node :: later, edges, schema⟩
      ⟨earlier ++ other :: later, edges, schema⟩ where
  nodes kind _ := by
    rw [nodesOf_length, nodesOf_length, List.countP_append, List.countP_append, List.countP_cons,
      List.countP_cons, type]
  constraints := by
    rw [passing_eq, passing_eq]
    apply countP_replace_le
    simp only [Bool.and_eq_true, beq_iff_eq, type]
    exact fun counted => ⟨required counted.2, counted.2⟩
  tests := by
    rw [passing_eq, passing_eq]
    apply countP_replace_le
    simp only [Bool.and_eq_true, beq_iff_eq, type]
    exact fun counted => ⟨pass counted.2, counted.2⟩
  edges := le_rfl
  dangling := by
    rw [danglingEdges_length, danglingEdges_length]
    apply danglingEdges_le
    intro name
    simp only [hasNode, List.any_append, List.any_cons, id]
    exact fun found => found
  citations := le_rfl

theorem improves_of_citation {source target : Node} (sourceMember : source ∈ nodes)
    (targetMember : target ∈ nodes) (earlier later : List Edge) :
    Improves ⟨nodes, earlier ++ later, schema⟩
      ⟨nodes, earlier ++ ⟨source.id, target.id, .cites⟩ :: later, schema⟩ where
  nodes _ _ := rfl
  constraints := le_rfl
  tests := le_rfl
  edges := by simp
  dangling := by
    rw [danglingEdges_length, danglingEdges_length]
    refine (countP_insert ?_ earlier later).le
    simp only [isDangling, Bool.or_eq_false_iff, Bool.not_eq_false']
    exact ⟨hasNode_of_mem _ sourceMember, hasNode_of_mem _ targetMember⟩
  citations := by
    rw [edgesOf_length, edgesOf_length]
    exact countP_insert_le earlier later

theorem improves_of_new_node {node : Node}
    (plain : node.type ∉ [.constraint, .test, .deliverable]) (earlier later : List Node) :
    Improves ⟨earlier ++ later, edges, schema⟩ ⟨earlier ++ node :: later, edges, schema⟩ where
  nodes kind member := by
    rw [nodesOf_length, nodesOf_length]
    apply countP_insert
    rw [beq_eq_false_iff_ne]
    rintro rfl
    exact plain member
  constraints := by
    rw [passing_eq, passing_eq]
    exact countP_insert_le earlier later
  tests := by
    rw [passing_eq, passing_eq]
    exact countP_insert_le earlier later
  edges := le_rfl
  dangling := by
    rw [danglingEdges_length, danglingEdges_length]
    apply danglingEdges_le
    intro name
    simp only [hasNode, List.any_append, List.any_cons, Bool.or_eq_true]
    tauto
  citations := le_rfl

theorem passes_withProperty (node : Node) (key : String) (expected : Bool) :
    (node.withProperty key (.bool expected)).passes key expected = true := by
  rw [Node.passes_iff, Node.get?, Node.withProperty, Fields.get?_insert, if_pos rfl]

theorem Repairs.improves {before after : Graph} (step : before.Repairs after) :
    before.Improves after := by
  cases step with
  | @source nodes schema earlier later edge node member =>
      refine improves_of_edge ?_ ?_ earlier later
      · rfl
      · simp only [isDangling, hasNode_of_mem ⟨nodes, [], schema⟩ member, Bool.not_true,
          Bool.false_or, Bool.or_eq_true]
        exact .inr
  | @target nodes schema earlier later edge node member =>
      refine improves_of_edge ?_ ?_ earlier later
      · rfl
      · simp only [isDangling, hasNode_of_mem ⟨nodes, [], schema⟩ member, Bool.not_true,
          Bool.or_false, Bool.or_eq_true]
        exact .inl
  | constraint earlier later type =>
      refine improves_of_node ?_ ?_ ?_ ?_ earlier later
      · rfl
      · rfl
      · exact fun _ => passes_withProperty _ _ _
      · intro other
        cases type.symm.trans other
  | test earlier later type =>
      refine improves_of_node ?_ ?_ ?_ ?_ earlier later
      · rfl
      · rfl
      · intro other
        cases type.symm.trans other
      · exact fun _ => passes_withProperty _ _ _
  | citation earlier later source target => exact improves_of_citation source target earlier later
  | @node _ _ earlier later node type =>
      refine improves_of_new_node ?_ earlier later
      revert type
      cases node.type <;> decide

theorem improves_of_repairs {before after : Graph}
    (steps : Relation.ReflTransGen Repairs before after) : before.Improves after := by
  induction steps with
  | refl => exact .refl before
  | tail _ step ih => exact ih.trans step.improves

/-! Components and scores -/

namespace Improves

variable {before after : Graph}

theorem hasDeliverable (improves : before.Improves after) :
    Score.hasDeliverable after = Score.hasDeliverable before := by
  have same := improves.nodes .deliverable (by decide)
  rw [Bool.eq_iff_iff]
  simp only [Score.hasDeliverable, Bool.not_eq_true', List.isEmpty_eq_false_iff,
    ← List.length_pos_iff, same]

theorem hasCitation (improves : before.Improves after)
    (cited : Score.hasCitation before = true) : Score.hasCitation after = true := by
  have more := improves.citations
  simp only [Score.hasCitation, Bool.not_eq_true', List.isEmpty_eq_false_iff,
    ← List.length_pos_iff] at cited ⊢
  omega

theorem evidence (improves : before.Improves after) :
    AtMost (Score.components before).evidence (Score.components after).evidence := by
  simp only [Score.components, improves.hasDeliverable, Bool.or_eq_true]
  have kept := improves.hasCitation
  split
  next fine =>
    rw [if_pos (fine.imp id kept)]
    exact .refl rational?_one zero_le_one
  next =>
    split
    · exact ⟨0, 1, rational?_zero_literal, rational?_one, le_rfl, zero_le_one⟩
    · exact .refl rational?_zero_literal le_rfl

theorem passRatio (improves : before.Improves after) (nodes : after.nodes.length < 2 ^ 64)
    {type : NodeType} (scored : type ∈ [.constraint, .test, .deliverable]) {key : String}
    {expected : Bool} (more : before.passing type key expected ≤ after.passing type key expected) :
    AtMost (Score.passRatio (before.nodesOf type) key expected)
      (Score.passRatio (after.nodesOf type) key expected) :=
  Score.passRatio_mono (improves.nodes type scored).symm more
    ((after.nodesOf_length_le type).trans_lt nodes)

theorem components (improves : before.Improves after) (nodes : after.nodes.length < 2 ^ 64)
    (edges : after.edges.length < 2 ^ 64) :
    List.Forall₂ AtMost (Score.components before).toList (Score.components after).toList := by
  obtain ⟨goalMatch, humanity⟩ := Score.constants_le_one
  have constraints := improves.passRatio nodes (by decide) improves.constraints
  have tests := improves.passRatio nodes (by decide) improves.tests
  have complete := Score.structureCompleteness_mono improves.dangling improves.edges edges
  exact .cons goalMatch.self (.cons constraints (.cons tests (.cons complete
    (.cons improves.evidence (.cons humanity.self .nil)))))

end Improves

end Graph

/-- A run of repairs lowers neither the score nor a component. -/
theorem score_of_repairs {weights : PerComponent} (weighs : weights.Weighs) {before after : Graph}
    (steps : Relation.ReflTransGen Graph.Repairs before after)
    (nodes : after.nodes.length < 2 ^ 64) (edges : after.edges.length < 2 ^ 64) :
    (score weights before).score ≤ (score weights after).score ∧
      List.Forall₂ (· ≤ ·) (score weights before).components.toList
        (score weights after).components.toList := by
  have alike := (Graph.improves_of_repairs steps).components nodes edges
  have bounded := Score.components_le_one nodes edges
  have mean := weighs.weightedMean_mono alike bounded
  have percent := mean.hundredfold (weighs.weightedMean_le_one bounded)
  exact ⟨percent.toPercent_le, alike.imp fun _ _ most => most.le⟩

def sampleUnmet : Node :=
  ⟨"c", .constraint, "", []⟩

def sampleBroken : Graph :=
  ⟨[sampleUnmet], [⟨"c", "x", .requires⟩], none⟩

def sampleRepaired : Graph :=
  ⟨[sampleUnmet.withProperty "required" (.bool false)], [⟨"c", "c", .requires⟩], none⟩

theorem score_of_repairs_sampleBroken :
    PerComponent.ones.Weighs ∧ Relation.ReflTransGen Graph.Repairs sampleBroken sampleRepaired ∧
      sampleRepaired.nodes.length < 2 ^ 64 ∧ sampleRepaired.edges.length < 2 ^ 64 ∧
      (score .ones sampleBroken).score ≤ (score .ones sampleRepaired).score := by
  have weighs : PerComponent.ones.Weighs := by
    constructor <;> decide +kernel
  have redirect : sampleBroken.Repairs ⟨[sampleUnmet], [⟨"c", "c", .requires⟩], none⟩ :=
    .target [] [] ⟨"c", "x", .requires⟩ (List.mem_singleton_self sampleUnmet)
  have waive : Graph.Repairs ⟨[sampleUnmet], [⟨"c", "c", .requires⟩], none⟩ sampleRepaired :=
    .constraint [] [] rfl
  have steps : Relation.ReflTransGen Graph.Repairs sampleBroken sampleRepaired :=
    .tail (.single redirect) waive
  have nodes : sampleRepaired.nodes.length < 2 ^ 64 := by decide
  have edges : sampleRepaired.edges.length < 2 ^ 64 := by decide
  exact ⟨weighs, steps, nodes, edges, (score_of_repairs weighs steps nodes edges).1⟩

end Authoring
