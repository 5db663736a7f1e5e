import Mathlib
import Authoring.Graph.Codec
import Authoring.Proofs.Decimal.Whole
import Authoring.Proofs.Json.Decoding
import Authoring.Proofs.Value.Json

/-! Graphs decoded from their JSON form in order. Everything comes back as it was, save that the
properties are in order and that a float without a JSON form has become null. -/

namespace Authoring

open Outline (Copies)

/-! Properties -/

theorem Value.decoder_copies (document : Json) :
    Value.decoder.ReadsBy Copies document (Value.ofJson document) := by
  rintro origin outline rfl
  simp only [Value.decoder, Outline.read_ofJson, lift, bind, Except.bind, Value.attempt_eq_ofJson]
  rfl

theorem Value.decodeProperties_copies (fields : List (String × Json)) :
    Value.decodeProperties.ReadsBy Copies (.object fields)
      (Fields.collect (Value.ofFields fields)) := by
  rw [Value.ofFields_eq_map]
  exact Decoder.fields_copies fun field _ => Value.decoder_copies field.2

namespace Properties

def received (properties : Properties) : Properties :=
  Fields.ordered (Value.sortedFields (Value.carriedFields properties))

theorem get?_received {properties : Properties} (distinct : (Fields.keys properties).Nodup)
    (key : String) :
    properties.received.get? key = (properties.get? key).map fun value => value.carried.sorted := by
  have keys : (Fields.keys (Value.sortedFields (Value.carriedFields properties))).Nodup := by
    rwa [Value.keys_sortedFields, Value.keys_carriedFields]
  rw [received, Fields.get?_ordered keys, Value.get?_sortedFields, Value.get?_carriedFields,
    Option.map_map]
  rfl

theorem received_copies {properties : Properties} (distinct : (Value.map properties).Distinct) :
    Value.decodeProperties.ReadsBy Copies (Value.map properties).toJson.sorted
      properties.received := by
  have read := Value.decodeProperties_copies
    (Fields.ordered (Json.sortedFields (Value.toFields properties)))
  have same : Value.ofJson (Value.map properties).toJson.sorted =
      (Value.map properties).carried.sorted := by
    rw [Value.ofJson_sorted _ (Value.toJson_distinct _ distinct), Value.ofJson_toJson _ distinct]
  injection same with same
  rwa [same] at read

end Properties

/-! Types -/

theorem NodeType.reads (type : NodeType) : NodeType.decoder.Reads type.toJson type :=
  Decoder.variant_reads (by cases type <;> rfl)

theorem EdgeType.reads (type : EdgeType) : EdgeType.decoder.Reads type.toJson type :=
  Decoder.variant_reads (by cases type <;> rfl)

/-! Nodes, edges and graphs -/

theorem Edge.toJson_distinct (edge : Edge) : edge.toJson.Distinct := by
  refine Json.distinct_object_iff.mpr ⟨by simp [Fields.keys], ?_⟩
  simp [Json.Distinct, EdgeType.toJson]

theorem Edge.reads (edge : Edge) : Edge.decoder.Reads edge.toJson edge := by
  refine Record.decoder_reads "Edge" edge.toJson_distinct.1 ?_
  exact (((Record.of_reads Edge.mk).required rfl (Decoder.string_reads edge.source)).required rfl
    (Decoder.string_reads edge.target)).required rfl edge.type.reads

namespace Node

def received (node : Node) : Node :=
  { node with properties := Properties.received node.properties }

variable {node : Node}

theorem toJson_distinct (distinct : (Value.map node.properties).Distinct) :
    node.toJson.Distinct := by
  refine Json.distinct_object_iff.mpr ⟨?_, ?_⟩
  · cases node.properties.isEmpty <;> simp [Fields.keys]
  · have properties := Value.toJson_distinct _ distinct
    cases node.properties.isEmpty <;> simp [Json.Distinct, NodeType.toJson, properties]

theorem received_copies (distinct : (Value.map node.properties).Distinct) :
    Node.decoder.ReadsBy Copies node.toJson.sorted node.received := by
  have found := Json.get?_sorted (toJson_distinct distinct)
  have head := (((Record.of_reads Node.mk).required (found "id")
    (Decoder.string_reads node.id).sorted).required (found "type") node.type.reads.sorted).required
    (found "label") (Decoder.string_reads node.label).sorted
  refine Record.decoder_copies "Node" (Fields.ordered_ascending _).distinct ?_
  refine head.field (fun held present => ?_) fun absent => ?_
  · rw [found "properties"] at present
    by_cases none : node.properties.isEmpty = true
    · simp [Node.toJson, none, Json.get?, Json.fields?, Fields.get?] at present
    · have same : (Value.map node.properties).toJson.sorted = held := by
        simpa [Node.toJson, none, Json.get?, Json.fields?, Fields.get?] using present
      rw [← same]
      exact Properties.received_copies distinct
  · rw [found "properties"] at absent
    by_cases none : node.properties.isEmpty = true
    · rw [List.isEmpty_iff] at none
      rw [none]
      rfl
    · simp [Node.toJson, none, Json.get?, Json.fields?, Fields.get?] at absent

end Node

namespace Graph

def received (graph : Graph) : Graph :=
  { graph with nodes := graph.nodes.map Node.received }

variable {graph : Graph}

theorem toJson_distinct (distinct : ∀ node ∈ graph.nodes, (Value.map node.properties).Distinct) :
    graph.toJson.Distinct := by
  have nodes : Json.DistinctItems (graph.nodes.map Node.toJson) := by
    rw [Json.distinctItems_iff, List.forall_mem_map]
    exact fun node member => Node.toJson_distinct (distinct node member)
  have edges : Json.DistinctItems (graph.edges.map Edge.toJson) := by
    rw [Json.distinctItems_iff, List.forall_mem_map]
    exact fun edge _ => edge.toJson_distinct
  refine Json.distinct_object_iff.mpr ⟨?_, ?_⟩
  · cases graph.schema <;> simp [Fields.keys]
  · cases graph.schema <;> simp [nodes, edges, Json.Distinct]

theorem received_copies (distinct : ∀ node ∈ graph.nodes, (Value.map node.properties).Distinct) :
    Graph.decoder.ReadsBy Copies graph.toJson.sorted graph.received := by
  have found := Json.get?_sorted (toJson_distinct distinct)
  have nodes := Decoder.list_sorted fun node member => Node.received_copies (distinct node member)
  have edges := Decoder.list_sorted fun edge (_ : edge ∈ graph.edges) => edge.reads.sorted
  rw [List.map_id'] at edges
  have head := ((Record.of_reads Graph.mk).required (found "nodes") nodes).required
    (found "edges") edges
  have schema : graph.toJson.sorted.get? "$schema" = graph.schema.map .string := by
    rw [found "$schema"]
    cases held : graph.schema <;>
      simp [Graph.toJson, held, Json.get?, Json.fields?, Fields.get?, Json.sorted]
  refine Record.decoder_copies "Graph" (Fields.ordered_ascending _).distinct ?_
  exact head.option schema fun name _ => ⟨(Decoder.string_reads name).copies trivial, by simp⟩

end Graph

/-! Equality up to the order of properties -/

/-- Under all names the properties of both nodes have the same value; maps in values may differ in
the order of their fields as well. -/
structure Node.Alike (left right : Node) : Prop where
  id : left.id = right.id
  type : left.type = right.type
  label : left.label = right.label
  properties : ∀ key, (left.get? key).map Value.sorted = (right.get? key).map Value.sorted

structure Graph.Alike (left right : Graph) : Prop where
  nodes : List.Forall₂ Node.Alike left.nodes right.nodes
  edges : left.edges = right.edges
  schema : left.schema = right.schema

def Node.carried (node : Node) : Node :=
  { node with properties := Value.carriedFields node.properties }

def Graph.carried (graph : Graph) : Graph :=
  { graph with nodes := graph.nodes.map Node.carried }

theorem Node.get?_carried (node : Node) (key : String) :
    node.carried.get? key = (node.get? key).map Value.carried :=
  Value.get?_carriedFields key node.properties

theorem Node.received_alike {node : Node} (distinct : (Fields.keys node.properties).Nodup) :
    node.received.Alike node.carried where
  id := rfl
  type := rfl
  label := rfl
  properties := by
    intro key
    rw [Node.get?_carried, Node.received, Node.get?, Properties.get?_received distinct, Node.get?]
    cases node.properties.get? key with
    | none => rfl
    | some value => simp [Value.sorted_sorted]

theorem Graph.received_alike {graph : Graph}
    (distinct : ∀ node ∈ graph.nodes, (Fields.keys node.properties).Nodup) :
    graph.received.Alike graph.carried where
  nodes := by
    rw [Graph.received, Graph.carried, List.forall₂_map_left_iff, List.forall₂_map_right_iff,
      List.forall₂_same]
    exact fun node member => Node.received_alike (distinct node member)
  edges := rfl
  schema := rfl

def Graph.IsFinite (graph : Graph) : Prop :=
  ∀ node ∈ graph.nodes, (Value.map node.properties).IsFinite

theorem Node.received_alike_iff {node : Node} (distinct : (Value.map node.properties).Distinct) :
    node.received.Alike node ↔ (Value.map node.properties).IsFinite := by
  constructor
  · intro alike
    apply Value.isFinite_of_carried _ distinct
    rw [Value.carried, Value.sorted, Value.sorted]
    congr 1
    apply Fields.ordered_eq_of_alike
    · rw [Value.keys_sortedFields, Value.keys_carriedFields]
      exact distinct.1
    · rw [Value.keys_sortedFields]
      exact distinct.1
    · intro key
      have same := alike.properties key
      simp only [Node.received, Node.get?, Properties.get?_received distinct.1, Option.map_map,
        Function.comp_def, Value.sorted_sorted] at same
      rw [Value.get?_sortedFields, Value.get?_sortedFields, Value.get?_carriedFields,
        Option.map_map]
      exact same
  · intro finite
    have same := (Value.carried_eq_iff (.map node.properties)).mpr finite
    injection same with same
    have alike := Node.received_alike distinct.1
    rwa [Node.carried, same] at alike

theorem Graph.received_alike_iff {graph : Graph}
    (distinct : ∀ node ∈ graph.nodes, (Value.map node.properties).Distinct) :
    graph.received.Alike graph ↔ graph.IsFinite := by
  constructor
  · rintro ⟨nodes, -, -⟩ node member
    rw [Graph.received, List.forall₂_map_left_iff, List.forall₂_same] at nodes
    exact (Node.received_alike_iff (distinct node member)).mp (nodes node member)
  · intro finite
    refine ⟨?_, rfl, rfl⟩
    rw [Graph.received, List.forall₂_map_left_iff, List.forall₂_same]
    intro node member
    exact (Node.received_alike_iff (distinct node member)).mpr (finite node member)

/-! Graphs that JSON holds exactly -/

def Node.inOrder (node : Node) : Node :=
  { node with properties := Fields.ordered (Value.sortedFields node.properties) }

def Graph.inOrder (graph : Graph) : Graph :=
  { graph with nodes := graph.nodes.map Node.inOrder }

theorem Node.received_eq_inOrder {node : Node} (finite : (Value.map node.properties).IsFinite) :
    node.received = node.inOrder := by
  rw [Node.received, Properties.received, (Value.carriedFields_eq_iff node.properties).mpr finite,
    Node.inOrder]

theorem Graph.received_eq_inOrder {graph : Graph} (finite : graph.IsFinite) :
    graph.received = graph.inOrder := by
  rw [Graph.received, Graph.inOrder,
    List.map_congr_left fun node member => Node.received_eq_inOrder (finite node member)]

/-- A graph whose floats are all finite comes back from its JSON form with nothing changed but the
order of properties: the type of a value, nulls and empty lists and maps are kept at every depth. -/
theorem Graph.decodes_inOrder (graph : Graph)
    (distinct : ∀ node ∈ graph.nodes, (Value.map node.properties).Distinct)
    (finite : graph.IsFinite) :
    Graph.decoder.decodeJson graph.toJson.sorted = .ok graph.inOrder ∧
      graph.inOrder.Alike graph := by
  rw [← Graph.received_eq_inOrder finite]
  exact ⟨Graph.received_copies distinct .tree _ rfl,
    (Graph.received_alike_iff distinct).mpr finite⟩

def sampleGraph : Graph where
  nodes :=
    [⟨"t", .task, "First",
      [("weight", .float (Float.ofInt 2)), ("count", .int 2),
        ("more", .map [("z", .list [.null, .list []]), ("a", .map [])])]⟩,
      ⟨"t", .goal, "", []⟩]
  edges := [⟨"t", "nowhere", .requires⟩]
  schema := some "plan"

theorem Graph.decodes_inOrder_sampleGraph :
    (∀ node ∈ sampleGraph.nodes, (Value.map node.properties).Distinct) ∧ sampleGraph.IsFinite ∧
    Graph.decoder.decodeJson sampleGraph.toJson.sorted = .ok
      ⟨[⟨"t", .task, "First",
          [("count", .int 2), ("more", .map [("a", .map []), ("z", .list [.null, .list []])]),
            ("weight", .float (Float.ofInt 2))]⟩,
        ⟨"t", .goal, "", []⟩], [⟨"t", "nowhere", .requires⟩], some "plan"⟩ := by
  have distinct : ∀ node ∈ sampleGraph.nodes, (Value.map node.properties).Distinct := by
    simp [sampleGraph, Value.Distinct, Value.DistinctFields, Value.DistinctItems, Fields.keys]
  have finite : sampleGraph.IsFinite := by
    have exact : (Float.ofInt 2).isFinite = true :=
      Decimal.isFinite_of_rational (Decimal.rational?_ofInt (by decide))
    simp [Graph.IsFinite, sampleGraph, Value.IsFinite, Value.FiniteFields, Value.FiniteItems, exact]
  obtain ⟨decoded, _⟩ := Graph.decodes_inOrder sampleGraph distinct finite
  exact ⟨distinct, finite, decoded⟩

end Authoring
