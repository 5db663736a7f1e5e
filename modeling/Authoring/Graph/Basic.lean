import Authoring.Value.Basic

/-! Goal graphs: typed nodes with properties, and typed edges between their ids. -/

namespace Authoring

structure UnknownName where
  sort : String
  name : String
deriving DecidableEq

def UnknownName.message (unknown : UnknownName) : String :=
  s!"unknown {unknown.sort}: {unknown.name}"

inductive NodeType where
  | goal
  | task
  | data
  | transform
  | metric
  | deliverable
  | constraint
  | test
deriving DecidableEq, Repr

namespace NodeType

def all : List NodeType :=
  [goal, task, data, transform, metric, deliverable, constraint, test]

def name : NodeType → String
  | goal => "Goal"
  | task => "Task"
  | data => "Data"
  | transform => "Transform"
  | metric => "Metric"
  | deliverable => "Deliverable"
  | constraint => "Constraint"
  | test => "Test"

def keyword : NodeType → String
  | goal => "goal"
  | task => "task"
  | data => "data"
  | transform => "transform"
  | metric => "metric"
  | deliverable => "deliverable"
  | constraint => "constraint"
  | test => "test"

def ofKeyword? (keyword : String) : Option NodeType :=
  all.find? fun type => type.keyword == keyword

def ofName (name : String) : Except UnknownName NodeType :=
  match all.find? fun type => type.name == name with
  | some type => .ok type
  | none => .error ⟨"node type", name⟩

end NodeType

inductive EdgeType where
  | refines
  | requires
  | produces
  | evaluates
  | contradicts
  | cites
  | ownedBy
  | typedAs
deriving DecidableEq, Repr

namespace EdgeType

def all : List EdgeType :=
  [refines, requires, produces, evaluates, contradicts, cites, ownedBy, typedAs]

def name : EdgeType → String
  | refines => "refines"
  | requires => "requires"
  | produces => "produces"
  | evaluates => "evaluates"
  | contradicts => "contradicts"
  | cites => "cites"
  | ownedBy => "owned_by"
  | typedAs => "typed_as"

def ofName (name : String) : Except UnknownName EdgeType :=
  match all.find? fun type => type.name == name with
  | some type => .ok type
  | none => .error ⟨"edge type", name⟩

end EdgeType

structure Node where
  id : String
  type : NodeType
  label : String
  properties : Properties

namespace Node

def withProperty (node : Node) (key : String) (value : Value) : Node :=
  { node with properties := node.properties.insert key value }

def get? (node : Node) (key : String) : Option Value :=
  node.properties.get? key

end Node

structure Edge where
  source : String
  target : String
  type : EdgeType
deriving DecidableEq

def Edge.isSelfLoop (edge : Edge) : Bool :=
  edge.source == edge.target

structure Graph where
  nodes : List Node
  edges : List Edge
  schema : Option String

namespace Graph

def schemaId : String :=
  "https://qeva.org/tgir/v0/schema.json"

def empty : Graph :=
  ⟨[], [], none⟩

def compiled : Graph :=
  ⟨[], [], some schemaId⟩

def withNode (graph : Graph) (node : Node) : Graph :=
  { graph with nodes := graph.nodes ++ [node] }

def withEdge (graph : Graph) (edge : Edge) : Graph :=
  { graph with edges := graph.edges ++ [edge] }

def node? (graph : Graph) (id : String) : Option Node :=
  graph.nodes.find? fun node => node.id == id

def hasNode (graph : Graph) (id : String) : Bool :=
  graph.nodes.any fun node => node.id == id

def ids (graph : Graph) : List String :=
  (graph.nodes.map Node.id).eraseDups.mergeSort fun first second => !decide (second < first)

def nodesOf (graph : Graph) (type : NodeType) : List Node :=
  graph.nodes.filter fun node => node.type == type

def edgesOf (graph : Graph) (type : EdgeType) : List Edge :=
  graph.edges.filter fun edge => edge.type == type

def isDangling (graph : Graph) (edge : Edge) : Bool :=
  !graph.hasNode edge.source || !graph.hasNode edge.target

def danglingEdges (graph : Graph) : List Edge :=
  graph.edges.filter graph.isDangling

def duplicateIds (graph : Graph) : List String :=
  repeats (graph.nodes.map Node.id)

end Graph

end Authoring
