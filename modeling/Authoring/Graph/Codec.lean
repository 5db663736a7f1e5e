import Authoring.Graph.Basic
import Authoring.Json.Record
import Authoring.Value.Decoder

/-! The JSON form of graphs. -/

namespace Authoring

def NodeType.decoder : Decoder NodeType :=
  .variant (NodeType.all.map fun type => (type.name, type))

def NodeType.toJson (type : NodeType) : Json :=
  .string type.name

def EdgeType.decoder : Decoder EdgeType :=
  .variant (EdgeType.all.map fun type => (type.name, type))

def EdgeType.toJson (type : EdgeType) : Json :=
  .string type.name

namespace Node

def record : Record Node :=
  (Record.of Node.mk).required "id" .string
    |>.required "type" NodeType.decoder
    |>.required "label" .string
    |>.optional "properties" Value.decodeProperties []

def decoder : Decoder Node :=
  record.decoder "Node"

def toJson (node : Node) : Json :=
  .object
    ([("id", .string node.id), ("type", node.type.toJson), ("label", .string node.label)] ++
      if node.properties.isEmpty then [] else [("properties", (Value.map node.properties).toJson)])

end Node

namespace Edge

def record : Record Edge :=
  (Record.of Edge.mk).required "from" .string
    |>.required "to" .string
    |>.required "type" EdgeType.decoder

def decoder : Decoder Edge :=
  record.decoder "Edge"

def toJson (edge : Edge) : Json :=
  .object
    [("from", .string edge.source), ("to", .string edge.target), ("type", edge.type.toJson)]

end Edge

namespace Graph

def record : Record Graph :=
  (Record.of Graph.mk).required "nodes" (.list Node.decoder)
    |>.required "edges" (.list Edge.decoder)
    |>.optional "$schema" (.option .string) none

def decoder : Decoder Graph :=
  record.decoder "Graph"

def toJson (graph : Graph) : Json :=
  .object
    ([("nodes", .array (graph.nodes.map Node.toJson)),
      ("edges", .array (graph.edges.map Edge.toJson))] ++
      match graph.schema with
      | none => []
      | some schema => [("$schema", .string schema)])

end Graph

end Authoring
