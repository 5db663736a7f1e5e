import Authoring.Graph.Codec
import Authoring.Settings

/-! Requests and replies in JSON. A request never fails: what goes wrong is told in the reply. -/

namespace Authoring.Service

def failure (message : String) : Json :=
  Json.sorted (.object [("ok", .bool false), ("error", .string message)])

def missingSource : String :=
  "Body must include non-empty \"source\" string"

def source? (request : Json) : Option String :=
  match (request.get? "source").bind Json.string? with
  | none => none
  | some source => if source.toList.all Text.isBlank then none else some source

def compile (settings : Settings) (request : Json) : Json :=
  match source? request with
  | none => failure missingSource
  | some source =>
      match Authoring.compile settings.compile source with
      | .error error => failure error.message
      | .ok graph => Json.sorted (.object [("ok", .bool true), ("tgir", graph.toJson)])

inductive GraphError where
  | notAnObject
  | noGraph
  | undecodable (fault : Fault)

def GraphError.message : GraphError → String
  | notAnObject => "Invalid payload: request body must be a JSON object"
  | noGraph => "Invalid graph: Body must include a \"tgir\" object"
  | undecodable fault => "Invalid graph: " ++ fault.message

def graphOf (request : Json) : Except GraphError Graph :=
  if request.isObject then
    match request.get? "tgir" with
    | some (.object fields) => (Graph.decoder.decodeJson (.object fields)).mapError .undecodable
    | _ => .error .noGraph
  else .error .notAnObject

def score (settings : Settings) (request : Json) : Json :=
  match graphOf request with
  | .error error => failure error.message
  | .ok graph =>
      let report := Authoring.score settings.scoring graph
      Json.sorted <| .object
        [("ok", .bool true), ("score", .ofNat report.score.toNat),
          ("components", report.components.toJson), ("diffs", .strings report.diffs)]

def validate (settings : Settings) (request : Json) : Json :=
  (Authoring.validate settings.validation request).toJson.sorted

def succeeded (reply : Json) : Bool :=
  match reply.get? "ok" with
  | some (.bool ok) => ok
  | _ => false

end Authoring.Service
