import Mathlib
import Authoring.Service
import Authoring.Proofs.Graph.Decoding
import Authoring.Proofs.Program.Values

/-! Replies to requests to compile. A client gets back the graph that was compiled, save that a
float without a JSON form has become null. -/

namespace Authoring.Service

variable {settings : Settings} {request : Json} {source : String} {graph : Graph}

theorem source?_eq (given : request.get? "source" = some (.string source)) :
    source? request = if source.toList.all Text.isBlank then none else some source := by
  rw [source?, given]
  rfl

theorem get?_compiled (given : request.get? "source" = some (.string source))
    (spoken : source.toList.all Text.isBlank = false)
    (compiled : Authoring.compile settings.compile source = .ok graph) :
    (compile settings request).get? "ok" = some (.bool true) ∧
      (compile settings request).get? "tgir" = some graph.toJson.sorted := by
  have graphDistinct := Graph.toJson_distinct fun node member =>
    (compile_written compiled node member).map_distinct
  have distinct : (Json.object [("ok", .bool true), ("tgir", graph.toJson)]).Distinct := by
    simp [Json.Distinct, Json.DistinctFields, Fields.keys, graphDistinct]
  simp only [compile, source?_eq given, spoken, compiled, Bool.false_eq_true, if_false,
    Json.get?_sorted distinct]
  exact ⟨rfl, rfl⟩

def Carries (reply : Json) (graph : Graph) : Prop :=
  ∃ document, reply.get? "tgir" = some document ∧ Graph.decoder.decodeJson document = .ok graph

theorem decode_compiled (compiled : Authoring.compile settings.compile source = .ok graph) :
    Graph.decoder.decodeJson graph.toJson.sorted = .ok graph.received := by
  have written := compile_written compiled
  exact Graph.received_copies (fun node member => (written node member).map_distinct) .tree _ rfl

theorem carries_received (given : request.get? "source" = some (.string source))
    (spoken : source.toList.all Text.isBlank = false)
    (compiled : Authoring.compile settings.compile source = .ok graph) :
    Carries (compile settings request) graph.received :=
  ⟨graph.toJson.sorted, (get?_compiled given spoken compiled).2, decode_compiled compiled⟩

/-- A client gets the whole graph just if no number in the program is too large for a float. -/
theorem compile_reply_carries (given : request.get? "source" = some (.string source))
    (spoken : source.toList.all Text.isBlank = false)
    (compiled : Authoring.compile settings.compile source = .ok graph) :
    ∃ decoded, Carries (compile settings request) decoded ∧ decoded.Alike graph.carried ∧
      (decoded.Alike graph ↔ graph.IsFinite) := by
  have written := compile_written compiled
  refine ⟨graph.received, carries_received given spoken compiled, ?_, ?_⟩
  · exact Graph.received_alike fun node member => (written node member).distinct
  · exact Graph.received_alike_iff fun node member => (written node member).map_distinct

def sampleLine : List Char :=
  "task t1 A \x7bn: 1".toList ++ List.replicate 310 '0' ++ ['\x7d']

def sampleOverflow : String :=
  String.ofList sampleLine

def sampleRequest : Json :=
  .object [("source", .string sampleOverflow)]

theorem sampleOverflow_toList : sampleOverflow.toList = sampleLine :=
  String.toList_ofList

theorem sampleOverflow_spoken : sampleOverflow.toList.all Text.isBlank = false := by
  rw [sampleOverflow_toList]
  decide +kernel

theorem sampleOverflow_infinite :
    ∃ graph, Authoring.compile .default sampleOverflow = .ok graph ∧ ¬graph.IsFinite := by
  have lost : ((Authoring.compile .default sampleOverflow).toOption.map fun graph =>
      graph.nodes.any fun node => node.properties.any fun property =>
        property.2.carried.isNull && !property.2.isNull) = some true := by
    rw [Authoring.compile, sampleOverflow_toList]
    decide +kernel
  cases compiled : Authoring.compile .default sampleOverflow with
  | error error =>
      rw [compiled] at lost
      cases lost
  | ok graph =>
      refine ⟨graph, rfl, fun finite => ?_⟩
      rw [compiled] at lost
      obtain ⟨node, member, found⟩ := List.any_eq_true.mp (Option.some.inj lost)
      obtain ⟨property, listed, nulled⟩ := List.any_eq_true.mp found
      have same := (Value.carried_eq_iff property.2).mpr
        (Value.finiteFields_iff.mp (finite node member) property listed)
      rw [same] at nulled
      simp at nulled

theorem compile_reply_carries_sampleOverflow :
    ∃ graph decoded, Authoring.compile .default sampleOverflow = .ok graph ∧
      Carries (compile .default sampleRequest) decoded ∧ decoded.Alike graph.carried ∧
      (decoded.Alike graph ↔ graph.IsFinite) := by
  obtain ⟨graph, compiled, -⟩ := sampleOverflow_infinite
  obtain ⟨decoded, carries⟩ := @compile_reply_carries .default sampleRequest sampleOverflow graph
    rfl sampleOverflow_spoken compiled
  exact ⟨graph, decoded, compiled, carries⟩

theorem compile_reply_loses_sampleOverflow :
    ∃ graph decoded, Authoring.compile .default sampleOverflow = .ok graph ∧
      Carries (compile .default sampleRequest) decoded ∧ ¬decoded.Alike graph := by
  obtain ⟨graph, compiled, infinite⟩ := sampleOverflow_infinite
  have written := compile_written compiled
  have carries := @carries_received .default sampleRequest sampleOverflow graph rfl
    sampleOverflow_spoken compiled
  refine ⟨graph, graph.received, compiled, carries, ?_⟩
  rwa [Graph.received_alike_iff fun node member => (written node member).map_distinct]

end Authoring.Service
