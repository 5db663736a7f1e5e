import Mathlib
import Authoring.CommandLine
import Authoring.Proofs.Score.Codec
import Authoring.Proofs.Score.Reads
import Authoring.Proofs.Service.Compiling

/-! Programs that are scored by way of the reply to a request to compile them. The reply about the
score is the same as if the graph had never been written as JSON. -/

namespace Authoring

/-! What the way through JSON leaves of a graph -/

theorem Value.bool?_sorted (value : Value) : value.sorted.bool? = value.bool? := by
  cases value <;> rfl

theorem Value.bool?_carried (value : Value) : value.carried.bool? = value.bool? := by
  cases value with
  | float number =>
      rw [carried]
      split <;> rfl
  | null | bool | int | string | list | map => rfl

theorem Node.received_resembles {node : Node} (distinct : (Fields.keys node.properties).Nodup) :
    node.received.Resembles node where
  id := rfl
  type := rfl
  flags := by
    intro key
    rw [Node.received, Node.get?, Properties.get?_received distinct, Node.get?]
    cases node.properties.get? key with
    | none => rfl
    | some value => exact (Value.bool?_sorted _).trans (Value.bool?_carried value)

theorem Graph.received_resembles {graph : Graph}
    (distinct : ∀ node ∈ graph.nodes, (Fields.keys node.properties).Nodup) :
    graph.received.Resembles graph where
  nodes := by
    rw [Graph.received, List.forall₂_map_left_iff, List.forall₂_same]
    exact fun node member => Node.received_resembles (distinct node member)
  edges := rfl

namespace Service

variable {settings : Settings} {request : Json} {source : String} {graph : Graph}

theorem get?_failure (message : String) :
    (failure message).get? "ok" = some (.bool false) ∧
      (failure message).get? "error" = some (.string message) := by
  have distinct : (Json.object [("ok", .bool false), ("error", .string message)]).Distinct := by
    simp [Json.Distinct, Json.DistinctFields, Fields.keys]
  rw [failure, Json.get?_sorted distinct, Json.get?_sorted distinct]
  exact ⟨rfl, rfl⟩

theorem succeeded_failure (message : String) : succeeded (failure message) = false := by
  rw [succeeded, (get?_failure message).1]

structure Reports (reply : Json) (report : ScoreReport) : Prop where
  score : ∃ whole : WideInt, whole.value = report.score.toNat ∧
    reply.get? "score" = some (.number (.integer whole))
  components : ∃ shown, reply.get? "components" = some shown ∧ report.components.IsShown shown
  diffs : reply.get? "diffs" = some (.array (report.diffs.map .string))

theorem strings_sorted (texts : List String) : (Json.strings texts).sorted = .strings texts := by
  rw [Json.strings, Json.sorted, Json.sortedItems_eq_map, List.map_map]
  rfl

theorem ofUInt8_whole (value : UInt8) : ∃ whole : WideInt, whole.value = value.toNat ∧
    Json.ofNat value.toNat = .number (.integer whole) := by
  have greatest := value.toNat_lt
  exact ⟨⟨value.toNat, by omega⟩, rfl, Json.ofInt_value ⟨value.toNat, _⟩⟩

theorem score_reports {report : ScoreReport} (read : graphOf request = .ok graph)
    (scored : Authoring.score settings.scoring graph = report) :
    (score settings request).get? "ok" = some (.bool true) ∧
      (score settings request).get? "error" = none ∧ Reports (score settings request) report := by
  have distinct : (Json.object
      [("ok", .bool true), ("score", .ofNat report.score.toNat),
        ("components", report.components.toJson), ("diffs", .strings report.diffs)]).Distinct := by
    refine Json.distinct_object_iff.mpr ⟨by simp [Fields.keys], ?_⟩
    simp [Json.ofNat_distinct, PerComponent.toJson_distinct, Json.strings_distinct, Json.Distinct]
  have found := Json.get?_sorted distinct
  simp only [score, read, scored]
  refine ⟨found "ok", found "error", ?_, ?_, ?_⟩
  · obtain ⟨whole, same, written⟩ := ofUInt8_whole report.score
    refine ⟨whole, same, (found "score").trans (congrArg some ?_)⟩
    rw [written]
    rfl
  · have shown := report.components.toJson_isShown.sorted report.components.toJson_distinct
    exact ⟨_, found "components", shown⟩
  · exact (found "diffs").trans (congrArg some (strings_sorted _))

theorem graphOf_compiled (compiled : Authoring.compile settings.compile source = .ok graph) :
    graphOf (.object [("tgir", graph.toJson.sorted)]) = .ok graph.received := by
  have decoded := decode_compiled compiled
  rw [Graph.toJson, Json.sorted] at decoded ⊢
  simp only [graphOf, Json.isObject, if_true, Json.get?, Json.fields?, Option.bind_some,
    Fields.get?, decoded]
  rfl

theorem score_received (compiled : Authoring.compile settings.compile source = .ok graph)
    (weights : PerComponent) :
    Authoring.score weights graph.received = Authoring.score weights graph := by
  have written := compile_written compiled
  have resembles := Graph.received_resembles fun node member => (written node member).distinct
  exact resembles.scoresLike.score weights

end Service

namespace CommandLine

open Service (Reports succeeded get?_failure succeeded_failure)

variable {settings : Settings} {text : String}

theorem replyTo_blank (blank : text.toList.all Text.isBlank = true) :
    replyTo settings text (.score true) = .ok (Service.failure Service.missingSource) := by
  have refused : compileText settings text = Service.failure Service.missingSource := by
    rw [compileText, Service.compile, Service.source?_eq rfl, if_pos blank]
  simp only [replyTo, refused, succeeded_failure, Bool.false_eq_true, if_false]

theorem replyTo_error (spoken : text.toList.all Text.isBlank = false) {error : CompileError}
    (failed : Authoring.compile settings.compile text = .error error) :
    replyTo settings text (.score true) = .ok (Service.failure error.message) := by
  have refused : compileText settings text = Service.failure error.message := by
    rw [compileText, Service.compile, Service.source?_eq rfl, spoken]
    simp only [Bool.false_eq_true, if_false, failed]
  simp only [replyTo, refused, succeeded_failure, Bool.false_eq_true, if_false]

theorem replyTo_compiled (spoken : text.toList.all Text.isBlank = false) {graph : Graph}
    (compiled : Authoring.compile settings.compile text = .ok graph) :
    ∃ reply, replyTo settings text (.score true) = .ok reply ∧ succeeded reply = true ∧
      reply.get? "error" = none ∧ Reports reply (Authoring.score settings.scoring graph) := by
  obtain ⟨ok, document⟩ : (compileText settings text).get? "ok" = some (.bool true) ∧
      (compileText settings text).get? "tgir" = some graph.toJson.sorted :=
    Service.get?_compiled rfl spoken compiled
  have onward : succeeded (compileText settings text) = true := by
    rw [succeeded, ok]
  obtain ⟨scored, silent, reports⟩ := Service.score_reports (Service.graphOf_compiled compiled)
    (Service.score_received compiled settings.scoring)
  refine ⟨scoreGraph settings graph.toJson.sorted, ?_, ?_, silent, reports⟩
  · simp only [replyTo, onward, if_true, document]
    rfl
  · rw [succeeded, scoreGraph, scored]

/-- Scoring a program is scoring the graph that it compiles to. -/
theorem score_program_agrees (settings : Settings) (text : String) :
    ∃ reply, replyTo settings text (.score true) = .ok reply ∧
      (succeeded reply = true ↔ text.toList.all Text.isBlank = false ∧
        ∃ graph, Authoring.compile settings.compile text = .ok graph) ∧
      (∀ graph, text.toList.all Text.isBlank = false →
        Authoring.compile settings.compile text = .ok graph →
          Reports reply (Authoring.score settings.scoring graph)) ∧
      (∀ graph message, Authoring.compile settings.compile text = .ok graph →
        reply.get? "error" = some (.string message) →
          ¬"Invalid graph".toList <+: message.toList) := by
  cases blank : text.toList.all Text.isBlank with
  | true =>
      refine ⟨_, replyTo_blank blank, ?_, ?_, ?_⟩
      · simp [succeeded_failure]
      · intro graph spoken
        cases spoken
      · intro graph message _ told
        rw [(get?_failure _).2] at told
        cases told
        decide
  | false =>
      cases compiled : Authoring.compile settings.compile text with
      | error error =>
          refine ⟨_, replyTo_error blank compiled, ?_, ?_, ?_⟩
          · simp [succeeded_failure]
          · intro graph _ other
            cases other
          · intro graph message other
            cases other
      | ok graph =>
          obtain ⟨reply, answered, ok, silent, reports⟩ := replyTo_compiled blank compiled
          refine ⟨reply, answered, ?_, ?_, ?_⟩
          · simp [ok]
          · intro other _ same
            cases same
            exact reports
          · intro other message _ told
            rw [silent] at told
            cases told

end CommandLine

end Authoring
