import Mathlib
import Authoring.Score.Codec
import Authoring.Proofs.Json.Decoding

/-! The JSON form of the numbers of a score: each stands under its name, and they are read back. -/

namespace Authoring

inductive Json.IsFloat (value : Float) : Json → Prop
  | finite (finite : value.isFinite = true) : IsFloat value (.number (.float ⟨value, finite⟩))
  | infinite (infinite : value.isFinite = false) : IsFloat value .null

theorem Json.ofFloat_isFloat (value : Float) : (Json.ofFloat value).IsFloat value := by
  cases finite : value.isFinite with
  | true =>
      have written := Json.ofFloat_value ⟨value, finite⟩
      rw [written]
      exact .finite finite
  | false =>
      have written : Json.ofFloat value = .null := by simp [Json.ofFloat, Number.ofFloat?, finite]
      rw [written]
      exact .infinite finite

theorem Json.IsFloat.sorted {value : Float} {document : Json} (float : document.IsFloat value) :
    document.sorted.IsFloat value := by
  cases float with
  | finite finite => exact .finite finite
  | infinite infinite => exact .infinite infinite

theorem Decoder.float_reads {value : Float} (finite : value.isFinite = true) :
    Decoder.float.Reads (.ofFloat value) value := by
  rintro origin outline ⟨form, _, alike, rfl⟩
  have written := Json.ofFloat_value ⟨value, finite⟩
  rw [written] at alike
  cases form with
  | number held =>
      cases alike
      rfl
  | null | bool | string | array | object => cases alike

namespace PerComponent

/-- The six numbers stand under their names, and nothing stands under any other name. -/
structure IsShown (numbers : PerComponent) (shown : Json) : Prop where
  each : ∀ entry ∈ [("goalMatch", numbers.goalMatch), ("constraintPass", numbers.constraintPass),
      ("testPass", numbers.testPass), ("structureCompleteness", numbers.structureCompleteness),
      ("evidence", numbers.evidence), ("humanity", numbers.humanity)],
    ∃ document, shown.get? entry.1 = some document ∧ document.IsFloat entry.2
  only : ∀ name document, shown.get? name = some document →
    name ∈ ["goalMatch", "constraintPass", "testPass", "structureCompleteness", "evidence",
      "humanity"]

variable {numbers : PerComponent}

theorem toJson_isShown (numbers : PerComponent) : numbers.IsShown numbers.toJson where
  each := by
    simp only [List.forall_mem_cons]
    exact ⟨⟨_, rfl, Json.ofFloat_isFloat _⟩, ⟨_, rfl, Json.ofFloat_isFloat _⟩,
      ⟨_, rfl, Json.ofFloat_isFloat _⟩, ⟨_, rfl, Json.ofFloat_isFloat _⟩,
      ⟨_, rfl, Json.ofFloat_isFloat _⟩, ⟨_, rfl, Json.ofFloat_isFloat _⟩, List.forall_mem_nil _⟩
  only := by
    intro name document found
    exact Fields.mem_keys_of_get? found

theorem toJson_distinct (numbers : PerComponent) : numbers.toJson.Distinct := by
  simp [toJson, names, toList, Json.Distinct, Json.DistinctFields, Fields.keys,
    Json.ofFloat_distinct]

theorem IsShown.sorted {shown : Json} (isShown : numbers.IsShown shown)
    (distinct : shown.Distinct) : numbers.IsShown shown.sorted where
  each := by
    intro entry listed
    obtain ⟨document, found, float⟩ := isShown.each entry listed
    exact ⟨document.sorted, by rw [Json.get?_sorted distinct, found]; rfl, float.sorted⟩
  only := by
    intro name document found
    rw [Json.get?_sorted distinct, Option.map_eq_some_iff] at found
    obtain ⟨held, found, -⟩ := found
    exact isShown.only name held found

theorem reads (finite : ∀ value ∈ numbers.toList, value.isFinite = true) :
    decoder.Reads numbers.toJson numbers := by
  simp only [toList, List.forall_mem_cons] at finite
  obtain ⟨goalMatch, constraintPass, testPass, structureCompleteness, evidence, humanity, -⟩ :=
    finite
  refine Record.decoder_reads "ScoreComponents" numbers.toJson_distinct.1 ?_
  exact ((((((Record.of_reads PerComponent.mk).required
    rfl (Decoder.float_reads goalMatch)).required
    rfl (Decoder.float_reads constraintPass)).required
    rfl (Decoder.float_reads testPass)).required
    rfl (Decoder.float_reads structureCompleteness)).required
    rfl (Decoder.float_reads evidence)).required
    rfl (Decoder.float_reads humanity)

theorem decodes_toJson (finite : ∀ value ∈ numbers.toList, value.isFinite = true) :
    decoder.decodeJson numbers.toJson = .ok numbers :=
  (reads finite).decodeJson numbers.toJson_distinct

end PerComponent

end Authoring
