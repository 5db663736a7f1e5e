import Mathlib
import Authoring.Proofs.Graph.Decoding

/-! What a document means as a value, and that both readers find it: the one that goes by the kind of
the document, and the one that tries the kinds of value in turn. -/

namespace Authoring

def WideInt.greatest : WideInt :=
  ⟨18446744073709551615, by decide⟩

def WideInt.least : WideInt :=
  ⟨-9223372036854775808, by decide⟩

/-- The value is of the document's kind, and its parts stand for the parts of the document in their
order. An integer is one of a signed word if there is one, and a float otherwise. -/
inductive Json.Means : Json → Value → Prop
  | null : Json.null.Means .null
  | bool (value : Bool) : (Json.bool value).Means (.bool value)
  | word {whole : WideInt} {value : Int64} (same : value.toInt = whole.value) :
      (Json.number (.integer whole)).Means (.int value)
  | wide {whole : WideInt} (wide : ∀ value : Int64, value.toInt ≠ whole.value) :
      (Json.number (.integer whole)).Means (.float (Float.ofInt whole.value))
  | float (exact : FiniteFloat) : (Json.number (.float exact)).Means (.float exact.value)
  | string (text : String) : (Json.string text).Means (.string text)
  | list {items : List Json} {values : List Value} (each : List.Forall₂ Json.Means items values) :
      (Json.array items).Means (.list values)
  | map {fields : Fields Json} {values : Fields Value} (names : values.keys = fields.keys)
      (each : List.Forall₂ Json.Means (fields.map Prod.snd) (values.map Prod.snd)) :
      (Json.object fields).Means (.map values)

namespace Value

theorem means_ofNumber (number : Number) : (Json.number number).Means (ofNumber number) := by
  cases number with
  | float exact => exact .float exact
  | integer whole =>
      have range := whole.inRange
      by_cases small : whole.value < 0x8000000000000000
      · rw [ofNumber, if_pos small]
        exact .word (Int64.toInt_ofInt_of_le range.1 small)
      · rw [ofNumber, if_neg small]
        exact .wide fun value same => small (same ▸ value.toInt_lt)

theorem eq_ofNumber {number : Number} {value : Value} (means : (Json.number number).Means value) :
    value = ofNumber number := by
  cases means with
  | float exact => rfl
  | @word whole held same =>
      have small : whole.value < 0x8000000000000000 := same ▸ held.toInt_lt
      rw [ofNumber, if_pos small, ← same, Int64.ofInt_toInt]
  | @wide whole wide =>
      have large : ¬whole.value < 0x8000000000000000 := fun small =>
        wide _ (Int64.toInt_ofInt_of_le whole.inRange.1 small)
      rw [ofNumber, if_neg large]

theorem keys_ofFields (fields : Fields Json) :
    Fields.keys (ofFields fields) = Fields.keys fields := by
  rw [ofFields_eq_map, Fields.keys, List.map_map]
  rfl

theorem ofJson_object {fields : Fields Json} (distinct : (Fields.keys fields).Nodup) :
    ofJson (.object fields) = .map (ofFields fields) := by
  rw [ofJson, Fields.collect_eq (keys_ofFields fields ▸ distinct)]

mutual
theorem means_iff : (document : Json) → document.Distinct → (value : Value) →
    (document.Means value ↔ value = ofJson document)
  | .null, _, value => by
      constructor
      · rintro ⟨⟩
        rfl
      · rintro rfl
        exact .null
  | .bool held, _, value => by
      constructor
      · rintro ⟨⟩
        rfl
      · rintro rfl
        exact .bool held
  | .number number, _, value => by
      constructor
      · exact eq_ofNumber
      · rintro rfl
        exact means_ofNumber number
  | .string text, _, value => by
      constructor
      · rintro ⟨⟩
        rfl
      · rintro rfl
        exact .string text
  | .array items, distinct, value => by
      constructor
      · intro means
        cases means with
        | list each => rw [ofJson, (meansItems_iff items distinct _).mp each]
      · rintro rfl
        exact .list ((meansItems_iff items distinct _).mpr rfl)
  | .object fields, distinct, value => by
      rw [ofJson_object distinct.1]
      constructor
      · intro means
        cases means with
        | map names each => rw [(meansFields_iff fields distinct.2 _).mp ⟨names, each⟩]
      · rintro rfl
        obtain ⟨names, each⟩ := (meansFields_iff fields distinct.2 _).mpr rfl
        exact .map names each

theorem meansItems_iff : (items : List Json) → Json.DistinctItems items → (values : List Value) →
    (List.Forall₂ Json.Means items values ↔ values = ofItems items)
  | [], _, values => by rw [List.forall₂_nil_left_iff, ofItems]
  | item :: rest, distinct, values => by
      simp only [List.forall₂_cons_left_iff, ofItems, means_iff item distinct.1,
        meansItems_iff rest distinct.2]
      simp

theorem meansFields_iff : (fields : Fields Json) → Json.DistinctFields fields →
    (values : Fields Value) →
    (values.keys = fields.keys ∧
      List.Forall₂ Json.Means (fields.map Prod.snd) (values.map Prod.snd) ↔ values = ofFields fields)
  | [], _, values => by simp [Fields.keys, ofFields]
  | (name, held) :: rest, distinct, [] => by simp [Fields.keys, ofFields]
  | (name, held) :: rest, distinct, (key, value) :: others => by
      have first := means_iff held distinct.1 value
      have later := meansFields_iff rest distinct.2 others
      simp only [Fields.keys, List.map_cons, List.cons.injEq, List.forall₂_cons, ofFields,
        Prod.mk.injEq, first, ← later]
      tauto
end

/-- Trying the kinds of value never fails, wherever the document comes from, and gives what reading
by its kind gives: the value that the document means. -/
theorem readers_agree (document : Json) :
    (∀ origin, decoder origin (.ofJson document) = .ok (ofJson document)) ∧
      (document.Distinct → ∀ value, document.Means value ↔ value = ofJson document) :=
  ⟨fun origin => decoder_copies document origin _ rfl, means_iff document⟩

def sampleDocument : Json :=
  .array [.number (.integer .greatest), .number (.integer .least),
    .object [("b", .array []), ("a", .object [])]]

def sampleValue : Value :=
  .list [.float (Float.ofInt 18446744073709551615), .int (-9223372036854775808),
    .map [("b", .list []), ("a", .map [])]]

theorem readers_agree_of_sampleDocument :
    sampleDocument.Distinct ∧ ofJson sampleDocument = sampleValue ∧
      (∀ origin, decoder origin (.ofJson sampleDocument) = .ok sampleValue) ∧
      sampleDocument.Means sampleValue := by
  have distinct : sampleDocument.Distinct := by
    simp [sampleDocument, Json.Distinct, Json.DistinctItems, Json.DistinctFields, Fields.keys]
  have read : ofJson sampleDocument = sampleValue := rfl
  obtain ⟨agree, means⟩ := readers_agree sampleDocument
  rw [read] at agree
  exact ⟨distinct, read, agree, (means distinct sampleValue).mpr read.symm⟩

end Value

end Authoring
