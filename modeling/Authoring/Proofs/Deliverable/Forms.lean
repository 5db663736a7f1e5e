import Mathlib
import Authoring.Proofs.Deliverable.Decoding
import Authoring.Proofs.Json.Items

/-! The forms in which a deliverable can be written: an object with the kind among its fields, or an
array of the kind and the values of the fields. Contracts accept objects only, but the rules of
both can be evaluated. -/

namespace Authoring

open Outline (ofJson ofFields)

namespace DocumentKind

def fieldNames : DocumentKind → List String
  | slideDeck => ["meta", "slides", "sources"]
  | onePager => ["meta", "problem", "keyFacts", "implications", "actions", "citations", "sources"]
  | flashcards => ["meta", "cards", "sources"]

theorem fieldNames_distinct (kind : DocumentKind) : kind.fieldNames.Nodup := by
  cases kind <;> decide

theorem kind_not_mem_fieldNames (kind : DocumentKind) : "kind" ∉ kind.fieldNames := by
  cases kind <;> decide

theorem names_distinct (kind : DocumentKind) : ("kind" :: kind.fieldNames).Nodup :=
  List.nodup_cons.mpr ⟨kind.kind_not_mem_fieldNames, kind.fieldNames_distinct⟩

def Names (kind : DocumentKind) (document : Json) : Prop :=
  ∃ held, document = .object held ∧ Fields.get? "kind" held = some (.string kind.name) ∧
    Json.HasLists kind.listFields held

/-- The document is an array of the kind and the values of its fields, which need not be all. -/
def Orders (kind : DocumentKind) (document : Json) : Prop :=
  ∃ values, document = .array (.string kind.name :: values) ∧
    values.length ≤ kind.fieldNames.length ∧
    Json.HasLists kind.listFields (kind.fieldNames.zip values)

theorem listed_iff {kind : DocumentKind} {document : Json} :
    (∃ held, document.Listed ("kind" :: kind.fieldNames) kind.listFields held ∧
      Fields.get? "kind" held = some (.string kind.name)) ↔
        kind.Names document ∨ kind.Orders document := by
  have skipped : ∀ values : List Json, ∀ name ∈ kind.listFields,
      Fields.get? name (("kind", Json.string kind.name) :: kind.fieldNames.zip values) =
        Fields.get? name (kind.fieldNames.zip values) := by
    intro values name listed
    have different : "kind" ≠ name := by
      rintro rfl
      exact absurd listed (by cases kind <;> decide)
    rw [Fields.get?, if_neg different]
  constructor
  · rintro ⟨held, ⟨named, lists⟩, found⟩
    cases document with
    | object fields =>
        cases named
        exact .inl ⟨held, rfl, found, lists⟩
    | array items =>
        obtain ⟨short, rfl⟩ := Json.named?_array_eq_some_iff.mp named
        cases items with
        | nil => cases found
        | cons first values =>
            cases found
            refine .inr ⟨values, rfl, Nat.le_of_succ_le_succ short, fun name listed value => ?_⟩
            rw [← skipped values name listed]
            exact lists name listed value
    | null | bool | number | string => cases named
  · rintro (⟨held, rfl, found, lists⟩ | ⟨values, rfl, short, lists⟩)
    · exact ⟨held, ⟨rfl, lists⟩, found⟩
    · refine ⟨("kind", .string kind.name) :: kind.fieldNames.zip values,
        ⟨Json.named?_array_eq_some_iff.mpr ⟨Nat.succ_le_succ short, rfl⟩,
          fun name listed value => ?_⟩, rfl⟩
      rw [skipped values name listed]
      exact lists name listed value

end DocumentKind

theorem SlideDeck.positional : SlideDeck.record.Positional :=
  (((Record.of_positional SlideDeck.mk).optional (by decide)).optional (by decide)).optional
    (by decide)

theorem OnePager.positional : OnePager.record.Positional :=
  (((((((Record.of_positional OnePager.mk).optional (by decide)).optional (by decide)).optional
    (by decide)).optional (by decide)).optional (by decide)).optional (by decide)).optional
    (by decide)

theorem Flashcards.positional : Flashcards.record.Positional :=
  (((Record.of_positional Flashcards.mk).optional (by decide)).optional (by decide)).optional
    (by decide)

namespace Deliverable

variable {document : Json} {deliverable : Deliverable} {kind : DocumentKind}
  {fields held : List (String × Json)}

theorem eq_name_of_identifier {origin : Origin} {value : Json}
    (named : Decoder.identifier DocumentKind.variants origin (ofJson value) = .ok kind) :
    value = .string kind.name := by
  cases value with
  | string name =>
      simp only [ofJson, Decoder.identifier, Decoder.variantNamed] at named
      split at named
      · rename_i found
        cases named
        obtain ⟨other, _, same⟩ := List.mem_map.mp (Fields.mem_of_get? found)
        cases same
        rfl
      · cases named
  | null | bool | number | array | object => cases named

theorem kind_of_splitKind {origin : Origin} {members : List (Outline × Outline)}
    (distinct : (Fields.keys fields).Nodup)
    (split : splitKind origin none (ofFields fields) = .ok (some kind, members)) :
    Fields.get? "kind" fields = some (.string kind.name) := by
  induction fields generalizing members with
  | nil => cases split
  | cons field rest ih =>
      obtain ⟨name, value⟩ := field
      obtain ⟨fresh, laterDistinct⟩ := List.nodup_cons.mp distinct
      simp only [ofFields, splitKind, Outline.name, Outline.read_ofJson, lift, bind_eq_ok_iff,
        Except.ok.injEq, exists_eq_left'] at split
      by_cases same : name = "kind"
      · have absent : "kind" ∉ Fields.keys rest := same ▸ fresh
        simp only [same, if_true, Option.isSome_none, Bool.false_eq_true, if_false,
          splitKind_absent absent, bind_eq_ok_iff] at split
        obtain ⟨first, named, later⟩ := split
        cases later
        rw [same, eq_name_of_identifier named, Fields.get?, if_pos rfl]
      · simp only [same, if_false, bind_eq_ok_iff, Prod.exists] at split
        obtain ⟨_, _, _, _, splitLater, done⟩ := split
        cases done
        rw [Fields.get?, if_neg same]
        exact ih laterDistinct splitLater

theorem kind_of_ofMembers {members : List (Outline × Outline)}
    (built : ofMembers members kind = .ok deliverable) : deliverable.kind = kind := by
  cases kind with
  | slideDeck | onePager | flashcards =>
      obtain ⟨_, _, rfl⟩ := map_eq_ok_iff.mp built
      rfl

theorem others_cons_kind {value : Json} (absent : "kind" ∉ Fields.keys fields) :
    others (("kind", value) :: fields) = fields := by
  rw [others, List.filter_cons_of_neg (by simp)]
  exact others_absent absent

theorem decodeJson_array (kind : DocumentKind) (values : List Json) :
    decoder.decodeJson (.array (.string kind.name :: values)) =
      ofItems (Outline.ofItems values) kind := by
  simp only [Decoder.decodeJson, ofJson, Outline.ofItems, decoder, Decoder.identifier,
    Decoder.variantNamed, kind.variants_get?, Outline.readItems_ofItems, Outline.endOf, lift, bind,
    Except.bind, Bool.false_eq_true, if_false]

theorem ofItems_eq_ok_iff {values : List Json} :
    ofItems (Outline.ofItems values) kind = .ok deliverable ↔
      values.length ≤ kind.fieldNames.length ∧
        ofMembers (ofFields (kind.fieldNames.zip values)) kind = .ok deliverable := by
  cases kind with
  | slideDeck =>
      simp only [ofItems, ofMembers, map_eq_ok_iff, SlideDeck.positional.fromItems_eq_ok_iff,
        and_assoc, exists_and_left]
      rfl
  | onePager =>
      simp only [ofItems, ofMembers, map_eq_ok_iff, OnePager.positional.fromItems_eq_ok_iff,
        and_assoc, exists_and_left]
      rfl
  | flashcards =>
      simp only [ofItems, ofMembers, map_eq_ok_iff, Flashcards.positional.fromItems_eq_ok_iff,
        and_assoc, exists_and_left]
      rfl

theorem decodes_array_iff {values : List Json} :
    decoder.decodeJson (.array (.string kind.name :: values)) = .ok deliverable ↔
      values.length ≤ kind.fieldNames.length ∧
        decoder.decodeJson (.object (("kind", .string kind.name) :: kind.fieldNames.zip values)) =
          .ok deliverable := by
  have listed := Record.keys_zip_sublist kind.fieldNames values
  have absent : "kind" ∉ Fields.keys (kind.fieldNames.zip values) := fun member =>
    kind.kind_not_mem_fieldNames (listed.mem member)
  have distinct : (Fields.keys (("kind", Json.string kind.name) ::
      kind.fieldNames.zip values)).Nodup :=
    List.nodup_cons.mpr ⟨absent, kind.fieldNames_distinct.sublist listed⟩
  rw [decodeJson_array, ofItems_eq_ok_iff, decodeJson_eq distinct rfl, others_cons_kind absent]

theorem named_of_decodes (distinct : document.Distinct)
    (decoded : decoder.decodeJson document = .ok deliverable) :
    ∃ held, document.named? ("kind" :: deliverable.kind.fieldNames) = some held ∧
      Fields.get? "kind" held = some (.string deliverable.kind.name) := by
  cases document with
  | object fields =>
      refine ⟨fields, rfl, ?_⟩
      simp only [Decoder.decodeJson, ofJson, decoder, Bool.false_eq_true, if_false, bind_eq_ok_iff,
        Prod.exists] at decoded
      obtain ⟨kind?, members, split, _, _, built⟩ := decoded
      cases kind? with
      | none => cases built
      | some kind =>
          rw [kind_of_ofMembers built]
          exact kind_of_splitKind (Json.distinct_object_iff.mp distinct).1 split
  | array items =>
      cases items with
      | nil => cases decoded
      | cons first values =>
          simp only [Decoder.decodeJson, ofJson, Outline.ofItems, decoder, Bool.false_eq_true,
            if_false, bind_eq_ok_iff] at decoded
          obtain ⟨kind, named, _, _, _, _, built⟩ := decoded
          cases eq_name_of_identifier named
          obtain ⟨short, built⟩ := ofItems_eq_ok_iff.mp built
          rw [kind_of_ofMembers built]
          exact ⟨("kind", .string kind.name) :: kind.fieldNames.zip values,
            Json.named?_array_eq_some_iff.mpr ⟨Nat.succ_le_succ short, rfl⟩, rfl⟩
  | null | bool | number | string => cases decoded

theorem decodes_named_iff (named : document.named? ("kind" :: kind.fieldNames) = some held)
    (found : Fields.get? "kind" held = some (.string kind.name)) :
    decoder.decodeJson document = .ok deliverable ↔
      decoder.decodeJson (.object held) = .ok deliverable := by
  cases document with
  | object fields =>
      cases named
      rfl
  | array items =>
      obtain ⟨short, rfl⟩ := Json.named?_array_eq_some_iff.mp named
      cases items with
      | nil => cases found
      | cons first values =>
          cases found
          rw [decodes_array_iff]
          exact and_iff_right (Nat.le_of_succ_le_succ short)
  | null | bool | number | string => cases named

theorem named_distinct (distinct : document.Distinct)
    (named : document.named? ("kind" :: kind.fieldNames) = some held) :
    (Json.object held).Distinct :=
  Json.named?_distinct distinct kind.names_distinct named

theorem decodes_eq_ok_iff (distinct : document.Distinct) :
    decoder.decodeJson document = .ok deliverable ↔ ∃ held,
      document.Listed ("kind" :: deliverable.kind.fieldNames) deliverable.kind.listFields held ∧
      Fields.get? "kind" held = some (.string deliverable.kind.name) ∧
      ofNamed held deliverable.kind = deliverable := by
  constructor
  · intro decoded
    obtain ⟨held, named, found⟩ := named_of_decodes distinct decoded
    have heldDistinct := named_distinct distinct named
    have known : DocumentKind.ofJson (.object held) = .ok deliverable.kind :=
      DocumentKind.ofJson_eq_ok_iff.mpr found
    have decodedHeld := (decodes_named_iff named found).mp decoded
    have lists := (decodes_iff heldDistinct known).mp ⟨deliverable, decodedHeld⟩
    rw [decodes_ofNamed heldDistinct found lists] at decodedHeld
    exact ⟨held, ⟨named, lists⟩, found, Except.ok.inj decodedHeld⟩
  · rintro ⟨held, ⟨named, lists⟩, found, made⟩
    rw [decodes_named_iff named found,
      decodes_ofNamed (named_distinct distinct named) found lists, made]

theorem decodes_iff_forms (distinct : document.Distinct) :
    (∃ deliverable, decoder.decodeJson document = .ok deliverable) ↔
      ∃ kind : DocumentKind, kind.Names document ∨ kind.Orders document := by
  simp only [← DocumentKind.listed_iff, decodes_eq_ok_iff distinct]
  constructor
  · rintro ⟨deliverable, held, listed, found, _⟩
    exact ⟨_, held, listed, found⟩
  · rintro ⟨kind, held, listed, found⟩
    refine ⟨ofNamed held kind, held, ?_⟩
    rw [kind_ofNamed]
    exact ⟨listed, found, rfl⟩

end Deliverable

/-- The rules of a document can be evaluated when it is an object with a known kind whose lists are
lists, or an array that is read as such an object. For all but arrays only the object is left. -/
theorem evaluates_iff_forms (document : Json) (distinct : document.Distinct) :
    ((∃ errors, evaluateRules document = .ok errors) ↔
      ∃ kind : DocumentKind, kind.Names document ∨ kind.Orders document) ∧
    ((∃ error, evaluateRules document = .error error) ↔
      ∀ kind : DocumentKind, ¬ kind.Names document ∧ ¬ kind.Orders document) ∧
    (document.items? = none →
      ((∃ errors, evaluateRules document = .ok errors) ↔
        ∃ kind : DocumentKind, kind.Names document) ∧
      ((∃ error, evaluateRules document = .error error) ↔
        ∀ kind : DocumentKind, ¬ kind.Names document)) := by
  have accepted : (∃ errors, evaluateRules document = .ok errors) ↔
      ∃ kind : DocumentKind, kind.Names document ∨ kind.Orders document := by
    rw [← Deliverable.decodes_iff_forms distinct, evaluateRules]
    cases Deliverable.decoder.decodeJson document <;> simp
  have refused : (∃ error, evaluateRules document = .error error) ↔
      ¬ ∃ errors, evaluateRules document = .ok errors := by
    cases evaluateRules document <;> simp
  rw [accepted, not_exists] at refused
  simp only [not_or] at refused
  refine ⟨accepted, refused, fun noList => ?_⟩
  have unordered : ∀ kind : DocumentKind, ¬ kind.Orders document := by
    rintro kind ⟨values, rfl, _⟩
    cases noList
  simp only [accepted, refused, unordered, or_false, not_false_eq_true, and_true, and_self]

def listlessPage : Json :=
  .object [("kind", .string "OnePager"), ("problem", .string "Cost"), ("actions", .string "None")]

def orderedDeck : Json :=
  .array [.string "SlideDeck", .null, .array [.object [("title", .string "Intro")]]]

theorem evaluates_iff_forms_of_samples :
    listlessPage.Distinct ∧ listlessPage.items? = none ∧
      (∃ error, evaluateRules listlessPage = .error error) ∧
    orderedDeck.Distinct ∧ ∃ errors, evaluateRules orderedDeck = .ok errors := by
  have pageDistinct : listlessPage.Distinct := by
    simp [listlessPage, Json.Distinct, Json.DistinctFields, Fields.keys]
  have deckDistinct : orderedDeck.Distinct := by
    simp [orderedDeck, Json.Distinct, Json.DistinctItems, Json.DistinctFields, Fields.keys]
  have unnamed : ∀ kind : DocumentKind, ¬ kind.Names listlessPage := by
    rintro kind ⟨held, same, found, lists⟩
    cases same
    cases kind with
    | onePager => exact absurd (lists "actions" (by decide) _ rfl) (by decide)
    | slideDeck | flashcards => simp [Fields.get?, DocumentKind.name] at found
  have ordered : DocumentKind.slideDeck.Orders orderedDeck := by
    refine ⟨_, rfl, by decide, fun name listed value found => ?_⟩
    simp only [DocumentKind.listFields, List.mem_cons, List.not_mem_nil, or_false] at listed
    rcases listed with rfl | rfl
    · cases found
      rfl
    · cases found
  refine ⟨pageDistinct, rfl, ?_, deckDistinct, ?_⟩
  · exact ((evaluates_iff_forms listlessPage pageDistinct).2.2 rfl).2.mpr unnamed
  · exact (evaluates_iff_forms orderedDeck deckDistinct).1.mpr ⟨.slideDeck, .inr ordered⟩

theorem evaluates_without_object :
    ¬ ((∃ errors, evaluateRules (.array [.string "Flashcards"]) = .ok errors) ↔
      ∃ kind : DocumentKind, kind.Names (.array [.string "Flashcards"])) := by
  intro claimed
  obtain ⟨kind, held, same, _⟩ := claimed.mp ⟨_, rfl⟩
  cases same

end Authoring
