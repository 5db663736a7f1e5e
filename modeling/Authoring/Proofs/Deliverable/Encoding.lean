import Mathlib
import Authoring.Proofs.Deliverable.Reading
import Authoring.Proofs.Json.Number
import Authoring.Proofs.Json.Present
import Authoring.Proofs.Json.Results

/-! Deliverables come back from their JSON form as they were. So a document that is decoded, encoded
and decoded again is the same deliverable, and breaks the same rules. -/

namespace Authoring

open Decoder

/-! The JSON forms as tables -/

theorem Source.toJson_eq (source : Source) :
    source.toJson = .object (present [("id", some (.string source.id)),
      ("kind", source.kind.map SourceKind.toJson), ("value", some (.string source.value)),
      ("title", source.title.map .string), ("accessed", source.accessed.map .string)]) := by
  simp only [toJson, optionalField_eq_present, List.append_assoc, List.cons_append,
    List.nil_append, present_append, cons_present]

theorem FigureStub.toJson_eq (figure : FigureStub) :
    figure.toJson = .object (present
      [("stub", some (.string figure.stub)), ("caption", figure.caption.map .string)]) := by
  simp only [toJson, optionalField_eq_present, List.cons_append, List.nil_append, cons_present]

theorem Slide.toJson_eq (slide : Slide) :
    slide.toJson = .object (present [("title", some (.string slide.title)),
      ("bullets", nonEmptyArray (slide.bullets.map .string)),
      ("figureStubs", nonEmptyArray (slide.figureStubs.map FigureStub.toJson)),
      ("citations", nonEmptyArray (slide.citations.map .string)),
      ("notes", slide.notes.map .string)]) := by
  simp only [toJson, optionalField_eq_present, optionalList_eq_present,
    List.cons_append, List.nil_append, present_append, cons_present]

theorem Card.toJson_eq (card : Card) :
    card.toJson = .object (present [("q", some (.string card.question)),
      ("a", some (.string card.answer)), ("tags", nonEmptyArray (card.tags.map .string)),
      ("citations", nonEmptyArray (card.citations.map .string))]) := by
  simp only [toJson, optionalList_eq_present, List.cons_append, List.nil_append, present_append,
    cons_present]

theorem DeckMeta.toJson_eq (info : DeckMeta) :
    info.toJson = .object (present [("title", some (.string info.title)),
      ("slideCount", info.slideCount.map .ofFloat)]) := by
  simp only [toJson, optionalField_eq_present, List.cons_append, List.nil_append, cons_present]

theorem PageMeta.toJson_eq (info : PageMeta) :
    info.toJson = .object (present [("title", some (.string info.title)),
      ("wordBudget", info.wordBudget.map .ofFloat)]) := by
  simp only [toJson, optionalField_eq_present, List.cons_append, List.nil_append, cons_present]

theorem CardsMeta.toJson_eq (info : CardsMeta) :
    info.toJson = .object (present [("title", info.title.map .string)]) := by
  rw [toJson, optionalField_eq_present]

theorem SlideDeck.toJson_eq (deck : SlideDeck) :
    (Deliverable.slideDeck deck).toJson = .object (present
      [("kind", some (.string DocumentKind.slideDeck.name)), ("meta", some deck.info.toJson),
        ("slides", some (.array (deck.slides.map Slide.toJson))),
        ("sources", some (.array (deck.sources.map Source.toJson)))]) :=
  rfl

theorem OnePager.toJson_eq (page : OnePager) :
    (Deliverable.onePager page).toJson = .object (present
      [("kind", some (.string DocumentKind.onePager.name)), ("meta", some page.info.toJson),
        ("problem", some (.string page.problem)),
        ("keyFacts", some (.array (page.keyFacts.map .string))),
        ("implications", some (.array (page.implications.map .string))),
        ("actions", some (.array (page.actions.map .string))),
        ("citations", some (.array (page.citations.map .string))),
        ("sources", some (.array (page.sources.map Source.toJson)))]) :=
  rfl

theorem Flashcards.toJson_eq (set : Flashcards) :
    (Deliverable.flashcards set).toJson = .object (present
      [("kind", some (.string DocumentKind.flashcards.name)),
        ("meta", set.info.map CardsMeta.toJson),
        ("cards", some (.array (set.cards.map Card.toJson))),
        ("sources", some (.array (set.sources.map Source.toJson)))]) := by
  obtain ⟨info?, cards, sources⟩ := set
  cases info? <;> rfl

/-! Reading the tables -/

section Tables

variable {α : Type} {decoder : Decoder α} {encode : α → Json} {table : List (String × Option Json)}

theorem get?_table (names : (Fields.keys table).Nodup) :
    (Json.object (present table)).get? = fun name => (Fields.get? name table).join :=
  funext fun name => get?_present names name

theorem table_reads {record : Record α} {result : α} (type : String)
    (names : (Fields.keys table).Nodup)
    (reads : record.Reads (fun name => (Fields.get? name table).join) result) :
    (record.decoder type).Reads (.object (present table)) result := by
  rw [← get?_table names] at reads
  exact Record.decoder_reads type (names.sublist (keys_present_sublist table)) reads

theorem value_reads (default : α) {value : Json} {result : α}
    (reads : decoder.Reads value result) :
    (lenient default decoder).ReadsField default (some value) result :=
  lenient_reads default reads

theorem array_reads (default : α) (each : ∀ value, decoder.Reads (encode value) value)
    (values : List α) :
    (lenientList default decoder).ReadsField [] (some (.array (values.map encode))) values := by
  apply list_reads
  rw [List.forall₂_map_left_iff, List.forall₂_same]
  exact fun value _ => lenient_reads default (each value)

theorem nonEmptyArray_reads (default : α) (each : ∀ value, decoder.Reads (encode value) value)
    (values : List α) :
    (lenientList default decoder).ReadsField [] (nonEmptyArray (values.map encode)) values := by
  cases values with
  | nil => rfl
  | cons first rest => exact array_reads default each (first :: rest)

theorem finite_reads {float? : Option Float} (finite : ∀ float ∈ float?, float.isFinite = true) :
    lenientNumber.ReadsField none (float?.map .ofFloat) float? := by
  cases float? with
  | none => rfl
  | some float =>
      have isFinite := finite float rfl
      have written : Json.ofFloat float = .number (.float ⟨float, isFinite⟩) := by
        simp [Json.ofFloat, Number.ofFloat?, isFinite]
      rw [Option.map_some, written]
      exact lenientNumber_reads (.number (.float ⟨float, isFinite⟩))

end Tables

theorem Source.encoded_reads (source : Source) : Source.decoder.Reads source.toJson source := by
  rw [toJson_eq]
  exact table_reads "Source" (by simp [Fields.keys])
    ((((((Record.of_reads Source.mk).optional (text_reads rfl)).optional
      (sourceKind_reads rfl)).optional (text_reads rfl)).optional
      (optionalText_reads rfl)).optional (optionalText_reads rfl))

theorem FigureStub.encoded_reads (figure : FigureStub) :
    FigureStub.decoder.Reads figure.toJson figure := by
  rw [toJson_eq]
  exact table_reads "FigureStub" (by simp [Fields.keys])
    (((Record.of_reads FigureStub.mk).optional (text_reads rfl)).optional (optionalText_reads rfl))

theorem Slide.encoded_reads (slide : Slide) : Slide.decoder.Reads slide.toJson slide := by
  rw [toJson_eq]
  exact table_reads "Slide" (by simp [Fields.keys])
    ((((((Record.of_reads Slide.mk).optional (text_reads rfl)).optional
      (nonEmptyArray_reads "" string_reads slide.bullets)).optional
      (nonEmptyArray_reads FigureStub.empty FigureStub.encoded_reads slide.figureStubs)).optional
      (nonEmptyArray_reads "" string_reads slide.citations)).optional (optionalText_reads rfl))

theorem Card.encoded_reads (card : Card) : Card.decoder.Reads card.toJson card := by
  rw [toJson_eq]
  exact table_reads "Card" (by simp [Fields.keys])
    (((((Record.of_reads Card.mk).optional (text_reads rfl)).optional (text_reads rfl)).optional
      (nonEmptyArray_reads "" string_reads card.tags)).optional
      (nonEmptyArray_reads "" string_reads card.citations))

theorem DeckMeta.encoded_reads {info : DeckMeta}
    (finite : ∀ count ∈ info.slideCount, count.isFinite = true) :
    DeckMeta.decoder.Reads info.toJson info := by
  rw [toJson_eq]
  exact table_reads "DeckMeta" (by simp [Fields.keys])
    (((Record.of_reads DeckMeta.mk).optional (text_reads rfl)).optional (finite_reads finite))

theorem PageMeta.encoded_reads {info : PageMeta}
    (finite : ∀ budget ∈ info.wordBudget, budget.isFinite = true) :
    PageMeta.decoder.Reads info.toJson info := by
  rw [toJson_eq]
  exact table_reads "PageMeta" (by simp [Fields.keys])
    (((Record.of_reads PageMeta.mk).optional (text_reads rfl)).optional (finite_reads finite))

theorem CardsMeta.encoded_reads (info : CardsMeta) : CardsMeta.decoder.Reads info.toJson info := by
  rw [toJson_eq]
  exact table_reads "CardsMeta" (by simp [Fields.keys])
    ((Record.of_reads CardsMeta.mk).optional (optionalText_reads rfl))

theorem cardsMeta_reads (info? : Option CardsMeta) :
    (lenient none (.option CardsMeta.decoder)).ReadsField none (info?.map CardsMeta.toJson)
      info? := by
  cases info? with
  | none => rfl
  | some info => exact lenient_reads none (option_reads info.encoded_reads nofun)

/-! Whole deliverables -/

namespace Deliverable

def number? : Deliverable → Option Float
  | slideDeck deck => deck.info.slideCount
  | onePager page => page.info.wordBudget
  | flashcards _ => none

def IsFinite (deliverable : Deliverable) : Prop :=
  ∀ number ∈ deliverable.number?, number.isFinite = true

variable {deliverable : Deliverable}

theorem toJson_names (deliverable : Deliverable) :
    ("kind" :: Fields.keys deliverable.toFields).Nodup := by
  cases deliverable with
  | slideDeck deck => simp [toFields, SlideDeck.toFields, Fields.keys]
  | onePager page => simp [toFields, OnePager.toFields, Fields.keys]
  | flashcards set =>
      cases info : set.info <;>
        simp [toFields, Flashcards.toFields, optionalField, Fields.keys, info]

theorem toJson_readFrom (finite : deliverable.IsFinite) :
    deliverable.ReadFrom deliverable.toJson := by
  cases deliverable with
  | slideDeck deck =>
      exact (((Record.of_reads SlideDeck.mk).optional
        (value_reads DeckMeta.empty (DeckMeta.encoded_reads finite))).optional
        (array_reads Slide.empty Slide.encoded_reads deck.slides)).optional
        (array_reads Source.empty Source.encoded_reads deck.sources)
  | onePager page =>
      exact (((((((Record.of_reads OnePager.mk).optional
        (value_reads PageMeta.empty (PageMeta.encoded_reads finite))).optional
        (text_reads rfl)).optional
        (array_reads "" string_reads page.keyFacts)).optional
        (array_reads "" string_reads page.implications)).optional
        (array_reads "" string_reads page.actions)).optional
        (array_reads "" string_reads page.citations)).optional
        (array_reads Source.empty Source.encoded_reads page.sources)
  | flashcards set =>
      rw [ReadFrom, Flashcards.toJson_eq, get?_table (by simp [Fields.keys])]
      exact (((Record.of_reads Flashcards.mk).optional (cardsMeta_reads set.info)).optional
        (array_reads Card.empty Card.encoded_reads set.cards)).optional
        (array_reads Source.empty Source.encoded_reads set.sources)

theorem ReadFrom.sorted {fields : List (String × Json)} (distinct : (Fields.keys fields).Nodup)
    (reads : deliverable.ReadFrom (.object fields)) :
    deliverable.ReadFrom (Json.object fields).sorted := by
  cases deliverable with
  | slideDeck deck => exact Record.Reads.sorted distinct reads
  | onePager page => exact Record.Reads.sorted distinct reads
  | flashcards set => exact Record.Reads.sorted distinct reads

theorem decodes_toJson (finite : deliverable.IsFinite) :
    decoder.decodeJson deliverable.toJson.sorted = .ok deliverable := by
  have distinct : (Fields.keys (("kind", .string deliverable.kind.name) ::
      deliverable.toFields)).Nodup := deliverable.toJson_names
  refine decodes_of_reads (Json.sorted_distinct _) ?_ (ReadFrom.sorted distinct
    (toJson_readFrom finite))
  rw [toJson, Json.get?_sorted_object distinct]
  rfl

end Deliverable

/-! What is decoded holds finite numbers only -/

theorem lenientNumber_yields :
    lenientNumber.Yields fun float? => ∀ float ∈ float?, float.isFinite = true := by
  intro origin outline float? decoded
  obtain ⟨document, _, rfl⟩ := map_eq_ok_iff.mp decoded
  intro float member
  obtain ⟨number, _, rfl⟩ := Option.map_eq_some_iff.mp member
  exact number.toFloat_isFinite

theorem DeckMeta.decoder_yields :
    DeckMeta.decoder.Yields fun info => ∀ count ∈ info.slideCount, count.isFinite = true :=
  ((Record.of_yields fun _ _ finite => finite).free.field lenientNumber_yields nofun).decoder
    "DeckMeta"

theorem PageMeta.decoder_yields :
    PageMeta.decoder.Yields fun info => ∀ budget ∈ info.wordBudget, budget.isFinite = true :=
  ((Record.of_yields fun _ _ finite => finite).free.field lenientNumber_yields nofun).decoder
    "PageMeta"

namespace Deliverable

theorem slideDeck_yields : SlideDeck.record.Yields fun deck => (slideDeck deck).IsFinite :=
  ((Record.of_yields fun _ finite _ _ => finite).field
    (lenient_yields (by nofun) DeckMeta.decoder_yields) (by rintro _ ⟨⟩; nofun)).free.free

theorem onePager_yields : OnePager.record.Yields fun page => (onePager page).IsFinite :=
  ((Record.of_yields fun _ finite _ _ _ _ _ _ => finite).field
    (lenient_yields (by nofun) PageMeta.decoder_yields)
    (by rintro _ ⟨⟩; nofun)).free.free.free.free.free.free

theorem ofMembers_isFinite {members : List (Outline × Outline)} {kind : DocumentKind}
    {deliverable : Deliverable} (built : ofMembers members kind = .ok deliverable) :
    deliverable.IsFinite := by
  cases kind with
  | slideDeck =>
      obtain ⟨deck, decoded, rfl⟩ := map_eq_ok_iff.mp built
      exact slideDeck_yields.fromMembers decoded
  | onePager =>
      obtain ⟨page, decoded, rfl⟩ := map_eq_ok_iff.mp built
      exact onePager_yields.fromMembers decoded
  | flashcards =>
      obtain ⟨set, _, rfl⟩ := map_eq_ok_iff.mp built
      nofun

theorem ofItems_isFinite {items : List Outline} {kind : DocumentKind} {deliverable : Deliverable}
    (built : ofItems items kind = .ok deliverable) : deliverable.IsFinite := by
  cases kind with
  | slideDeck =>
      obtain ⟨deck, decoded, rfl⟩ := map_eq_ok_iff.mp built
      exact slideDeck_yields.fromItems decoded
  | onePager =>
      obtain ⟨page, decoded, rfl⟩ := map_eq_ok_iff.mp built
      exact onePager_yields.fromItems decoded
  | flashcards =>
      obtain ⟨set, _, rfl⟩ := map_eq_ok_iff.mp built
      nofun

theorem decoder_yields : decoder.Yields IsFinite := by
  intro origin outline deliverable decoded
  unfold decoder at decoded
  split at decoded
  -- An object, with the kind among its members.
  · split at decoded
    · cases decoded
    · obtain ⟨⟨kind?, others⟩, _, later⟩ := bind_eq_ok_iff.mp decoded
      obtain ⟨_, _, built⟩ := bind_eq_ok_iff.mp later
      cases kind? with
      | some kind => exact ofMembers_isFinite built
      | none => cases built
  -- An array, which starts with the kind.
  · split at decoded
    · cases decoded
    · split at decoded
      · obtain ⟨_, _, refused⟩ := bind_eq_ok_iff.mp decoded
        cases refused
      · obtain ⟨kind, _, later⟩ := bind_eq_ok_iff.mp decoded
        obtain ⟨_, _, later⟩ := bind_eq_ok_iff.mp later
        obtain ⟨_, _, built⟩ := bind_eq_ok_iff.mp later
        exact ofItems_isFinite built
  · exact absurd decoded (Outline.refuse_ne_ok _ _ deliverable)

/-- Encoding loses nothing of a deliverable, so a document that is decoded may be replaced by what
its deliverable is encoded to: that is decoded to the same, and breaks the same rules. -/
theorem decodes_of_encoded :
    (∀ deliverable : Deliverable, deliverable.IsFinite →
      decoder.decodeJson deliverable.toJson.sorted = .ok deliverable) ∧
    ∀ (document : Json) (deliverable : Deliverable),
      decoder.decodeJson document = .ok deliverable →
        decoder.decodeJson deliverable.toJson.sorted = .ok deliverable ∧
        evaluateRules document = .ok deliverable.ruleErrors ∧
        evaluateRules deliverable.toJson.sorted = .ok deliverable.ruleErrors := by
  refine ⟨fun deliverable => decodes_toJson, fun document deliverable decoded => ?_⟩
  have again := decodes_toJson (decoder_yields .tree _ _ decoded)
  refine ⟨again, ?_, ?_⟩
  · simp only [evaluateRules, decoded]
  · simp only [evaluateRules, again]

def sampleCards : Json :=
  .object
    [("kind", .string "Flashcards"), ("meta", .object [("title", .bool true)]),
      ("cards", .array [.null, .object [("q", .string "Why?"), ("tags", .array [.bool true])]]),
      ("note", .string "draft")]

def decodedCards : Deliverable :=
  .flashcards ⟨some ⟨none⟩, [Card.empty, ⟨"Why?", "", [""], []⟩], []⟩

def budgeted : Deliverable :=
  .onePager ⟨⟨"Plan", some (Float.ofInt 200)⟩, "Cost", ["One"], [], [], ["a"],
    [⟨"a", some .doi, "x", none, some "2024-02-30"⟩, Source.empty]⟩

theorem decodes_of_encoded_samples :
    budgeted.IsFinite ∧ decoder.decodeJson budgeted.toJson.sorted = .ok budgeted ∧
    decoder.decodeJson sampleCards = .ok decodedCards ∧
    decoder.decodeJson decodedCards.toJson.sorted = .ok decodedCards ∧
    evaluateRules sampleCards = evaluateRules decodedCards.toJson.sorted := by
  have finite : budgeted.IsFinite := by
    rintro number ⟨⟩
    exact (Number.integer ⟨200, by decide⟩).toFloat_isFinite
  have decoded : decoder.decodeJson sampleCards = .ok decodedCards := by rfl
  obtain ⟨encoded, survives⟩ := decodes_of_encoded
  obtain ⟨again, errors, sameErrors⟩ := survives sampleCards decodedCards decoded
  exact ⟨finite, encoded budgeted finite, decoded, again, errors.trans sameErrors.symm⟩

end Deliverable

end Authoring
