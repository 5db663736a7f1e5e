import Mathlib
import Authoring.Proofs.Deliverable.Encoding

/-! Documents of the right shape are decoded and encoded again. All that is lost is how a number was
written, and optional lists that are empty. -/

namespace Authoring

namespace Json

def floated : Json → Json
  | .number value => .ofFloat value.toFloat
  | other => other

def changeField (name : String) (change : Json → Json) : Json → Json
  | .object fields =>
      .object (fields.map fun field =>
        (field.1, if field.1 = name then change field.2 else field.2))
  | other => other

def changeItems (change : Json → Json) : Json → Json
  | .array items => .array (items.map change)
  | other => other

def isEmptyArray : Json → Bool
  | .array items => items.isEmpty
  | _ => false

def withoutEmpty (names : List String) : Json → Json
  | .object fields =>
      .object (fields.filter fun field => !(names.contains field.1 && field.2.isEmptyArray))
  | other => other

end Json

/-- What remains of a document that is decoded and encoded again. -/
def DocumentKind.tidy : DocumentKind → Json → Json
  | slideDeck, document =>
      (document.changeField "meta" (Json.changeField "slideCount" Json.floated)).changeField
        "slides" (Json.changeItems (Json.withoutEmpty ["bullets", "figureStubs", "citations"]))
  | onePager, document =>
      document.changeField "meta" (Json.changeField "wordBudget" Json.floated)
  | flashcards, document =>
      document.changeField "cards" (Json.changeItems (Json.withoutEmpty ["tags", "citations"]))

def IsKeyed (document : Json) : Prop :=
  ∃ fields, document = .object fields ∧ (Fields.keys fields).Nodup

theorem isKeyed_of_distinct {document : Json} (isObject : document.isObject)
    (distinct : document.Distinct) : IsKeyed document := by
  obtain ⟨fields, rfl⟩ := eq_object_of_isObject isObject
  exact ⟨fields, rfl, (Json.distinct_object_iff.mp distinct).1⟩

theorem sorted_eq_of_table {table : List (String × Option Json)} {document : Json}
    (names : (Fields.keys table).Nodup) (keyed : IsKeyed document)
    (only : HasOnly document (Fields.keys table))
    (shown : ∀ field ∈ table, field.2.map Json.sorted = (document.get? field.1).map Json.sorted) :
    (Json.object (present table)).sorted = document.sorted := by
  obtain ⟨fields, rfl, distinct⟩ := keyed
  refine Json.sorted_eq_of_alike (names.sublist (keys_present_sublist table)) distinct
    fun name => ?_
  rw [get?_present names]
  by_cases known : name ∈ Fields.keys table
  · obtain ⟨field, member, rfl⟩ := List.mem_map.mp known
    rw [Fields.get?_of_mem names member]
    exact shown field member
  · rw [Fields.get?_eq_none_iff.mpr known]
    exact (congrArg (Option.map Json.sorted) (only name known)).symm

section Changes

variable {document : Json} {name key : String} {names : List String} {change : Json → Json}

theorem get?_changeField : (document.changeField key change).get? name =
    (document.get? name).map fun value => if name = key then change value else value := by
  cases document with
  | object fields =>
      exact Fields.get?_map (fun name value => if name = key then change value else value) fields
  | null | bool | number | string | array => rfl

theorem get?_changeField_same :
    (document.changeField key change).get? key = (document.get? key).map change := by
  simp only [get?_changeField, if_true]

theorem get?_changeField_other (different : name ≠ key) :
    (document.changeField key change).get? name = document.get? name := by
  simp only [get?_changeField, different, if_false, Option.map_id']

theorem IsKeyed.changeField (keyed : IsKeyed document) :
    IsKeyed (document.changeField key change) := by
  obtain ⟨fields, rfl, distinct⟩ := keyed
  refine ⟨_, rfl, ?_⟩
  rw [Fields.keys, List.map_map]
  exact distinct

theorem IsKeyed.withoutEmpty (keyed : IsKeyed document) :
    IsKeyed (document.withoutEmpty names) := by
  obtain ⟨fields, rfl, distinct⟩ := keyed
  exact ⟨_, rfl, distinct.sublist (List.Sublist.map _ List.filter_sublist)⟩

theorem get?_withoutEmpty (keyed : IsKeyed document) :
    (document.withoutEmpty names).get? name = (document.get? name).filter fun value =>
      !(names.contains name && value.isEmptyArray) := by
  obtain ⟨fields, rfl, distinct⟩ := keyed
  exact Fields.get?_filter distinct

theorem get?_withoutEmpty_listed (keyed : IsKeyed document) (listed : name ∈ names) :
    (document.withoutEmpty names).get? name =
      (document.get? name).filter fun value => !value.isEmptyArray := by
  simp only [get?_withoutEmpty keyed, List.contains_iff_mem.mpr listed, Bool.true_and]

theorem get?_withoutEmpty_unlisted (keyed : IsKeyed document) (unlisted : name ∉ names) :
    (document.withoutEmpty names).get? name = document.get? name := by
  have absent : names.contains name = false := by simpa using unlisted
  simp only [get?_withoutEmpty keyed, absent, Bool.false_and, Bool.not_false]
  cases document.get? name <;> rfl

theorem HasOnly.changeField (only : HasOnly document names) :
    HasOnly (document.changeField key change) names := by
  intro name unlisted
  rw [get?_changeField, only name unlisted]
  rfl

theorem HasOnly.withoutEmpty {optionals : List String} (keyed : IsKeyed document)
    (only : HasOnly document names) : HasOnly (document.withoutEmpty optionals) names := by
  intro name unlisted
  rw [get?_withoutEmpty keyed, only name unlisted]
  rfl

theorem changeItems_id (document : Json) : document.changeItems id = document := by
  cases document with
  | array items => rw [Json.changeItems, List.map_id]
  | null | bool | number | string | object => rfl

end Changes

section Kept

variable {α : Type} {shows : Json → α → Prop} {encode : α → Json} {change : Json → Json}
variable {value? : Option Json} {values : List α}

theorem kept {found : Option Json} (same : value? = found) :
    found.map Json.sorted = value?.map Json.sorted := by
  rw [same]

theorem number_kept {float? : Option Float} (shown : ShowsNumber value? float?) :
    (float?.map Json.ofFloat).map Json.sorted = (value?.map Json.floated).map Json.sorted := by
  obtain ⟨number, _, rfl, rfl, _⟩ := shown
  rfl

theorem items_kept
    (each : ∀ item value, shows item value → item.Distinct →
      (encode value).sorted = (change item).sorted)
    (distinct : ∀ value, value? = some value → value.Distinct)
    (shown : ShowsItems shows value? values) :
    (some (Json.array (values.map encode))).map Json.sorted =
      (value?.map (Json.changeItems change)).map Json.sorted := by
  obtain ⟨items, rfl, shown⟩ := shown
  have itemsDistinct := Json.distinct_array_iff.mp (distinct _ rfl)
  have both := (List.forall₂_and_left _ _).mpr ⟨itemsDistinct, shown⟩
  have same : (values.map encode).map Json.sorted = (items.map change).map Json.sorted := by
    clear itemsDistinct shown distinct
    induction both with
    | nil => rfl
    | cons first _ ih =>
        simp only [List.map_cons, each _ _ first.2 first.1, ih]
  simp only [Option.map_some, Json.changeItems, Json.sorted, Json.sortedItems_eq_map, same]

theorem items_same
    (each : ∀ item value, shows item value → item.Distinct → (encode value).sorted = item.sorted)
    (distinct : ∀ value, value? = some value → value.Distinct)
    (shown : ShowsItems shows value? values) :
    (some (Json.array (values.map encode))).map Json.sorted = value?.map Json.sorted := by
  have same := @items_kept _ shows encode id value? values each distinct shown
  rwa [show Json.changeItems id = id from funext changeItems_id, Option.map_id, id] at same

theorem list_same
    (each : ∀ item value, shows item value → item.Distinct → (encode value).sorted = item.sorted)
    (distinct : ∀ value, value? = some value → value.Distinct)
    (shown : ShowsList shows value? values) :
    (nonEmptyArray (values.map encode)).map Json.sorted =
      (value?.filter fun value => !value.isEmptyArray).map Json.sorted := by
  rcases shown with ⟨rfl, rfl⟩ | shown
  · rfl
  · have same := items_same each distinct shown
    obtain ⟨items, rfl, shown⟩ := shown
    cases shown with
    | nil => rfl
    | cons first later => simpa [nonEmptyArray, Json.isEmptyArray, Option.filter] using same

theorem text_same (item : Json) (text : String) (shown : ShowsText item text) (_ : item.Distinct) :
    (Json.string text).sorted = item.sorted := by
  rw [show item = .string text from shown]

end Kept

section Encoding

variable {document : Json}

theorem Source.toJson_sorted (document : Json) (source : Source) (shows : source.Shows document)
    (distinct : document.Distinct) : source.toJson.sorted = document.sorted := by
  rw [toJson_eq]
  refine sorted_eq_of_table (by simp [Fields.keys]) (isKeyed_of_distinct shows.isObject distinct)
    shows.only ?_
  simp only [List.forall_mem_cons]
  exact ⟨kept shows.id, kept shows.kind, kept shows.value, kept shows.title, kept shows.accessed,
    List.forall_mem_nil _⟩

theorem FigureStub.toJson_sorted (document : Json) (figure : FigureStub)
    (shows : figure.Shows document) (distinct : document.Distinct) :
    figure.toJson.sorted = document.sorted := by
  rw [toJson_eq]
  refine sorted_eq_of_table (by simp [Fields.keys]) (isKeyed_of_distinct shows.isObject distinct)
    shows.only ?_
  simp only [List.forall_mem_cons]
  exact ⟨kept shows.stub, kept shows.caption, List.forall_mem_nil _⟩

theorem Slide.toJson_sorted (document : Json) (slide : Slide) (shows : slide.Shows document)
    (distinct : document.Distinct) : slide.toJson.sorted =
      (document.withoutEmpty ["bullets", "figureStubs", "citations"]).sorted := by
  have inside := fun name value => @Json.Distinct.get? document value name distinct
  have keyed := isKeyed_of_distinct shows.isObject distinct
  rw [toJson_eq]
  refine sorted_eq_of_table (by simp [Fields.keys]) keyed.withoutEmpty
    (shows.only.withoutEmpty keyed) ?_
  simp only [List.forall_mem_cons]
  refine ⟨?_, ?_, ?_, ?_, ?_, List.forall_mem_nil _⟩
  · rw [get?_withoutEmpty_unlisted keyed (by decide)]
    exact kept shows.title
  · rw [get?_withoutEmpty_listed keyed (by decide)]
    exact list_same text_same (inside "bullets") shows.bullets
  · rw [get?_withoutEmpty_listed keyed (by decide)]
    exact list_same FigureStub.toJson_sorted (inside "figureStubs") shows.figureStubs
  · rw [get?_withoutEmpty_listed keyed (by decide)]
    exact list_same text_same (inside "citations") shows.citations
  · rw [get?_withoutEmpty_unlisted keyed (by decide)]
    exact kept shows.notes

theorem Card.toJson_sorted (document : Json) (card : Card) (shows : card.Shows document)
    (distinct : document.Distinct) :
    card.toJson.sorted = (document.withoutEmpty ["tags", "citations"]).sorted := by
  have inside := fun name value => @Json.Distinct.get? document value name distinct
  have keyed := isKeyed_of_distinct shows.isObject distinct
  rw [toJson_eq]
  refine sorted_eq_of_table (by simp [Fields.keys]) keyed.withoutEmpty
    (shows.only.withoutEmpty keyed) ?_
  simp only [List.forall_mem_cons]
  refine ⟨?_, ?_, ?_, ?_, List.forall_mem_nil _⟩
  · rw [get?_withoutEmpty_unlisted keyed (by decide)]
    exact kept shows.question
  · rw [get?_withoutEmpty_unlisted keyed (by decide)]
    exact kept shows.answer
  · rw [get?_withoutEmpty_listed keyed (by decide)]
    exact list_same text_same (inside "tags") shows.tags
  · rw [get?_withoutEmpty_listed keyed (by decide)]
    exact list_same text_same (inside "citations") shows.citations

theorem info_sorted {title key : String} {float? : Option Float} (different : "title" ≠ key)
    (isObject : document.isObject) (titleFound : document.get? "title" = some (.string title))
    (number : ShowsNumber (document.get? key) float?) (only : HasOnly document ["title", key])
    (distinct : document.Distinct) :
    (Json.object ([("title", .string title)] ++ optionalField key .ofFloat float?)).sorted =
      (document.changeField key Json.floated).sorted := by
  simp only [optionalField_eq_present, List.cons_append, List.nil_append, cons_present]
  refine sorted_eq_of_table (by simp [Fields.keys, different])
    (isKeyed_of_distinct isObject distinct).changeField only.changeField ?_
  simp only [List.forall_mem_cons]
  refine ⟨?_, ?_, List.forall_mem_nil _⟩
  · rw [get?_changeField_other different]
    exact kept titleFound
  · rw [get?_changeField_same]
    exact number_kept number

theorem DeckMeta.toJson_sorted {info : DeckMeta} (shows : info.Shows document)
    (distinct : document.Distinct) :
    info.toJson.sorted = (document.changeField "slideCount" Json.floated).sorted :=
  info_sorted (by decide) shows.isObject shows.title shows.slideCount shows.only distinct

theorem PageMeta.toJson_sorted {info : PageMeta} (shows : info.Shows document)
    (distinct : document.Distinct) :
    info.toJson.sorted = (document.changeField "wordBudget" Json.floated).sorted :=
  info_sorted (by decide) shows.isObject shows.title shows.wordBudget shows.only distinct

theorem CardsMeta.toJson_sorted {info : CardsMeta} (shows : info.Shows document)
    (distinct : document.Distinct) : info.toJson.sorted = document.sorted := by
  rw [toJson, optionalField_eq_present]
  refine sorted_eq_of_table (by simp [Fields.keys]) (isKeyed_of_distinct shows.isObject distinct)
    shows.only ?_
  simp only [List.forall_mem_cons]
  exact ⟨kept shows.title, List.forall_mem_nil _⟩

theorem SlideDeck.toJson_sorted {deck : SlideDeck}
    (kind : document.get? "kind" = some (.string DocumentKind.slideDeck.name))
    (shows : deck.Shows document) (distinct : document.Distinct) (isObject : document.isObject) :
    (Deliverable.slideDeck deck).toJson.sorted = (DocumentKind.slideDeck.tidy document).sorted := by
  have inside := fun name value => @Json.Distinct.get? document value name distinct
  have keyed := isKeyed_of_distinct isObject distinct
  obtain ⟨info, found, infoShows⟩ := shows.info
  rw [toJson_eq, DocumentKind.tidy]
  refine sorted_eq_of_table (by simp [Fields.keys]) keyed.changeField.changeField
    shows.only.changeField.changeField ?_
  simp only [List.forall_mem_cons]
  refine ⟨?_, ?_, ?_, ?_, List.forall_mem_nil _⟩
  · rw [get?_changeField_other (by decide), get?_changeField_other (by decide)]
    exact kept kind
  · rw [get?_changeField_other (by decide), get?_changeField_same, found]
    exact congrArg some (DeckMeta.toJson_sorted infoShows (inside "meta" info found))
  · rw [get?_changeField_same, get?_changeField_other (by decide)]
    exact items_kept Slide.toJson_sorted (inside "slides") shows.slides
  · rw [get?_changeField_other (by decide), get?_changeField_other (by decide)]
    exact items_same Source.toJson_sorted (inside "sources") shows.sources

theorem OnePager.toJson_sorted {page : OnePager}
    (kind : document.get? "kind" = some (.string DocumentKind.onePager.name))
    (shows : page.Shows document) (distinct : document.Distinct) (isObject : document.isObject) :
    (Deliverable.onePager page).toJson.sorted = (DocumentKind.onePager.tidy document).sorted := by
  have inside := fun name value => @Json.Distinct.get? document value name distinct
  have keyed := isKeyed_of_distinct isObject distinct
  obtain ⟨info, found, infoShows⟩ := shows.info
  rw [toJson_eq, DocumentKind.tidy]
  refine sorted_eq_of_table (by simp [Fields.keys]) keyed.changeField shows.only.changeField ?_
  have held := fun name different => @get?_changeField_other document name "meta"
    (Json.changeField "wordBudget" Json.floated) different
  simp only [List.forall_mem_cons]
  refine ⟨?_, ?_, ?_, ?_, ?_, ?_, ?_, ?_, List.forall_mem_nil _⟩
  · rw [held "kind" (by decide)]
    exact kept kind
  · rw [get?_changeField_same, found]
    exact congrArg some (PageMeta.toJson_sorted infoShows (inside "meta" info found))
  · rw [held "problem" (by decide)]
    exact kept shows.problem
  · rw [held "keyFacts" (by decide)]
    exact items_same text_same (inside "keyFacts") shows.keyFacts
  · rw [held "implications" (by decide)]
    exact items_same text_same (inside "implications") shows.implications
  · rw [held "actions" (by decide)]
    exact items_same text_same (inside "actions") shows.actions
  · rw [held "citations" (by decide)]
    exact items_same text_same (inside "citations") shows.citations
  · rw [held "sources" (by decide)]
    exact items_same Source.toJson_sorted (inside "sources") shows.sources

theorem cardsMeta_kept {value? : Option Json} {info? : Option CardsMeta}
    (distinct : ∀ value, value? = some value → value.Distinct)
    (shown : Option.Rel CardsMeta.Shows value? info?) :
    (info?.map CardsMeta.toJson).map Json.sorted = value?.map Json.sorted := by
  cases shown with
  | none => rfl
  | some shows => exact congrArg some (CardsMeta.toJson_sorted shows (distinct _ rfl))

theorem Flashcards.toJson_sorted {set : Flashcards}
    (kind : document.get? "kind" = some (.string DocumentKind.flashcards.name))
    (shows : set.Shows document) (distinct : document.Distinct) (isObject : document.isObject) :
    (Deliverable.flashcards set).toJson.sorted =
      (DocumentKind.flashcards.tidy document).sorted := by
  have inside := fun name value => @Json.Distinct.get? document value name distinct
  have keyed := isKeyed_of_distinct isObject distinct
  rw [toJson_eq, DocumentKind.tidy]
  refine sorted_eq_of_table (by simp [Fields.keys]) keyed.changeField shows.only.changeField ?_
  have held := fun name different => @get?_changeField_other document name "cards"
    (Json.changeItems (Json.withoutEmpty ["tags", "citations"])) different
  simp only [List.forall_mem_cons]
  refine ⟨?_, ?_, ?_, ?_, List.forall_mem_nil _⟩
  · rw [held "kind" (by decide)]
    exact kept kind
  · rw [held "meta" (by decide)]
    exact cardsMeta_kept (inside "meta") shows.info
  · rw [get?_changeField_same]
    exact items_kept Card.toJson_sorted (inside "cards") shows.cards
  · rw [held "sources" (by decide)]
    exact items_same Source.toJson_sorted (inside "sources") shows.sources

theorem Deliverable.toJson_sorted {deliverable : Deliverable} (shows : deliverable.Shows document)
    (distinct : document.Distinct) (isObject : document.isObject) :
    deliverable.toJson.sorted = (deliverable.kind.tidy document).sorted := by
  cases deliverable with
  | slideDeck deck => exact SlideDeck.toJson_sorted shows.kind shows.body distinct isObject
  | onePager page => exact OnePager.toJson_sorted shows.kind shows.body distinct isObject
  | flashcards set => exact Flashcards.toJson_sorted shows.kind shows.body distinct isObject

end Encoding

theorem ShowsNumber.floated {value? : Option Json} {float? : Option Float}
    (shown : ShowsNumber value? float?) :
    ∃ (number : Number) (float : FiniteFloat) (value : ℚ), value? = some (.number number) ∧
      (Json.number number).floated = .number (.float float) ∧ number.value? = some value ∧
      (Number.float float).value? = some value := by
  obtain ⟨number, value, found, _, written, float, _⟩ := shown
  refine ⟨number, ⟨number.toFloat, Decimal.isFinite_of_rational float⟩, value, found, ?_, written,
    float⟩
  simp [Json.floated, Json.ofFloat, Number.ofFloat?, Decimal.isFinite_of_rational float]

theorem isObject_of_kind {document : Json} {kind : DocumentKind}
    (found : DocumentKind.ofJson document = .ok kind) : document.isObject := by
  rw [DocumentKind.ofJson_eq_ok_iff] at found
  cases document with
  | object fields => rfl
  | null | bool | number | string | array => cases found

def DocumentKind.numberFields : DocumentKind → List String
  | slideDeck => ["slideCount"]
  | onePager => ["wordBudget"]
  | flashcards => []

/-- The contracts and the decoder describe the same documents. A document without violations is
decoded, to its own kind, and what is encoded again is the document: only empty optional lists are
gone, and the one number may be written as a float, which then is that number exactly. -/
theorem accepted_survives_decoding (document : Json) (distinct : document.Distinct)
    (report : ShapeReport) (checked : checkShape document = .ok report)
    (valid : report.violations = []) :
    ∃ deliverable, Deliverable.decoder.decodeJson document = .ok deliverable ∧
      DocumentKind.ofJson document = .ok deliverable.kind ∧ report.kind = deliverable.kind ∧
      deliverable.toJson.sorted = (deliverable.kind.tidy document).sorted ∧
      ∀ name ∈ deliverable.kind.numberFields, ∃ (number : Number) (float : FiniteFloat) (value : ℚ),
        (document.get? "meta").bind (·.get? name) = some (.number number) ∧
        (Json.number number).floated = .number (.float float) ∧
        number.value? = some value ∧ (Number.float float).value? = some value := by
  obtain ⟨kind, violations⟩ := report
  obtain ⟨found, same⟩ : DocumentKind.ofJson document = .ok kind ∧
      kind.contract.check document = violations := by
    cases outcome : DocumentKind.ofJson document with
    | error reason => simp [checkShape, outcome, bind, Except.bind] at checked
    | ok known =>
        rw [checkShape_known outcome] at checked
        cases checked
        exact ⟨rfl, rfl⟩
  obtain ⟨deliverable, rfl, shows⟩ :=
    deliverable_of_accepts (same.trans valid) (DocumentKind.ofJson_eq_ok_iff.mp found)
  refine ⟨deliverable, Deliverable.decodes shows distinct, found, rfl,
    Deliverable.toJson_sorted shows distinct (isObject_of_kind found), ?_⟩
  intro name listed
  cases deliverable with
  | slideDeck deck =>
      obtain ⟨info, infoFound, infoShows⟩ := SlideDeck.Shows.info shows.body
      rw [List.mem_singleton.mp listed, infoFound]
      exact infoShows.slideCount.floated
  | onePager page =>
      obtain ⟨info, infoFound, infoShows⟩ := OnePager.Shows.info shows.body
      rw [List.mem_singleton.mp listed, infoFound]
      exact infoShows.wordBudget.floated
  | flashcards set => cases listed

def samplePage : Json :=
  .object
    [("kind", .string "OnePager"),
      ("meta", .object
        [("title", .string "Plan"), ("wordBudget", .number (.integer ⟨200, by decide⟩))]),
      ("problem", .string "Cost"), ("keyFacts", .array [.string "One"]),
      ("implications", .array [.string "Two"]), ("actions", .array []),
      ("citations", .array [.string "a"]),
      ("sources", .array
        [.object [("id", .string "a"), ("kind", .string "url"), ("value", .string "x")]])]

theorem samplePage_survives_decoding :
    samplePage.Distinct ∧ checkShape samplePage = .ok ⟨.onePager, []⟩ ∧
      ∃ deliverable, Deliverable.decoder.decodeJson samplePage = .ok deliverable ∧
        deliverable.toJson.sorted = (DocumentKind.onePager.tidy samplePage).sorted := by
  have distinct : samplePage.Distinct := by
    simp [samplePage, Json.Distinct, Json.DistinctFields, Json.DistinctItems, Fields.keys]
  have valid : DocumentKind.onePager.contract.check samplePage = [] := by decide +kernel
  have checked : checkShape samplePage = .ok ⟨.onePager, []⟩ := by
    rw [checkShape_known rfl, valid]
  obtain ⟨deliverable, decoded, _, same, encoded, _⟩ :=
    accepted_survives_decoding samplePage distinct ⟨.onePager, []⟩ checked rfl
  rw [← same] at encoded
  exact ⟨distinct, checked, deliverable, decoded, encoded⟩

end Authoring
