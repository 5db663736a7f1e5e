import Mathlib
import Authoring.Proofs.Deliverable.Decoding
import Authoring.Proofs.Deliverable.Shows

/-! Deliverables that show a document are what is decoded from it: nothing is replaced by a
default. -/

namespace Authoring

open Decoder

/-! Decoding what is shown -/

section Reading

variable {α : Type} {shows : Json → α → Prop} {decoder : Decoder α} {value? : Option Json}

theorem text_reads {text : String} (found : value? = some (.string text)) :
    lenientText.ReadsField "" value? text := by
  rw [found]
  exact lenient_reads "" (string_reads text)

theorem optionalText_reads {text? : Option String} (found : value? = text?.map .string) :
    lenientTextOption.ReadsField none value? text? := by
  rw [found]
  cases text? with
  | none => rfl
  | some text => exact lenient_reads none (option_reads (string_reads text) nofun)

theorem number_reads {float? : Option Float} (shown : ShowsNumber value? float?) :
    lenientNumber.ReadsField none value? float? := by
  obtain ⟨number, _, rfl, rfl, _⟩ := shown
  exact lenientNumber_reads (.number number)

theorem items_read {values : List α} (default : α)
    (each : ∀ item value, shows item value → item.Distinct → decoder.Reads item value)
    (distinct : ∀ value, value? = some value → value.Distinct)
    (shown : ShowsItems shows value? values) :
    (lenientList default decoder).ReadsField [] value? values := by
  obtain ⟨items, rfl, shown⟩ := shown
  have itemsDistinct := Json.distinct_array_iff.mp (distinct _ rfl)
  have both := (List.forall₂_and_left _ _).mpr ⟨itemsDistinct, shown⟩
  exact list_reads (both.imp fun item value ⟨distinct, shown⟩ =>
    lenient_reads default (each item value shown distinct))

theorem list_read {values : List α} (default : α)
    (each : ∀ item value, shows item value → item.Distinct → decoder.Reads item value)
    (distinct : ∀ value, value? = some value → value.Distinct)
    (shown : ShowsList shows value? values) :
    (lenientList default decoder).ReadsField [] value? values := by
  rcases shown with ⟨rfl, rfl⟩ | shown
  · rfl
  · exact items_read default each distinct shown

theorem showsText_reads (item : Json) (text : String) (shown : ShowsText item text)
    (_ : item.Distinct) : Decoder.string.Reads item text := by
  rw [show item = .string text from shown]
  exact string_reads text

theorem sourceKind_reads {kind? : Option SourceKind}
    (found : value? = kind?.map SourceKind.toJson) :
    (lenient none (.option SourceKind.decoder)).ReadsField none value? kind? := by
  rw [found]
  cases kind? with
  | none => rfl
  | some kind =>
      have reads : SourceKind.decoder.Reads kind.toJson kind :=
        variant_reads (by cases kind <;> rfl)
      exact lenient_reads none (option_reads reads nofun)

end Reading

theorem eq_object_of_isObject {document : Json} (isObject : document.isObject) :
    ∃ fields, document = .object fields := by
  cases document with
  | object fields => exact ⟨fields, rfl⟩
  | null | bool | number | string | array => cases isObject

theorem Source.reads (document : Json) (source : Source) (shows : source.Shows document)
    (distinct : document.Distinct) : Source.decoder.Reads document source := by
  obtain ⟨fields, rfl⟩ := eq_object_of_isObject shows.isObject
  exact Record.decoder_reads "Source" distinct.1
    ((((((Record.of_reads Source.mk).optional (text_reads shows.id)).optional
      (sourceKind_reads shows.kind)).optional (text_reads shows.value)).optional
      (optionalText_reads shows.title)).optional (optionalText_reads shows.accessed))

theorem FigureStub.reads (document : Json) (figure : FigureStub) (shows : figure.Shows document)
    (distinct : document.Distinct) : FigureStub.decoder.Reads document figure := by
  obtain ⟨fields, rfl⟩ := eq_object_of_isObject shows.isObject
  exact Record.decoder_reads "FigureStub" distinct.1
    (((Record.of_reads FigureStub.mk).optional (text_reads shows.stub)).optional
      (optionalText_reads shows.caption))

theorem Slide.reads (document : Json) (slide : Slide) (shows : slide.Shows document)
    (distinct : document.Distinct) : Slide.decoder.Reads document slide := by
  obtain ⟨fields, rfl⟩ := eq_object_of_isObject shows.isObject
  have inside := fun name value => @Json.Distinct.get? (.object fields) value name distinct
  exact Record.decoder_reads "Slide" distinct.1
    ((((((Record.of_reads Slide.mk).optional (text_reads shows.title)).optional
      (list_read "" showsText_reads (inside "bullets") shows.bullets)).optional
      (list_read FigureStub.empty FigureStub.reads (inside "figureStubs")
        shows.figureStubs)).optional
      (list_read "" showsText_reads (inside "citations") shows.citations)).optional
      (optionalText_reads shows.notes))

theorem Card.reads (document : Json) (card : Card) (shows : card.Shows document)
    (distinct : document.Distinct) : Card.decoder.Reads document card := by
  obtain ⟨fields, rfl⟩ := eq_object_of_isObject shows.isObject
  have inside := fun name value => @Json.Distinct.get? (.object fields) value name distinct
  exact Record.decoder_reads "Card" distinct.1
    (((((Record.of_reads Card.mk).optional (text_reads shows.question)).optional
      (text_reads shows.answer)).optional
      (list_read "" showsText_reads (inside "tags") shows.tags)).optional
      (list_read "" showsText_reads (inside "citations") shows.citations))

theorem DeckMeta.reads (document : Json) (info : DeckMeta) (shows : info.Shows document)
    (distinct : document.Distinct) : DeckMeta.decoder.Reads document info := by
  obtain ⟨fields, rfl⟩ := eq_object_of_isObject shows.isObject
  exact Record.decoder_reads "DeckMeta" distinct.1
    (((Record.of_reads DeckMeta.mk).optional (text_reads shows.title)).optional
      (number_reads shows.slideCount))

theorem PageMeta.reads (document : Json) (info : PageMeta) (shows : info.Shows document)
    (distinct : document.Distinct) : PageMeta.decoder.Reads document info := by
  obtain ⟨fields, rfl⟩ := eq_object_of_isObject shows.isObject
  exact Record.decoder_reads "PageMeta" distinct.1
    (((Record.of_reads PageMeta.mk).optional (text_reads shows.title)).optional
      (number_reads shows.wordBudget))

theorem CardsMeta.reads (document : Json) (info : CardsMeta) (shows : info.Shows document)
    (distinct : document.Distinct) : CardsMeta.decoder.Reads document info := by
  obtain ⟨fields, rfl⟩ := eq_object_of_isObject shows.isObject
  exact Record.decoder_reads "CardsMeta" distinct.1
    ((Record.of_reads CardsMeta.mk).optional (optionalText_reads shows.title))

theorem SlideDeck.reads {document : Json} {deck : SlideDeck} (shows : deck.Shows document)
    (distinct : document.Distinct) : SlideDeck.record.Reads document.get? deck := by
  have inside := fun name value => @Json.Distinct.get? document value name distinct
  obtain ⟨held, found, infoShows⟩ := shows.info
  have info : (lenient DeckMeta.empty DeckMeta.decoder).ReadsField DeckMeta.empty
      (document.get? "meta") deck.info := by
    rw [found]
    exact lenient_reads _ (DeckMeta.reads held deck.info infoShows (inside "meta" held found))
  exact (((Record.of_reads SlideDeck.mk).optional info).optional
    (items_read Slide.empty Slide.reads (inside "slides") shows.slides)).optional
    (items_read Source.empty Source.reads (inside "sources") shows.sources)

theorem OnePager.reads {document : Json} {page : OnePager} (shows : page.Shows document)
    (distinct : document.Distinct) : OnePager.record.Reads document.get? page := by
  have inside := fun name value => @Json.Distinct.get? document value name distinct
  obtain ⟨held, found, infoShows⟩ := shows.info
  have info : (lenient PageMeta.empty PageMeta.decoder).ReadsField PageMeta.empty
      (document.get? "meta") page.info := by
    rw [found]
    exact lenient_reads _ (PageMeta.reads held page.info infoShows (inside "meta" held found))
  exact (((((((Record.of_reads OnePager.mk).optional info).optional
    (text_reads shows.problem)).optional
    (items_read "" showsText_reads (inside "keyFacts") shows.keyFacts)).optional
    (items_read "" showsText_reads (inside "implications") shows.implications)).optional
    (items_read "" showsText_reads (inside "actions") shows.actions)).optional
    (items_read "" showsText_reads (inside "citations") shows.citations)).optional
    (items_read Source.empty Source.reads (inside "sources") shows.sources)

theorem Flashcards.reads {document : Json} {set : Flashcards} (shows : set.Shows document)
    (distinct : document.Distinct) : Flashcards.record.Reads document.get? set := by
  have inside := fun name value => @Json.Distinct.get? document value name distinct
  have info : (lenient none (.option CardsMeta.decoder)).ReadsField none
      (document.get? "meta") set.info := by
    have shown := shows.info
    cases found : document.get? "meta" with
    | none =>
        rw [found] at shown
        cases missing : set.info with
        | none => rfl
        | some info =>
            rw [missing] at shown
            cases shown
    | some held =>
        rw [found] at shown
        cases given : set.info with
        | none =>
            rw [given] at shown
            cases shown
        | some info =>
            rw [given] at shown
            cases shown with
            | some shows =>
                have notNull : held ≠ .null := by
                  rintro rfl
                  cases shows.isObject
                exact lenient_reads none (option_reads
                  (CardsMeta.reads held info shows (inside "meta" held found)) notNull)
  exact (((Record.of_reads Flashcards.mk).optional info).optional
    (items_read Card.empty Card.reads (inside "cards") shows.cards)).optional
    (items_read Source.empty Source.reads (inside "sources") shows.sources)

theorem Deliverable.decodes {document : Json} {deliverable : Deliverable}
    (shows : deliverable.Shows document) (distinct : document.Distinct) :
    Deliverable.decoder.decodeJson document = .ok deliverable := by
  refine decodes_of_reads distinct shows.kind ?_
  cases deliverable with
  | slideDeck deck => exact SlideDeck.reads shows.body distinct
  | onePager page => exact OnePager.reads shows.body distinct
  | flashcards set => exact Flashcards.reads shows.body distinct

end Authoring
