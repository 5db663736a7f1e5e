import Mathlib
import Authoring.Deliverable.Validation
import Authoring.Proofs.Contract.Accepts
import Authoring.Proofs.Json.Decoding

/-! Deliverables that show a document without loss. The relations account for every field of an
object and leave no room for others. A document that its contract accepts is always shown. -/

namespace Authoring

section Parts

variable {α : Type}

def ShowsText (value : Json) (text : String) : Prop :=
  value = .string text

def ShowsItems (shows : Json → α → Prop) (value? : Option Json) (values : List α) : Prop :=
  ∃ items, value? = some (.array items) ∧ List.Forall₂ shows items values

def ShowsList (shows : Json → α → Prop) (value? : Option Json) (values : List α) : Prop :=
  value? = none ∧ values = [] ∨ ShowsItems shows value? values

def ShowsNumber (value? : Option Json) (float? : Option Float) : Prop :=
  ∃ (number : Number) (value : ℚ), value? = some (.number number) ∧
    float? = some number.toFloat ∧ number.value? = some value ∧
    Decimal.rational? number.toFloat = some value ∧ value < 2 ^ 53

def HasOnly (value : Json) (names : List String) : Prop :=
  ∀ name, name ∉ names → value.get? name = none

end Parts

structure Source.Shows (document : Json) (source : Source) : Prop where
  isObject : document.isObject
  id : document.get? "id" = some (.string source.id)
  kind : document.get? "kind" = source.kind.map SourceKind.toJson
  value : document.get? "value" = some (.string source.value)
  title : document.get? "title" = source.title.map .string
  accessed : document.get? "accessed" = source.accessed.map .string
  only : HasOnly document ["id", "kind", "value", "title", "accessed"]

structure FigureStub.Shows (document : Json) (figure : FigureStub) : Prop where
  isObject : document.isObject
  stub : document.get? "stub" = some (.string figure.stub)
  caption : document.get? "caption" = figure.caption.map .string
  only : HasOnly document ["stub", "caption"]

structure Slide.Shows (document : Json) (slide : Slide) : Prop where
  isObject : document.isObject
  title : document.get? "title" = some (.string slide.title)
  bullets : ShowsList ShowsText (document.get? "bullets") slide.bullets
  figureStubs : ShowsList FigureStub.Shows (document.get? "figureStubs") slide.figureStubs
  citations : ShowsList ShowsText (document.get? "citations") slide.citations
  notes : document.get? "notes" = slide.notes.map .string
  only : HasOnly document ["title", "bullets", "figureStubs", "citations", "notes"]

structure Card.Shows (document : Json) (card : Card) : Prop where
  isObject : document.isObject
  question : document.get? "q" = some (.string card.question)
  answer : document.get? "a" = some (.string card.answer)
  tags : ShowsList ShowsText (document.get? "tags") card.tags
  citations : ShowsList ShowsText (document.get? "citations") card.citations
  only : HasOnly document ["q", "a", "tags", "citations"]

structure DeckMeta.Shows (document : Json) (info : DeckMeta) : Prop where
  isObject : document.isObject
  title : document.get? "title" = some (.string info.title)
  slideCount : ShowsNumber (document.get? "slideCount") info.slideCount
  only : HasOnly document ["title", "slideCount"]

structure PageMeta.Shows (document : Json) (info : PageMeta) : Prop where
  isObject : document.isObject
  title : document.get? "title" = some (.string info.title)
  wordBudget : ShowsNumber (document.get? "wordBudget") info.wordBudget
  only : HasOnly document ["title", "wordBudget"]

structure CardsMeta.Shows (document : Json) (info : CardsMeta) : Prop where
  isObject : document.isObject
  title : document.get? "title" = info.title.map .string
  only : HasOnly document ["title"]

structure SlideDeck.Shows (document : Json) (deck : SlideDeck) : Prop where
  info : ∃ held, document.get? "meta" = some held ∧ deck.info.Shows held
  slides : ShowsItems Slide.Shows (document.get? "slides") deck.slides
  sources : ShowsItems Source.Shows (document.get? "sources") deck.sources
  only : HasOnly document ["kind", "meta", "slides", "sources"]

structure OnePager.Shows (document : Json) (page : OnePager) : Prop where
  info : ∃ held, document.get? "meta" = some held ∧ page.info.Shows held
  problem : document.get? "problem" = some (.string page.problem)
  keyFacts : ShowsItems ShowsText (document.get? "keyFacts") page.keyFacts
  implications : ShowsItems ShowsText (document.get? "implications") page.implications
  actions : ShowsItems ShowsText (document.get? "actions") page.actions
  citations : ShowsItems ShowsText (document.get? "citations") page.citations
  sources : ShowsItems Source.Shows (document.get? "sources") page.sources
  only : HasOnly document
    ["kind", "meta", "problem", "keyFacts", "implications", "actions", "citations", "sources"]

structure Flashcards.Shows (document : Json) (set : Flashcards) : Prop where
  info : Option.Rel CardsMeta.Shows (document.get? "meta") set.info
  cards : ShowsItems Card.Shows (document.get? "cards") set.cards
  sources : ShowsItems Source.Shows (document.get? "sources") set.sources
  only : HasOnly document ["kind", "meta", "cards", "sources"]

structure Deliverable.Shows (document : Json) (deliverable : Deliverable) : Prop where
  kind : document.get? "kind" = some (.string deliverable.kind.name)
  body : match deliverable with
    | .slideDeck deck => deck.Shows document
    | .onePager page => page.Shows document
    | .flashcards set => set.Shows document

/-! What a contract accepts. -/

section Accepted

open Contract

variable {α : Type} {shows : Json → α → Prop} {value : Json}
variable {fields : List (String × Presence × Contract)} {names : List String}

theorem text_of_accepts {contract : StringContract}
    (accepted : (Contract.object fields names).Accepts value) (name : String)
    (listed : Fields.get? name fields = some (.required, .string contract)) :
    ∃ text, value.get? name = some (.string text) := by
  obtain ⟨held, found, inside⟩ := accepted.present name listed
  obtain ⟨text, rfl, _⟩ := accepts_string_iff.mp inside
  exact ⟨text, found⟩

theorem optionalText_of_accepts {contract : StringContract} {presence : Presence}
    (accepted : (Contract.object fields names).Accepts value) (name : String)
    (listed : Fields.get? name fields = some (presence, .string contract)) :
    ∃ text? : Option String, value.get? name = text?.map .string := by
  cases found : value.get? name with
  | none => exact ⟨none, rfl⟩
  | some held =>
      obtain ⟨text, rfl, _⟩ := accepts_string_iff.mp (accepted.inside name listed found)
      exact ⟨some text, rfl⟩

theorem number_of_accepts {least greatest : Int64}
    (accepted : (Contract.object fields names).Accepts value) (name : String)
    (listed : Fields.get? name fields = some (.required, .between least greatest))
    (leastSmall : least.toInt.natAbs < 2 ^ 53) (greatestSmall : greatest.toInt.natAbs < 2 ^ 53) :
    ∃ float? : Option Float, ShowsNumber (value.get? name) float? := by
  obtain ⟨held, found, inside⟩ := accepted.present name listed
  obtain ⟨number, exactly, rfl, written, float, _, atMost⟩ :=
    accepts_between leastSmall greatestSmall inside
  have small : (greatest.toInt : ℚ) < 2 ^ 53 := by
    exact_mod_cast (by omega : greatest.toInt < 2 ^ 53)
  exact ⟨some number.toFloat, number, exactly, found, rfl, written, float, atMost.trans_lt small⟩

theorem items_of_accepts {minItems : Nat} {maxItems : Option Nat} {contract : Contract}
    (each : ∀ item, contract.Accepts item → ∃ result, shows item result)
    (accepted : (Contract.array minItems maxItems contract).Accepts value) :
    ∃ results, ShowsItems shows (some value) results := by
  obtain ⟨items, rfl, _, _, inside⟩ := accepts_array_iff.mp accepted
  obtain ⟨results, shown⟩ := exists_forall₂ fun item member => each item (inside item member)
  exact ⟨results, items, rfl, shown⟩

theorem requiredItems_of_accepts {minItems : Nat} {maxItems : Option Nat} {contract : Contract}
    (each : ∀ item, contract.Accepts item → ∃ result, shows item result)
    (accepted : (Contract.object fields names).Accepts value) (name : String)
    (listed : Fields.get? name fields = some (.required, .array minItems maxItems contract)) :
    ∃ results, ShowsItems shows (value.get? name) results := by
  obtain ⟨held, found, inside⟩ := accepted.present name listed
  rw [found]
  exact items_of_accepts each inside

theorem optionalItems_of_accepts {minItems : Nat} {maxItems : Option Nat} {contract : Contract}
    {presence : Presence} (each : ∀ item, contract.Accepts item → ∃ result, shows item result)
    (accepted : (Contract.object fields names).Accepts value) (name : String)
    (listed : Fields.get? name fields = some (presence, .array minItems maxItems contract)) :
    ∃ results, ShowsList shows (value.get? name) results := by
  cases found : value.get? name with
  | none => exact ⟨[], .inl ⟨rfl, rfl⟩⟩
  | some held =>
      obtain ⟨results, shown⟩ := items_of_accepts each (accepted.inside name listed found)
      exact ⟨results, .inr shown⟩

theorem showsText_of_accepts {contract : StringContract} (item : Json)
    (accepted : (Contract.string contract).Accepts item) : ∃ text, ShowsText item text := by
  obtain ⟨text, same, _⟩ := accepts_string_iff.mp accepted
  exact ⟨text, same⟩

theorem sourceKind_of_accepts (accepted : sourceKindContract.Accepts value) :
    ∃ kind : SourceKind, value = kind.toJson := by
  obtain ⟨text, rfl, described⟩ := accepts_string_iff.mp accepted
  have listed : text ∈ SourceKind.all.map SourceKind.name := described.listed (by decide)
  obtain ⟨kind, _, rfl⟩ := List.mem_map.mp listed
  exact ⟨kind, rfl⟩

theorem sources_of_accepts (accepted : (Contract.object fields names).Accepts value)
    (listed : Fields.get? "sources" fields = some (.required, sourcesContract)) :
    ∃ sources, ShowsItems Source.Shows (value.get? "sources") sources := by
  refine requiredItems_of_accepts (fun item accepted => ?_) accepted "sources" listed
  obtain ⟨id, idFound⟩ := text_of_accepts accepted "id" rfl
  obtain ⟨held, kindFound, kindAccepted⟩ := accepted.present "kind" rfl
  obtain ⟨kind, rfl⟩ := sourceKind_of_accepts kindAccepted
  obtain ⟨text, textFound⟩ := text_of_accepts accepted "value" rfl
  obtain ⟨title, titleFound⟩ := optionalText_of_accepts accepted "title" rfl
  obtain ⟨accessed, accessedFound⟩ := optionalText_of_accepts accepted "accessed" rfl
  exact ⟨⟨id, some kind, text, title, accessed⟩, accepted.isObject, idFound, kindFound, textFound,
    titleFound, accessedFound, fun _ unlisted => accepted.unlisted unlisted⟩

theorem figure_of_accepts (item : Json) (accepted : figureContract.Accepts item) :
    ∃ figure : FigureStub, figure.Shows item := by
  obtain ⟨stub, stubFound⟩ := text_of_accepts accepted "stub" rfl
  obtain ⟨caption, captionFound⟩ := optionalText_of_accepts accepted "caption" rfl
  exact ⟨⟨stub, caption⟩, accepted.isObject, stubFound, captionFound,
    fun _ unlisted => accepted.unlisted unlisted⟩

theorem slide_of_accepts (item : Json) (accepted : slideContract.Accepts item) :
    ∃ slide : Slide, slide.Shows item := by
  obtain ⟨title, titleFound⟩ := text_of_accepts accepted "title" rfl
  obtain ⟨bullets, bulletsFound⟩ :=
    optionalItems_of_accepts showsText_of_accepts accepted "bullets" rfl
  obtain ⟨figures, figuresFound⟩ :=
    optionalItems_of_accepts figure_of_accepts accepted "figureStubs" rfl
  obtain ⟨citations, citationsFound⟩ :=
    optionalItems_of_accepts showsText_of_accepts accepted "citations" rfl
  obtain ⟨notes, notesFound⟩ := optionalText_of_accepts accepted "notes" rfl
  exact ⟨⟨title, bullets, figures, citations, notes⟩, accepted.isObject, titleFound, bulletsFound,
    figuresFound, citationsFound, notesFound, fun _ unlisted => accepted.unlisted unlisted⟩

theorem card_of_accepts (item : Json) (accepted : cardContract.Accepts item) :
    ∃ card : Card, card.Shows item := by
  obtain ⟨question, questionFound⟩ := text_of_accepts accepted "q" rfl
  obtain ⟨answer, answerFound⟩ := text_of_accepts accepted "a" rfl
  obtain ⟨tags, tagsFound⟩ := optionalItems_of_accepts showsText_of_accepts accepted "tags" rfl
  obtain ⟨citations, citationsFound⟩ :=
    optionalItems_of_accepts showsText_of_accepts accepted "citations" rfl
  exact ⟨⟨question, answer, tags, citations⟩, accepted.isObject, questionFound, answerFound,
    tagsFound, citationsFound, fun _ unlisted => accepted.unlisted unlisted⟩

theorem deck_of_accepts (accepted : slideDeckContract.Accepts value) :
    ∃ deck : SlideDeck, deck.Shows value := by
  obtain ⟨held, infoFound, infoAccepted⟩ := accepted.present "meta" rfl
  obtain ⟨title, titleFound⟩ := text_of_accepts infoAccepted "title" rfl
  obtain ⟨count, countFound⟩ :=
    number_of_accepts infoAccepted "slideCount" rfl (by decide) (by decide)
  obtain ⟨slides, slidesFound⟩ := requiredItems_of_accepts slide_of_accepts accepted "slides" rfl
  obtain ⟨sources, sourcesFound⟩ := sources_of_accepts accepted rfl
  have info : DeckMeta.Shows held ⟨title, count⟩ :=
    ⟨infoAccepted.isObject, titleFound, countFound,
      fun _ unlisted => infoAccepted.unlisted unlisted⟩
  exact ⟨⟨⟨title, count⟩, slides, sources⟩, ⟨held, infoFound, info⟩, slidesFound, sourcesFound,
    fun _ unlisted => accepted.unlisted unlisted⟩

theorem page_of_accepts (accepted : onePagerContract.Accepts value) :
    ∃ page : OnePager, page.Shows value := by
  obtain ⟨held, infoFound, infoAccepted⟩ := accepted.present "meta" rfl
  obtain ⟨title, titleFound⟩ := text_of_accepts infoAccepted "title" rfl
  obtain ⟨budget, budgetFound⟩ :=
    number_of_accepts infoAccepted "wordBudget" rfl (by decide) (by decide)
  obtain ⟨problem, problemFound⟩ := text_of_accepts accepted "problem" rfl
  obtain ⟨facts, factsFound⟩ :=
    requiredItems_of_accepts showsText_of_accepts accepted "keyFacts" rfl
  obtain ⟨implications, implicationsFound⟩ :=
    requiredItems_of_accepts showsText_of_accepts accepted "implications" rfl
  obtain ⟨actions, actionsFound⟩ :=
    requiredItems_of_accepts showsText_of_accepts accepted "actions" rfl
  obtain ⟨citations, citationsFound⟩ :=
    requiredItems_of_accepts showsText_of_accepts accepted "citations" rfl
  obtain ⟨sources, sourcesFound⟩ := sources_of_accepts accepted rfl
  have info : PageMeta.Shows held ⟨title, budget⟩ :=
    ⟨infoAccepted.isObject, titleFound, budgetFound,
      fun _ unlisted => infoAccepted.unlisted unlisted⟩
  exact ⟨⟨⟨title, budget⟩, problem, facts, implications, actions, citations, sources⟩,
    ⟨held, infoFound, info⟩, problemFound, factsFound, implicationsFound, actionsFound,
    citationsFound, sourcesFound, fun _ unlisted => accepted.unlisted unlisted⟩

theorem cardsMeta_of_accepts (accepted : flashcardsContract.Accepts value) :
    ∃ info : Option CardsMeta, Option.Rel CardsMeta.Shows (value.get? "meta") info := by
  cases found : value.get? "meta" with
  | none => exact ⟨none, .none⟩
  | some held =>
      have infoAccepted := accepted.inside "meta" rfl found
      obtain ⟨title, titleFound⟩ := optionalText_of_accepts infoAccepted "title" rfl
      exact ⟨some ⟨title⟩, .some ⟨infoAccepted.isObject, titleFound,
        fun _ unlisted => infoAccepted.unlisted unlisted⟩⟩

theorem cards_of_accepts (accepted : flashcardsContract.Accepts value) :
    ∃ set : Flashcards, set.Shows value := by
  obtain ⟨info, infoFound⟩ := cardsMeta_of_accepts accepted
  obtain ⟨cards, cardsFound⟩ := requiredItems_of_accepts card_of_accepts accepted "cards" rfl
  obtain ⟨sources, sourcesFound⟩ := sources_of_accepts accepted rfl
  exact ⟨⟨info, cards, sources⟩, infoFound, cardsFound, sourcesFound,
    fun _ unlisted => accepted.unlisted unlisted⟩

theorem deliverable_of_accepts {kind : DocumentKind} (accepted : kind.contract.Accepts value)
    (found : value.get? "kind" = some (.string kind.name)) :
    ∃ deliverable : Deliverable, deliverable.kind = kind ∧ deliverable.Shows value := by
  cases kind with
  | slideDeck =>
      obtain ⟨deck, shows⟩ := deck_of_accepts accepted
      exact ⟨.slideDeck deck, rfl, found, shows⟩
  | onePager =>
      obtain ⟨page, shows⟩ := page_of_accepts accepted
      exact ⟨.onePager page, rfl, found, shows⟩
  | flashcards =>
      obtain ⟨set, shows⟩ := cards_of_accepts accepted
      exact ⟨.flashcards set, rfl, found, shows⟩

end Accepted

end Authoring
