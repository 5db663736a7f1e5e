import Authoring.Decimal.Layout
import Authoring.Deliverable.Document
import Authoring.Fields
import Authoring.Text.Basic

/-! The rules that tie the parts of a deliverable together: word limits, citations and declared
counts. Every broken rule is reported, in a fixed order. -/

namespace Authoring

inductive Breach where
  | slideCount (declared : Option Float) (actual : Nat)
  | duplicateSources (ids : List String)
  | noSource
  | slideTitle (slide words : Nat)
  | emptySlide (slide : Nat)
  | bullet (slide bullet words : Nat)
  | bulletTotal (slide words : Nat)
  | slideCitation (slide : Nat) (id : String)
  | blankStub (slide figure : Nat)
  | noSlideCitation
  | deckTotal (words : Nat)
  | problem (words : Nat)
  | pageItem (part : String) (item limit words : Nat)
  | noPageCitation
  | pageCitations (ids : List String)
  | wordBudget (budget : Float) (words : Nat)
  | question (card words : Nat)
  | answer (card words : Nat)
  | cardCitation (card : Nat) (id : String)
  | noCardCitation
deriving DecidableEq

namespace Rules

def slideTitleLimit : Nat := 12
def bulletLimit : Nat := 24
def slideBulletsLimit : Nat := 60
def deckLimit : Nat := 1500
def problemLimit : Nat := 120
def factLimit : Nat := 30
def actionLimit : Nat := 20
def questionLimit : Nat := 20
def answerLimit : Nat := 60

end Rules

open Rules

def Breach.message : Breach → String
  | slideCount declared actual =>
      let count := match declared with
        | none => "missing"
        | some number => Decimal.display number
      s!"slideCount mismatch: meta.slideCount={count} but slides.length={actual}"
  | duplicateSources ids => "duplicate source ids: " ++ ", ".intercalate ids
  | noSource => "must include at least one source"
  | slideTitle slide words => s!"slide[{slide}].title exceeds {slideTitleLimit} words ({words})"
  | emptySlide slide => s!"slide[{slide}] must have bullets or figureStubs"
  | bullet slide item words =>
      s!"slide[{slide}].bullets[{item}] exceeds {bulletLimit} words ({words})"
  | bulletTotal slide words =>
      s!"slide[{slide}] bullets budget exceeded (<={slideBulletsLimit} words, got {words})"
  | slideCitation slide id => s!"slide[{slide}] unknown citation id: {id}"
  | blankStub slide figure => s!"slide[{slide}].figureStubs[{figure}].stub must be non-empty"
  | noSlideCitation => "no citations used in slides"
  | deckTotal words => s!"total word budget exceeded (<={deckLimit}, got {words})"
  | problem words => s!"problem exceeds {problemLimit} words ({words})"
  | pageItem part item limit words => s!"{part}[{item}] exceeds {limit} words ({words})"
  | noPageCitation => "must include at least one citation"
  | pageCitations ids => "unknown citation ids: " ++ ", ".intercalate ids
  | wordBudget budget words =>
      let limit := Decimal.display budget
      s!"wordBudget exceeded (<={limit}, got {words})"
  | question card words => s!"cards[{card}].q exceeds {questionLimit} words ({words})"
  | answer card words => s!"cards[{card}].a exceeds {answerLimit} words ({words})"
  | cardCitation card id => s!"cards[{card}] unknown citation id: {id}"
  | noCardCitation => "at least one card must include a citation"

namespace Rules

open Text (wordCount)

def report (broken : Bool) (breach : Breach) : List Breach :=
  if broken then [breach] else []

def onEach {α : Type} (rule : Nat → α → List Breach) (items : List α) : List Breach :=
  items.zipIdx.flatMap fun (item, position) => rule position item

def optionWords : Option String → Nat
  | none => 0
  | some text => wordCount text

def isBlank (text : String) : Bool :=
  text.toList.all Text.isBlank

def sourceIds (sources : List Source) : List String :=
  sources.map Source.id

def duplicateSources (sources : List Source) : List Breach :=
  let ids := repeats (sourceIds sources)
  report (!ids.isEmpty) (.duplicateSources ids)

def noSource (sources : List Source) : List Breach :=
  report sources.isEmpty .noSource

def total (weight : α → Nat) (values : List α) : Nat :=
  values.foldr (fun value rest => weight value + rest) 0

/-! Slide decks -/

def bulletWords (slide : Slide) : Nat :=
  total wordCount slide.bullets

def slideWords (slide : Slide) : Nat :=
  wordCount slide.title + bulletWords slide +
    total (fun figure => optionWords figure.caption) slide.figureStubs + optionWords slide.notes

def deckWords (deck : SlideDeck) : Nat :=
  wordCount deck.info.title + total slideWords deck.slides

def slideRules (known : List String) (position : Nat) (slide : Slide) : List Breach :=
  let titleWords := wordCount slide.title
  report (slideTitleLimit < titleWords) (.slideTitle position titleWords) ++
    report (slide.bullets.isEmpty && slide.figureStubs.isEmpty) (.emptySlide position) ++
    onEach (fun index bullet =>
      report (bulletLimit < wordCount bullet) (.bullet position index (wordCount bullet)))
      slide.bullets ++
    report (slideBulletsLimit < bulletWords slide) (.bulletTotal position (bulletWords slide)) ++
    slide.citations.flatMap (fun id => report (!known.contains id) (.slideCitation position id)) ++
    onEach (fun index figure => report (isBlank figure.stub) (.blankStub position index))
      slide.figureStubs

def hasSlideCount (deck : SlideDeck) : Bool :=
  match deck.info.slideCount with
  | none => false
  | some count => count == Float.ofNat deck.slides.length

def deckRules (deck : SlideDeck) : List Breach :=
  report (!hasSlideCount deck) (.slideCount deck.info.slideCount deck.slides.length) ++
    duplicateSources deck.sources ++
    onEach (slideRules (sourceIds deck.sources)) deck.slides ++
    noSource deck.sources ++
    report (deck.slides.all fun slide => slide.citations.isEmpty) .noSlideCitation ++
    report (deckLimit < deckWords deck) (.deckTotal (deckWords deck))

/-! One-page summaries -/

def totalWords (texts : List String) : Nat :=
  total wordCount texts

def pageWords (page : OnePager) : Nat :=
  wordCount page.info.title + wordCount page.problem + totalWords page.keyFacts +
    totalWords page.implications + totalWords page.actions

def itemRules (part : String) (limit : Nat) (items : List String) : List Breach :=
  onEach (fun index item =>
    report (limit < wordCount item) (.pageItem part index limit (wordCount item))) items

def unknownCitations (page : OnePager) : List String :=
  (page.citations.filter fun id => !(sourceIds page.sources).contains id).eraseDups

def budgetRule (page : OnePager) : List Breach :=
  match page.info.wordBudget with
  | none => []
  | some budget =>
      report (budget < Float.ofNat (pageWords page)) (.wordBudget budget (pageWords page))

def pageRules (page : OnePager) : List Breach :=
  duplicateSources page.sources ++
    report (problemLimit < wordCount page.problem) (.problem (wordCount page.problem)) ++
    itemRules "keyFacts" factLimit page.keyFacts ++
    itemRules "implications" factLimit page.implications ++
    itemRules "actions" actionLimit page.actions ++
    report page.citations.isEmpty .noPageCitation ++
    report (!(unknownCitations page).isEmpty) (.pageCitations (unknownCitations page)) ++
    budgetRule page ++
    noSource page.sources

/-! Flashcards -/

def cardRules (known : List String) (position : Nat) (card : Card) : List Breach :=
  report (questionLimit < wordCount card.question) (.question position (wordCount card.question)) ++
    report (answerLimit < wordCount card.answer) (.answer position (wordCount card.answer)) ++
    card.citations.flatMap fun id => report (!known.contains id) (.cardCitation position id)

def flashcardsRules (set : Flashcards) : List Breach :=
  duplicateSources set.sources ++
    onEach (cardRules (sourceIds set.sources)) set.cards ++
    report (set.cards.all fun card => card.citations.isEmpty) .noCardCitation ++
    noSource set.sources

end Rules

namespace Deliverable

def breaches : Deliverable → List Breach
  | slideDeck deck => deckRules deck
  | onePager page => pageRules page
  | flashcards cards => flashcardsRules cards

def ruleErrors (document : Deliverable) : List String :=
  document.breaches.map Breach.message

end Deliverable

end Authoring
