import Authoring.Deliverable.Document
import Authoring.Json.Record

/-! The JSON form of deliverables. Decoding is lenient: what has the wrong type counts as absent,
and only a list that is no list makes a document undecodable. -/

namespace Authoring

open Decoder

def lenientText : Decoder String :=
  lenient "" .string

def lenientTextOption : Decoder (Option String) :=
  lenient none (.option .string)

def lenientTexts : Decoder (List String) :=
  lenientList "" .string

namespace SourceKind

def decoder : Decoder SourceKind :=
  .variant (all.map fun kind => (kind.name, kind))

def toJson (kind : SourceKind) : Json :=
  .string kind.name

end SourceKind

namespace Source

def decoder : Decoder Source :=
  ((Record.of Source.mk).optional "id" lenientText ""
    |>.optional "kind" (lenient none (.option SourceKind.decoder)) none
    |>.optional "value" lenientText ""
    |>.optional "title" lenientTextOption none
    |>.optional "accessed" lenientTextOption none).decoder "Source"

def toJson (source : Source) : Json :=
  .object
    ([("id", .string source.id)] ++ optionalField "kind" SourceKind.toJson source.kind ++
      [("value", .string source.value)] ++ optionalField "title" .string source.title ++
      optionalField "accessed" .string source.accessed)

end Source

def lenientSources : Decoder (List Source) :=
  lenientList Source.empty Source.decoder

namespace DeckMeta

def decoder : Decoder DeckMeta :=
  ((Record.of DeckMeta.mk).optional "title" lenientText ""
    |>.optional "slideCount" lenientNumber none).decoder "DeckMeta"

def toJson (info : DeckMeta) : Json :=
  .object
    ([("title", .string info.title)] ++ optionalField "slideCount" .ofFloat info.slideCount)

end DeckMeta

namespace FigureStub

def decoder : Decoder FigureStub :=
  ((Record.of FigureStub.mk).optional "stub" lenientText ""
    |>.optional "caption" lenientTextOption none).decoder "FigureStub"

def toJson (figure : FigureStub) : Json :=
  .object ([("stub", .string figure.stub)] ++ optionalField "caption" .string figure.caption)

end FigureStub

namespace Slide

def decoder : Decoder Slide :=
  ((Record.of Slide.mk).optional "title" lenientText ""
    |>.optional "bullets" lenientTexts []
    |>.optional "figureStubs" (lenientList FigureStub.empty FigureStub.decoder) []
    |>.optional "citations" lenientTexts []
    |>.optional "notes" lenientTextOption none).decoder "Slide"

def toJson (slide : Slide) : Json :=
  .object
    ([("title", .string slide.title)] ++ optionalList "bullets" .string slide.bullets ++
      optionalList "figureStubs" FigureStub.toJson slide.figureStubs ++
      optionalList "citations" .string slide.citations ++
      optionalField "notes" .string slide.notes)

end Slide

namespace SlideDeck

def record : Record SlideDeck :=
  (Record.of SlideDeck.mk).optional "meta" (lenient DeckMeta.empty DeckMeta.decoder) DeckMeta.empty
    |>.optional "slides" (lenientList Slide.empty Slide.decoder) []
    |>.optional "sources" lenientSources []

def decoder : Decoder SlideDeck :=
  record.decoder "SlideDeck"

def toFields (deck : SlideDeck) : List (String × Json) :=
  [("meta", deck.info.toJson), ("slides", .array (deck.slides.map Slide.toJson)),
    ("sources", .array (deck.sources.map Source.toJson))]

end SlideDeck

namespace PageMeta

def decoder : Decoder PageMeta :=
  ((Record.of PageMeta.mk).optional "title" lenientText ""
    |>.optional "wordBudget" lenientNumber none).decoder "PageMeta"

def toJson (info : PageMeta) : Json :=
  .object
    ([("title", .string info.title)] ++ optionalField "wordBudget" .ofFloat info.wordBudget)

end PageMeta

namespace OnePager

def record : Record OnePager :=
  (Record.of OnePager.mk).optional "meta" (lenient PageMeta.empty PageMeta.decoder) PageMeta.empty
    |>.optional "problem" lenientText ""
    |>.optional "keyFacts" lenientTexts []
    |>.optional "implications" lenientTexts []
    |>.optional "actions" lenientTexts []
    |>.optional "citations" lenientTexts []
    |>.optional "sources" lenientSources []

def decoder : Decoder OnePager :=
  record.decoder "OnePager"

def toFields (page : OnePager) : List (String × Json) :=
  [("meta", page.info.toJson), ("problem", .string page.problem),
    ("keyFacts", .strings page.keyFacts), ("implications", .strings page.implications),
    ("actions", .strings page.actions), ("citations", .strings page.citations),
    ("sources", .array (page.sources.map Source.toJson))]

end OnePager

namespace CardsMeta

def decoder : Decoder CardsMeta :=
  ((Record.of CardsMeta.mk).optional "title" lenientTextOption none).decoder "CardsMeta"

def toJson (info : CardsMeta) : Json :=
  .object (optionalField "title" .string info.title)

end CardsMeta

namespace Card

def decoder : Decoder Card :=
  ((Record.of Card.mk).optional "q" lenientText ""
    |>.optional "a" lenientText ""
    |>.optional "tags" lenientTexts []
    |>.optional "citations" lenientTexts []).decoder "Card"

def toJson (card : Card) : Json :=
  .object
    ([("q", .string card.question), ("a", .string card.answer)] ++
      optionalList "tags" .string card.tags ++ optionalList "citations" .string card.citations)

end Card

namespace Flashcards

def record : Record Flashcards :=
  (Record.of Flashcards.mk).optional "meta" (lenient none (.option CardsMeta.decoder)) none
    |>.optional "cards" (lenientList Card.empty Card.decoder) []
    |>.optional "sources" lenientSources []

def decoder : Decoder Flashcards :=
  record.decoder "Flashcards"

def toFields (set : Flashcards) : List (String × Json) :=
  optionalField "meta" CardsMeta.toJson set.info ++
    [("cards", .array (set.cards.map Card.toJson)),
      ("sources", .array (set.sources.map Source.toJson))]

end Flashcards

namespace DocumentKind

def variants : List (String × DocumentKind) :=
  all.map fun kind => (kind.name, kind)

def decoder : Decoder DocumentKind :=
  .variant variants

end DocumentKind

namespace Deliverable

def splitKind (origin : Origin) (kind? : Option DocumentKind) :
    List (Outline × Outline) → Except Fault (Option DocumentKind × List (Outline × Outline))
  | [] => .ok (kind?, [])
  | (key, value) :: rest => do
      let name ← lift key.name
      if name = "kind" then
        if kind?.isSome then .error (.shape (.duplicateField "kind"))
        else do
          let kind ← identifier DocumentKind.variants origin value
          splitKind origin (some kind) rest
      else do
        let _ ← lift value.read
        let (kind?, later) ← splitKind origin kind? rest
        return (kind?, (key, value) :: later)

def ofMembers (members : List (Outline × Outline)) : DocumentKind → Except Fault Deliverable
  | .slideDeck => (SlideDeck.record.fromMembers .buffer members none).map .slideDeck
  | .onePager => (OnePager.record.fromMembers .buffer members none).map .onePager
  | .flashcards => (Flashcards.record.fromMembers .buffer members none).map .flashcards

def ofItems (items : List Outline) : DocumentKind → Except Fault Deliverable
  | .slideDeck => (SlideDeck.record.fromItems "SlideDeck" .buffer items none).map .slideDeck
  | .onePager => (OnePager.record.fromItems "OnePager" .buffer items none).map .onePager
  | .flashcards => (Flashcards.record.fromItems "Flashcards" .buffer items none).map .flashcards

/-- An object with its kind among the fields, or an array that starts with the kind. The other
fields are decoded after everything has been read. -/
def decoder : Decoder Deliverable
  | origin, .object deep members ending =>
      if deep then .error (.text .malformed)
      else do
        let (kind?, others) ← splitKind origin none members
        lift (Outline.endOf ending)
        match kind? with
        | some kind => ofMembers others kind
        | none => .error (.shape (.missingField "kind"))
  | origin, .array deep items ending =>
      if deep then .error (.text .malformed)
      else
        match items with
        | [] => do
            lift (Outline.endOf ending)
            .error (.shape (.missingField "kind"))
        | first :: rest => do
            let kind ← identifier DocumentKind.variants origin first
            let _ ← lift (Outline.readItems rest)
            lift (Outline.endOf ending)
            ofItems rest kind
  | _, other => other.refuse "internally tagged enum Artifact"

def toFields : Deliverable → List (String × Json)
  | slideDeck deck => deck.toFields
  | onePager page => page.toFields
  | flashcards cards => cards.toFields

def toJson (document : Deliverable) : Json :=
  .object (("kind", .string document.kind.name) :: document.toFields)

end Deliverable

end Authoring
