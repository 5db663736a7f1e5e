/-! The three kinds of deliverable: slide decks, one-page summaries and sets of flashcards. -/

namespace Authoring

inductive DocumentKind where
  | slideDeck
  | onePager
  | flashcards
deriving DecidableEq, Repr

namespace DocumentKind

def all : List DocumentKind :=
  [slideDeck, onePager, flashcards]

def name : DocumentKind → String
  | slideDeck => "SlideDeck"
  | onePager => "OnePager"
  | flashcards => "Flashcards"

def ofName? (name : String) : Option DocumentKind :=
  all.find? fun kind => kind.name == name

end DocumentKind

inductive SourceKind where
  | url
  | doi
  | paper
  | book
  | other
deriving DecidableEq, Repr

namespace SourceKind

def all : List SourceKind :=
  [url, doi, paper, book, other]

def name : SourceKind → String
  | url => "url"
  | doi => "doi"
  | paper => "paper"
  | book => "book"
  | other => "other"

end SourceKind

structure Source where
  id : String
  kind : Option SourceKind
  value : String
  title : Option String
  accessed : Option String
deriving DecidableEq

def Source.empty : Source :=
  ⟨"", none, "", none, none⟩

structure DeckMeta where
  title : String
  slideCount : Option Float
deriving DecidableEq

def DeckMeta.empty : DeckMeta :=
  ⟨"", none⟩

structure FigureStub where
  stub : String
  caption : Option String
deriving DecidableEq

def FigureStub.empty : FigureStub :=
  ⟨"", none⟩

structure Slide where
  title : String
  bullets : List String
  figureStubs : List FigureStub
  citations : List String
  notes : Option String
deriving DecidableEq

def Slide.empty : Slide :=
  ⟨"", [], [], [], none⟩

structure SlideDeck where
  info : DeckMeta
  slides : List Slide
  sources : List Source
deriving DecidableEq

structure PageMeta where
  title : String
  wordBudget : Option Float
deriving DecidableEq

def PageMeta.empty : PageMeta :=
  ⟨"", none⟩

structure OnePager where
  info : PageMeta
  problem : String
  keyFacts : List String
  implications : List String
  actions : List String
  citations : List String
  sources : List Source
deriving DecidableEq

structure CardsMeta where
  title : Option String
deriving DecidableEq

structure Card where
  question : String
  answer : String
  tags : List String
  citations : List String
deriving DecidableEq

def Card.empty : Card :=
  ⟨"", "", [], []⟩

structure Flashcards where
  info : Option CardsMeta
  cards : List Card
  sources : List Source
deriving DecidableEq

inductive Deliverable where
  | slideDeck (deck : SlideDeck)
  | onePager (page : OnePager)
  | flashcards (cards : Flashcards)
deriving DecidableEq

namespace Deliverable

def kind : Deliverable → DocumentKind
  | slideDeck _ => .slideDeck
  | onePager _ => .onePager
  | flashcards _ => .flashcards

def sources : Deliverable → List Source
  | slideDeck deck => deck.sources
  | onePager page => page.sources
  | flashcards cards => cards.sources

end Deliverable

end Authoring
