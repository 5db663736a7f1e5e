import Authoring.Contract.Basic
import Authoring.Deliverable.Document

/-! The contracts of the three kinds of deliverable. -/

namespace Authoring

def citationContract : Contract :=
  .string { StringContract.any with pattern := some .sourceId }

def sourceKindContract : Contract :=
  .string { StringContract.any with allowed := SourceKind.all.map SourceKind.name }

def sourcesContract : Contract :=
  .listOf 1 50 <| .closed
    [required "id" citationContract,
      required "kind" sourceKindContract,
      required "value" (.string .nonEmpty),
      optional "title" (.string .any),
      optional "accessed" (.string { StringContract.any with format := some .date })]

def kindContract (kind : DocumentKind) : Contract :=
  .const kind.name

def figureContract : Contract :=
  .closed [required "stub" (.text 1 200), optional "caption" (.text 0 200)]

def slideContract : Contract :=
  .object
    [required "title" (.text 1 120),
      optional "bullets" (.listOf 0 5 (.text 1 400)),
      optional "figureStubs" (.listOf 0 3 figureContract),
      optional "citations" (.listOf 0 10 citationContract),
      optional "notes" (.text 0 1000)]
    ["bullets", "figureStubs"]

def slideDeckContract : Contract :=
  .closed
    [required "kind" (kindContract .slideDeck),
      required "meta" <| .closed
        [required "title" (.text 1 160), required "slideCount" (.between 1 30)],
      required "slides" (.listOf 1 30 slideContract),
      required "sources" sourcesContract]

def onePagerContract : Contract :=
  .closed
    [required "kind" (kindContract .onePager),
      required "meta" <| .closed
        [required "title" (.text 1 160), required "wordBudget" (.between 200 1000)],
      required "problem" (.text 1 4000),
      required "keyFacts" (.listOf 1 10 (.text 1 400)),
      required "implications" (.listOf 1 10 (.text 1 400)),
      required "actions" (.listOf 0 10 (.text 1 200)),
      required "citations" (.listOf 1 50 citationContract),
      required "sources" sourcesContract]

def cardContract : Contract :=
  .closed
    [required "q" (.text 1 400),
      required "a" (.text 1 1200),
      optional "tags" (.listOf 0 5 (.text 1 40)),
      optional "citations" (.listOf 0 10 citationContract)]

def flashcardsContract : Contract :=
  .closed
    [required "kind" (kindContract .flashcards),
      optional "meta" (.closed [optional "title" (.text 1 160)]),
      required "cards" (.listOf 3 50 cardContract),
      required "sources" sourcesContract]

def DocumentKind.contract : DocumentKind → Contract
  | slideDeck => slideDeckContract
  | onePager => onePagerContract
  | flashcards => flashcardsContract

end Authoring
