import Mathlib
import Authoring.Proofs.Contract.Mentions
import Authoring.Proofs.Deliverable.FailOpen
import Authoring.Proofs.Deliverable.Reading
import Authoring.Proofs.Deliverable.Rules

/-! What the verdict promises about the document itself, whatever was made of it in between. -/

namespace Authoring

open Text (wordCount)
open Json (reach)

def DocumentKind.citationRoute : DocumentKind → List Leg
  | slideDeck => [.field "slides", .each, .field "citations", .each]
  | onePager => [.field "citations", .each]
  | flashcards => [.field "cards", .each, .field "citations", .each]

def deckRoutes : List (List Leg) :=
  [[.field "meta", .field "title"],
    [.field "slides", .each, .field "title"],
    [.field "slides", .each, .field "bullets", .each],
    [.field "slides", .each, .field "figureStubs", .each, .field "caption"],
    [.field "slides", .each, .field "notes"]]

def pageRoutes : List (List Leg) :=
  [[.field "meta", .field "title"],
    [.field "problem"],
    [.field "keyFacts", .each],
    [.field "implications", .each],
    [.field "actions", .each]]

structure DeckWithinLimits (document : Json) : Prop where
  slideCount : ∃ (number : Number) (slides : List Json),
    document.reach [.field "meta", .field "slideCount"] = [.number number] ∧
    document.get? "slides" = some (.array slides) ∧ number.value? = some (slides.length : ℚ)
  texts : ∀ route ∈ deckRoutes, document.EachText route fun _ => True
  titles : document.EachText [.field "slides", .each, .field "title"] (wordCount · ≤ 12)
  bullets : document.EachText [.field "slides", .each, .field "bullets", .each] (wordCount · ≤ 24)
  slides : ∀ slide ∈ document.reach [.field "slides", .each],
    slide.wordsAt [[.field "bullets", .each]] ≤ 60
  total : document.wordsAt deckRoutes ≤ 1500

structure PageWithinLimits (document : Json) : Prop where
  texts : ∀ route ∈ pageRoutes, document.EachText route fun _ => True
  problem : document.EachText [.field "problem"] (wordCount · ≤ 120)
  keyFacts : document.EachText [.field "keyFacts", .each] (wordCount · ≤ 30)
  implications : document.EachText [.field "implications", .each] (wordCount · ≤ 30)
  actions : document.EachText [.field "actions", .each] (wordCount · ≤ 20)
  budget : ∃ (number : Number) (budget : ℚ),
    document.reach [.field "meta", .field "wordBudget"] = [.number number] ∧
    number.value? = some budget ∧ (document.wordsAt pageRoutes : ℚ) ≤ budget

structure CardsWithinLimits (document : Json) : Prop where
  questions : document.EachText [.field "cards", .each, .field "q"] (wordCount · ≤ 20)
  answers : document.EachText [.field "cards", .each, .field "a"] (wordCount · ≤ 60)

def DocumentKind.WithinLimits : DocumentKind → Json → Prop
  | slideDeck, document => DeckWithinLimits document
  | onePager, document => PageWithinLimits document
  | flashcards, document => CardsWithinLimits document

/-- Every citation in the document, wherever it stands, is one of the ids. -/
def CitesOnly (document : Json) (ids : List String) : Prop :=
  ∀ holder value, document.Contains holder → holder.get? "citations" = some value →
    ∃ cited, value = Json.strings cited ∧ ∀ id ∈ cited, id ∈ ids

section Routes

variable {α : Type} {shows : Json → α → Prop} {document : Json} {name : String}
variable {rest : List Leg} {values : List α}

theorem reach_text {text : String} (found : document.get? name = some (.string text)) :
    document.reach [.field name] = [.string text] := by
  rw [Json.reach_field found]
  rfl

theorem reach_optionalText {text? : Option String}
    (found : document.get? name = text?.map .string) :
    document.reach [.field name] = text?.toList.map .string := by
  cases text? with
  | none => exact Json.reach_absent found
  | some text => exact reach_text found

theorem reach_items {route : α → List Json}
    (each : ∀ item value, shows item value → item.reach rest = route value)
    (shown : ShowsItems shows (document.get? name) values) :
    document.reach (.field name :: .each :: rest) = values.flatMap route := by
  obtain ⟨items, found, shown⟩ := shown
  rw [Json.reach_field found, Json.reach_each]
  clear found
  induction shown with
  | nil => rfl
  | cons first _ ih => rw [List.flatMap_cons, List.flatMap_cons, each _ _ first, ih]

theorem reach_list {route : α → List Json}
    (each : ∀ item value, shows item value → item.reach rest = route value)
    (shown : ShowsList shows (document.get? name) values) :
    document.reach (.field name :: .each :: rest) = values.flatMap route := by
  rcases shown with ⟨absent, rfl⟩ | shown
  · exact Json.reach_absent absent
  · exact reach_items each shown

theorem reach_showsText (item : Json) (text : String) (shown : ShowsText item text) :
    item.reach [] = [.string text] := by
  rw [show item = .string text from shown]
  rfl

theorem reach_texts {texts : List String}
    (shown : ShowsItems ShowsText (document.get? name) texts) :
    document.reach [.field name, .each] = texts.map .string := by
  rw [reach_items reach_showsText shown, List.map_eq_flatMap]

theorem reach_textList {texts : List String}
    (shown : ShowsList ShowsText (document.get? name) texts) :
    document.reach [.field name, .each] = texts.map .string := by
  rw [reach_list reach_showsText shown, List.map_eq_flatMap]

theorem sum_words_strings (texts : List String) :
    ((texts.map Json.string).map Json.words).sum = (texts.map wordCount).sum := by
  rw [List.map_map]
  rfl

theorem eachText_strings {texts : List String} {route : List Leg} {holds : String → Prop}
    (reached : document.reach route = texts.map .string) (each : ∀ text ∈ texts, holds text) :
    document.EachText route holds := by
  intro value member
  rw [reached] at member
  obtain ⟨text, listed, rfl⟩ := List.mem_map.mp member
  exact ⟨text, rfl, each text listed⟩

theorem eachText_flatMap {texts : α → List String} {route : List Leg} {holds : String → Prop}
    (reached : document.reach route = values.flatMap fun value => (texts value).map .string)
    (each : ∀ value ∈ values, ∀ text ∈ texts value, holds text) :
    document.EachText route holds := by
  intro value member
  rw [reached] at member
  obtain ⟨owner, listed, member⟩ := List.mem_flatMap.mp member
  obtain ⟨text, inside, rfl⟩ := List.mem_map.mp member
  exact ⟨text, rfl, each owner listed text inside⟩

end Routes

section Decks

variable {document : Json} {deck : SlideDeck}

theorem SlideDeck.Shows.reach_title (shows : deck.Shows document) :
    document.reach [.field "meta", .field "title"] = [deck.info.title].map .string := by
  obtain ⟨info, found, infoShows⟩ := shows.info
  rw [Json.reach_field found]
  exact reach_text infoShows.title

theorem SlideDeck.Shows.reach_titles (shows : deck.Shows document) :
    document.reach [.field "slides", .each, .field "title"] =
      deck.slides.flatMap fun slide => [slide.title].map .string :=
  reach_items (fun _ _ slideShows => reach_text slideShows.title) shows.slides

theorem SlideDeck.Shows.reach_bullets (shows : deck.Shows document) :
    document.reach [.field "slides", .each, .field "bullets", .each] =
      deck.slides.flatMap fun slide => slide.bullets.map .string :=
  reach_items (fun _ _ slideShows => reach_textList slideShows.bullets) shows.slides

theorem Slide.Shows.reach_captions {slide : Slide} (shows : slide.Shows document) :
    document.reach [.field "figureStubs", .each, .field "caption"] =
      (slide.figureStubs.flatMap fun figure => figure.caption.toList).map .string := by
  rw [List.map_flatMap]
  exact reach_list (fun _ _ figureShows => reach_optionalText figureShows.caption) shows.figureStubs

theorem SlideDeck.Shows.reach_captions (shows : deck.Shows document) :
    document.reach [.field "slides", .each, .field "figureStubs", .each, .field "caption"] =
      deck.slides.flatMap fun slide =>
        (slide.figureStubs.flatMap fun figure => figure.caption.toList).map .string :=
  reach_items (fun _ _ slideShows => slideShows.reach_captions) shows.slides

theorem SlideDeck.Shows.reach_notes (shows : deck.Shows document) :
    document.reach [.field "slides", .each, .field "notes"] =
      deck.slides.flatMap fun slide => slide.notes.toList.map .string :=
  reach_items (fun _ _ slideShows => reach_optionalText slideShows.notes) shows.slides

theorem SlideDeck.Shows.reach_citations (shows : deck.Shows document) :
    document.reach [.field "slides", .each, .field "citations", .each] =
      deck.slides.flatMap fun slide => slide.citations.map .string :=
  reach_items (fun _ _ slideShows => reach_textList slideShows.citations) shows.slides

theorem SlideDeck.Shows.wordsAt_eq (shows : deck.Shows document) :
    document.wordsAt deckRoutes = Rules.deckWords deck := by
  simp only [Json.wordsAt, deckRoutes, List.map_cons, List.map_nil, List.sum_cons, List.sum_nil,
    shows.reach_title, shows.reach_titles, shows.reach_bullets, shows.reach_captions,
    shows.reach_notes, Rules.sum_flatMap, sum_words_strings, Rules.deckWords_eq, SlideDeck.texts,
    List.map_append, List.sum_append, Nat.add_zero, Json.words]
  rw [List.map_map]
  simp only [Nat.add_assoc]
  rfl

theorem SlideDeck.Shows.exists_slide (shows : deck.Shows document) {item : Json}
    (member : item ∈ document.reach [.field "slides", .each]) :
    ∃ slide ∈ deck.slides, slide.Shows item := by
  obtain ⟨items, found, shown⟩ := shows.slides
  rw [Json.reach_field found, Json.reach_each] at member
  exact exists_of_forall₂ shown (by simpa [reach] using member)

theorem deckWithinLimits (shows : deck.Shows document) (kept : Rules.DeckKept deck) :
    DeckWithinLimits document where
  slideCount := by
    obtain ⟨info, found, infoShows⟩ := shows.info
    obtain ⟨number, value, countFound, given, written, exact, small⟩ := infoShows.slideCount
    obtain ⟨slides, slidesFound, shown⟩ := shows.slides
    refine ⟨number, slides, ?_, slidesFound, ?_⟩
    · rw [Json.reach_field found, Json.reach_field countFound]
      rfl
    · have same := kept.slideCount
      rw [Rules.hasSlideCount, given] at same
      rw [written, Decimal.eq_of_beq_ofNat exact small same, shown.length_eq]
  texts := by
    simp only [deckRoutes, List.forall_mem_cons]
    exact ⟨eachText_strings shows.reach_title fun _ _ => trivial,
      eachText_flatMap shows.reach_titles fun _ _ _ _ => trivial,
      eachText_flatMap shows.reach_bullets fun _ _ _ _ => trivial,
      eachText_flatMap shows.reach_captions fun _ _ _ _ => trivial,
      eachText_flatMap shows.reach_notes fun _ _ _ _ => trivial, List.forall_mem_nil _⟩
  titles := eachText_flatMap shows.reach_titles fun slide member title listed => by
    rw [List.mem_singleton.mp listed]
    exact (kept.slides slide member).title
  bullets := eachText_flatMap shows.reach_bullets fun slide member =>
    (kept.slides slide member).bullets
  slides := by
    intro item member
    obtain ⟨slide, listed, slideShows⟩ := shows.exists_slide member
    have total := (kept.slides slide listed).total
    simp only [Json.wordsAt, List.map_cons, List.map_nil, List.sum_cons, List.sum_nil,
      Nat.add_zero, reach_textList slideShows.bullets, sum_words_strings]
    rwa [Rules.bulletWords, Rules.total_eq_sum] at total
  total := shows.wordsAt_eq ▸ kept.total

end Decks

section Pages

variable {document : Json} {page : OnePager}

theorem OnePager.Shows.reach_title (shows : page.Shows document) :
    document.reach [.field "meta", .field "title"] = [page.info.title].map .string := by
  obtain ⟨info, found, infoShows⟩ := shows.info
  rw [Json.reach_field found]
  exact reach_text infoShows.title

theorem OnePager.Shows.reach_problem (shows : page.Shows document) :
    document.reach [.field "problem"] = [page.problem].map .string :=
  reach_text shows.problem

theorem OnePager.Shows.wordsAt_eq (shows : page.Shows document) :
    document.wordsAt pageRoutes = Rules.pageWords page := by
  simp only [Json.wordsAt, pageRoutes, List.map_cons, List.map_nil, List.sum_cons, List.sum_nil,
    shows.reach_title, shows.reach_problem, reach_texts shows.keyFacts,
    reach_texts shows.implications, reach_texts shows.actions, sum_words_strings, Json.words,
    Rules.pageWords, Rules.totalWords, Rules.total_eq_sum]
  omega

theorem pageWithinLimits (shows : page.Shows document) (kept : Rules.PageKept page) :
    PageWithinLimits document where
  texts := by
    simp only [pageRoutes, List.forall_mem_cons]
    exact ⟨eachText_strings shows.reach_title fun _ _ => trivial,
      eachText_strings shows.reach_problem fun _ _ => trivial,
      eachText_strings (reach_texts shows.keyFacts) fun _ _ => trivial,
      eachText_strings (reach_texts shows.implications) fun _ _ => trivial,
      eachText_strings (reach_texts shows.actions) fun _ _ => trivial, List.forall_mem_nil _⟩
  problem := eachText_strings shows.reach_problem fun text listed => by
    rw [List.mem_singleton.mp listed]
    exact kept.problem
  keyFacts := eachText_strings (reach_texts shows.keyFacts) kept.keyFacts
  implications := eachText_strings (reach_texts shows.implications) kept.implications
  actions := eachText_strings (reach_texts shows.actions) kept.actions
  budget := by
    obtain ⟨info, found, infoShows⟩ := shows.info
    obtain ⟨number, value, budgetFound, given, written, exact, small⟩ := infoShows.wordBudget
    refine ⟨number, value, ?_, written, ?_⟩
    · rw [Json.reach_field found, Json.reach_field budgetFound]
      rfl
    · rw [shows.wordsAt_eq]
      exact Decimal.ofNat_le_of_not_lt exact small (kept.budget _ given)

end Pages

section Cards

variable {document : Json} {set : Flashcards}

theorem cardsWithinLimits (shows : set.Shows document) (kept : Rules.CardsKept set) :
    CardsWithinLimits document where
  questions := by
    have reached : document.reach [.field "cards", .each, .field "q"] =
        set.cards.flatMap fun card => [card.question].map .string :=
      reach_items (fun _ _ cardShows => reach_text cardShows.question) shows.cards
    refine eachText_flatMap reached fun card member text listed => ?_
    rw [List.mem_singleton.mp listed]
    exact (kept.cards card member).question
  answers := by
    have reached : document.reach [.field "cards", .each, .field "a"] =
        set.cards.flatMap fun card => [card.answer].map .string :=
      reach_items (fun _ _ cardShows => reach_text cardShows.answer) shows.cards
    refine eachText_flatMap reached fun card member text listed => ?_
    rw [List.mem_singleton.mp listed]
    exact (kept.cards card member).answer

end Cards

section Citations

variable {document : Json}

theorem cites_of_list {value : Json} {citations ids : List String}
    (found : document.get? "citations" = some value)
    (shown : ShowsList ShowsText (document.get? "citations") citations)
    (known : ∀ id ∈ citations, id ∈ ids) :
    ∃ cited, value = Json.strings cited ∧ ∀ id ∈ cited, id ∈ ids := by
  rw [found] at shown
  rcases shown with ⟨absent, _⟩ | ⟨items, same, shown⟩
  · cases absent
  · refine ⟨citations, ?_, known⟩
    have texts : items = citations.map .string := by
      clear same known found
      induction shown with
      | nil => rfl
      | cons first _ ih => rw [List.map_cons, ← ih, show _ = Json.string _ from first]
    rw [Option.some.inj same, texts]
    rfl

theorem deckCitesOnly {deck : SlideDeck} (distinct : document.Distinct)
    (accepted : slideDeckContract.Accepts document) (shows : deck.Shows document)
    (kept : Rules.DeckKept deck) : CitesOnly document (Rules.sourceIds deck.sources) := by
  intro holder value contains cited
  have has : holder.get? "citations" ≠ none := by
    rw [cited]
    nofun
  rcases Contract.contains_item "slides" distinct accepted rfl rfl contains has with
    rfl | ⟨slides, item, found, member, itemAccepted, inside⟩
  · exact absurd (shows.only "citations" (by decide)) has
  · obtain ⟨items, same, shown⟩ := shows.slides
    have itemDistinct := Json.distinct_array_iff.mp (distinct.get? found) item member
    have whole := Contract.contains_self itemDistinct itemAccepted rfl inside has
    rw [found] at same
    cases same
    obtain ⟨slide, listed, slideShows⟩ := exists_of_forall₂ shown member
    subst whole
    exact cites_of_list cited slideShows.citations (kept.slides slide listed).citations

theorem pageCitesOnly {page : OnePager} (distinct : document.Distinct)
    (accepted : onePagerContract.Accepts document) (shows : page.Shows document)
    (kept : Rules.PageKept page) : CitesOnly document (Rules.sourceIds page.sources) := by
  intro holder value contains cited
  have has : holder.get? "citations" ≠ none := by
    rw [cited]
    nofun
  have whole := Contract.contains_self distinct accepted rfl contains has
  subst whole
  exact cites_of_list cited (.inr shows.citations) kept.citations

theorem cardsCiteOnly {set : Flashcards} (distinct : document.Distinct)
    (accepted : flashcardsContract.Accepts document) (shows : set.Shows document)
    (kept : Rules.CardsKept set) : CitesOnly document (Rules.sourceIds set.sources) := by
  intro holder value contains cited
  have has : holder.get? "citations" ≠ none := by
    rw [cited]
    nofun
  rcases Contract.contains_item "cards" distinct accepted rfl rfl contains has with
    rfl | ⟨cards, item, found, member, itemAccepted, inside⟩
  · exact absurd (shows.only "citations" (by decide)) has
  · obtain ⟨items, same, shown⟩ := shows.cards
    have itemDistinct := Json.distinct_array_iff.mp (distinct.get? found) item member
    have whole := Contract.contains_self itemDistinct itemAccepted rfl inside has
    rw [found] at same
    cases same
    obtain ⟨card, listed, cardShows⟩ := exists_of_forall₂ shown member
    subst whole
    exact cites_of_list cited cardShows.citations (kept.cards card listed).citations

end Citations

def SourcesHave (document : Json) (ids : List String) : Prop :=
  ∃ sources, document.get? "sources" = some (.array sources) ∧
    List.Forall₂ (fun source id => source.get? "id" = some (.string id)) sources ids

theorem sourcesHave_of_shows {document : Json} {sources : List Source}
    (shown : ShowsItems Source.Shows (document.get? "sources") sources) :
    SourcesHave document (Rules.sourceIds sources) := by
  obtain ⟨items, found, shown⟩ := shown
  refine ⟨items, found, ?_⟩
  rw [Rules.sourceIds, List.forall₂_map_right_iff]
  exact shown.imp fun _ _ sourceShows => sourceShows.id

theorem accepted_of_ok {document : Json} {options : ValidateOptions} (distinct : document.Distinct)
    (ok : (validate options document).ok = true) :
    ∃ deliverable : Deliverable, DocumentKind.ofJson document = .ok deliverable.kind ∧
      deliverable.kind.contract.Accepts document ∧ deliverable.Shows document ∧
      deliverable.breaches = [] := by
  rcases validate_cases document distinct with ⟨reason, unknown⟩ |
    ⟨kind, decoded, known, found, _⟩ | ⟨kind, fault, known, refused, broken, _⟩
  · rw [validate_unknown unknown] at ok
    cases ok
  · rw [validate_decoded known found] at ok
    have nothing := List.append_eq_nil_iff.mp (List.isEmpty_iff.mp ok)
    have accepted : kind.contract.Accepts document := List.map_eq_nil_iff.mp nothing.1
    obtain ⟨deliverable, rfl, shows⟩ :=
      deliverable_of_accepts accepted (DocumentKind.ofJson_eq_ok_iff.mp known)
    have same : deliverable = decoded := by
      have again := Deliverable.decodes shows distinct
      rw [found] at again
      exact (Except.ok.inj again).symm
    subst same
    exact ⟨deliverable, known, accepted, shows, List.map_eq_nil_iff.mp nothing.2⟩
  · rw [validate_undecoded known broken refused] at ok
    cases ok

/-- When the verdict is that a document is all right, then read off the document itself: its sources
have ids of their own, and there is a source; every citation anywhere is the id of a source, and
there is a citation; and all counts and word limits of its kind hold. -/
theorem ok_holds_of_document (document : Json) (distinct : document.Distinct)
    (options : ValidateOptions) (ok : (validate options document).ok = true) :
    ∃ (kind : DocumentKind) (ids : List String), DocumentKind.ofJson document = .ok kind ∧
      SourcesHave document ids ∧ ids.Nodup ∧ ids ≠ [] ∧ CitesOnly document ids ∧
      document.reach kind.citationRoute ≠ [] ∧ kind.WithinLimits document := by
  obtain ⟨deliverable, known, accepted, shows, kept⟩ := accepted_of_ok distinct ok
  refine ⟨deliverable.kind, Rules.sourceIds deliverable.sources, known, ?_⟩
  cases deliverable with
  | slideDeck deck =>
      have body : deck.Shows document := shows.body
      have kept := Rules.deck_kept kept
      refine ⟨sourcesHave_of_shows body.sources, kept.distinct, ?_,
        deckCitesOnly distinct accepted body kept, ?_, deckWithinLimits body kept⟩
      · exact fun none => kept.sources (List.map_eq_nil_iff.mp none)
      · obtain ⟨slide, listed, cites⟩ := kept.cites
        intro none
        have reached := body.reach_citations.symm.trans none
        exact cites (List.map_eq_nil_iff.mp (List.flatMap_eq_nil_iff.mp reached slide listed))
  | onePager page =>
      have body : page.Shows document := shows.body
      have kept := Rules.page_kept kept
      refine ⟨sourcesHave_of_shows body.sources, kept.distinct, ?_,
        pageCitesOnly distinct accepted body kept, ?_, pageWithinLimits body kept⟩
      · exact fun none => kept.sources (List.map_eq_nil_iff.mp none)
      · intro none
        have reached := (reach_texts body.citations).symm.trans none
        exact kept.cites (List.map_eq_nil_iff.mp reached)
  | flashcards set =>
      have body : set.Shows document := shows.body
      have kept := Rules.cards_kept kept
      refine ⟨sourcesHave_of_shows body.sources, kept.distinct, ?_,
        cardsCiteOnly distinct accepted body kept, ?_, cardsWithinLimits body kept⟩
      · exact fun none => kept.sources (List.map_eq_nil_iff.mp none)
      · obtain ⟨card, listed, cites⟩ := kept.cites
        have reached : document.reach [.field "cards", .each, .field "citations", .each] =
            set.cards.flatMap fun card => card.citations.map .string :=
          reach_items (fun _ _ cardShows => reach_textList cardShows.citations) body.cards
        intro none
        have nothing := reached.symm.trans none
        exact cites (List.map_eq_nil_iff.mp (List.flatMap_eq_nil_iff.mp nothing card listed))

def sampleDeck : Json :=
  .object
    [("kind", .string "SlideDeck"),
      ("meta", .object
        [("title", .string "Plan"), ("slideCount", .number (.integer ⟨1, by decide⟩))]),
      ("slides", .array
        [.object
          [("title", .string "Cost"), ("bullets", .array [.string "One"]),
            ("citations", .array [.string "a"])]]),
      ("sources", .array
        [.object [("id", .string "a"), ("kind", .string "url"), ("value", .string "x")]])]

theorem ok_holds_of_sampleDeck :
    sampleDeck.Distinct ∧ (validate ⟨false⟩ sampleDeck).ok = true ∧
      ∃ ids, SourcesHave sampleDeck ids ∧ CitesOnly sampleDeck ids ∧
        DeckWithinLimits sampleDeck := by
  have distinct : sampleDeck.Distinct := by
    simp [sampleDeck, Json.Distinct, Json.DistinctFields, Json.DistinctItems, Fields.keys]
  have ok : (validate ⟨false⟩ sampleDeck).ok = true := by decide +kernel
  obtain ⟨kind, ids, known, sources, _, _, cites, _, limits⟩ :=
    ok_holds_of_document sampleDeck distinct ⟨false⟩ ok
  have deck : kind = .slideDeck := by
    have found : DocumentKind.ofJson sampleDeck = .ok .slideDeck := rfl
    exact (Except.ok.inj (found.symm.trans known)).symm
  subst deck
  exact ⟨distinct, ok, ids, sources, cites, limits⟩

end Authoring
