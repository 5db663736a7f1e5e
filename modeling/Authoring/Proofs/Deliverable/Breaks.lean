import Mathlib
import Authoring.Deliverable.Rules
import Authoring.Proofs.Decimal.Whole
import Authoring.Proofs.Repeats
import Authoring.Proofs.Text.Runs

/-! Which rules a deliverable breaks, and where. Rules and items are numbered: a place starts with the
number of a rule and goes on with the numbers of the items that the rule is about. -/

namespace Authoring

open Text (wordCount)

def RepeatsIds (sources : List Source) (ids : List String) : Prop :=
  ¬(sources.map Source.id).Nodup ∧ Enumerates ids (ComesAgain (sources.map Source.id))

/-- Only whether an id is known matters, not which source has it. -/
inductive SlideBreaks (known : Set String) (position : Nat) (slide : Slide) :
    List Nat → Breach → Prop where
  | title (long : 12 < wordCount slide.title) :
      SlideBreaks known position slide [0] (.slideTitle position (wordCount slide.title))
  | content (noBullet : slide.bullets = []) (noFigure : slide.figureStubs = []) :
      SlideBreaks known position slide [1] (.emptySlide position)
  | bullet {index : Nat} {bullet : String} (found : slide.bullets[index]? = some bullet)
      (long : 24 < wordCount bullet) :
      SlideBreaks known position slide [2, index] (.bullet position index (wordCount bullet))
  | bulletTotal (long : 60 < (slide.bullets.map wordCount).sum) :
      SlideBreaks known position slide [3]
        (.bulletTotal position (slide.bullets.map wordCount).sum)
  | citation {index : Nat} {id : String} (found : slide.citations[index]? = some id)
      (unknown : id ∉ known) :
      SlideBreaks known position slide [4, index] (.slideCitation position id)
  | stub {index : Nat} {figure : FigureStub} (found : slide.figureStubs[index]? = some figure)
      (blank : Text.AllBlank figure.stub.toList) :
      SlideBreaks known position slide [5, index] (.blankStub position index)

def SlideDeck.texts (deck : SlideDeck) : List String :=
  deck.info.title :: (deck.slides.map Slide.title ++ deck.slides.flatMap Slide.bullets ++
    deck.slides.flatMap (fun slide => slide.figureStubs.flatMap fun figure =>
      figure.caption.toList) ++ deck.slides.flatMap fun slide => slide.notes.toList)

inductive DeckBreaks (deck : SlideDeck) : List Nat → Breach → Prop where
  | slideCount (different : ∀ count, deck.info.slideCount = some count →
        (count == Float.ofNat deck.slides.length) = false) :
      DeckBreaks deck [0] (.slideCount deck.info.slideCount deck.slides.length)
  | duplicates {ids : List String} (repeated : RepeatsIds deck.sources ids) :
      DeckBreaks deck [1] (.duplicateSources ids)
  | slide {position : Nat} {slide : Slide} {place : List Nat} {breach : Breach}
      (found : deck.slides[position]? = some slide)
      (broken : SlideBreaks {id | ∃ source ∈ deck.sources, source.id = id} position slide place
        breach) :
      DeckBreaks deck (2 :: position :: place) breach
  | source (nothing : deck.sources = []) : DeckBreaks deck [3] .noSource
  | citation (nothing : ∀ slide ∈ deck.slides, slide.citations = []) :
      DeckBreaks deck [4] .noSlideCitation
  | total (long : 1500 < (deck.texts.map wordCount).sum) :
      DeckBreaks deck [5] (.deckTotal (deck.texts.map wordCount).sum)

inductive TooLong (part : String) (limit : Nat) (items : List String) :
    List Nat → Breach → Prop where
  | item {index : Nat} {item : String} (found : items[index]? = some item)
      (long : limit < wordCount item) :
      TooLong part limit items [index] (.pageItem part index limit (wordCount item))

def OnePager.texts (page : OnePager) : List String :=
  page.info.title :: page.problem :: (page.keyFacts ++ page.implications ++ page.actions)

def OnePager.FirstUnknown (page : OnePager) (index : Nat) (id : String) : Prop :=
  page.citations[index]? = some id ∧ (∀ source ∈ page.sources, source.id ≠ id) ∧
    id ∉ page.citations.take index

inductive PageBreaks (page : OnePager) : List Nat → Breach → Prop where
  | duplicates {ids : List String} (repeated : RepeatsIds page.sources ids) :
      PageBreaks page [0] (.duplicateSources ids)
  | problem (long : 120 < wordCount page.problem) :
      PageBreaks page [1] (.problem (wordCount page.problem))
  | keyFact {place : List Nat} {breach : Breach}
      (broken : TooLong "keyFacts" 30 page.keyFacts place breach) :
      PageBreaks page (2 :: place) breach
  | implication {place : List Nat} {breach : Breach}
      (broken : TooLong "implications" 30 page.implications place breach) :
      PageBreaks page (3 :: place) breach
  | action {place : List Nat} {breach : Breach}
      (broken : TooLong "actions" 20 page.actions place breach) :
      PageBreaks page (4 :: place) breach
  | citation (nothing : page.citations = []) : PageBreaks page [5] .noPageCitation
  | unknown {ids : List String} (some : ids ≠ []) (listed : Enumerates ids page.FirstUnknown) :
      PageBreaks page [6] (.pageCitations ids)
  | budget {budget : Float} (given : page.info.wordBudget = .some budget)
      (long : budget < Float.ofNat (page.texts.map wordCount).sum) :
      PageBreaks page [7] (.wordBudget budget (page.texts.map wordCount).sum)
  | source (nothing : page.sources = []) : PageBreaks page [8] .noSource

inductive CardBreaks (known : Set String) (position : Nat) (card : Card) :
    List Nat → Breach → Prop where
  | question (long : 20 < wordCount card.question) :
      CardBreaks known position card [0] (.question position (wordCount card.question))
  | answer (long : 60 < wordCount card.answer) :
      CardBreaks known position card [1] (.answer position (wordCount card.answer))
  | citation {index : Nat} {id : String} (found : card.citations[index]? = some id)
      (unknown : id ∉ known) :
      CardBreaks known position card [2, index] (.cardCitation position id)

inductive CardsBreak (set : Flashcards) : List Nat → Breach → Prop where
  | duplicates {ids : List String} (repeated : RepeatsIds set.sources ids) :
      CardsBreak set [0] (.duplicateSources ids)
  | card {position : Nat} {card : Card} {place : List Nat} {breach : Breach}
      (found : set.cards[position]? = some card)
      (broken : CardBreaks {id | ∃ source ∈ set.sources, source.id = id} position card place
        breach) :
      CardsBreak set (1 :: position :: place) breach
  | citation (nothing : ∀ card ∈ set.cards, card.citations = []) :
      CardsBreak set [2] .noCardCitation
  | source (nothing : set.sources = []) : CardsBreak set [3] .noSource

namespace Rules

/-! Words -/

theorem total_eq_sum {α : Type} (weight : α → Nat) (values : List α) :
    total weight values = (values.map weight).sum := by
  rw [List.sum_eq_foldr, List.foldr_map]
  rfl

theorem sum_flatMap {α β : Type} (weight : β → Nat) (parts : α → List β) (values : List α) :
    ((values.flatMap parts).map weight).sum =
      (values.map fun value => ((parts value).map weight).sum).sum := by
  induction values with
  | nil => rfl
  | cons value rest ih => simp [ih]

theorem sum_optionWords (text? : Option String) :
    (text?.toList.map wordCount).sum = optionWords text? := by
  cases text? with
  | none => rfl
  | some text => simp [optionWords]

theorem deckWords_eq (deck : SlideDeck) : deckWords deck = (deck.texts.map wordCount).sum := by
  have slides : total slideWords deck.slides =
      (deck.slides.map fun slide => wordCount slide.title).sum +
        (deck.slides.map fun slide => (slide.bullets.map wordCount).sum).sum +
        (deck.slides.map fun slide =>
          (slide.figureStubs.map fun figure => optionWords figure.caption).sum).sum +
        (deck.slides.map fun slide => optionWords slide.notes).sum := by
    rw [← List.sum_map_add, ← List.sum_map_add, ← List.sum_map_add, total_eq_sum]
    refine congrArg List.sum (List.map_congr_left fun slide _ => ?_)
    rw [slideWords, bulletWords, total_eq_sum, total_eq_sum]
  simp only [SlideDeck.texts, deckWords, slides, List.map_cons, List.sum_cons, List.map_append,
    List.sum_append, List.map_map, sum_flatMap, sum_optionWords]
  rfl

theorem pageWords_eq (page : OnePager) : pageWords page = (page.texts.map wordCount).sum := by
  simp only [pageWords, totalWords, total_eq_sum, OnePager.texts, List.map_cons, List.sum_cons,
    List.map_append, List.sum_append]
  omega

/-! Lists of lines -/

inductive Reports (holds : Prop) (breach : Breach) : List Nat → Breach → Prop where
  | here (held : holds) : Reports holds breach [] breach

inductive OnItems {α : Type} (items : List α) (present : Nat → α → List Nat → Breach → Prop) :
    List Nat → Breach → Prop where
  | item {position : Nat} {item : α} {place : List Nat} {breach : Breach}
      (found : items[position]? = some item) (held : present position item place breach) :
      OnItems items present (position :: place) breach

section Reports

variable {α : Type} {broken : Bool} {holds : Prop}

theorem enumerates_report (same : broken = true ↔ holds) (breach : Breach) :
    Enumerates (report broken breach) (Reports holds breach) := by
  cases broken with
  | false =>
      refine .nil fun place other reported => ?_
      obtain ⟨held⟩ := reported
      cases same.mpr held
  | true =>
      refine ⟨[([], breach)], List.pairwise_singleton _ _, fun place other => ?_, rfl⟩
      rw [List.mem_singleton, Prod.mk.injEq]
      constructor
      · rintro ⟨rfl, rfl⟩
        exact .here (same.mp rfl)
      · rintro ⟨-⟩
        exact ⟨rfl, rfl⟩

theorem enumerates_excess (limit words : Nat) (breach : Breach) :
    Enumerates (report (limit < words) breach) (Reports (limit < words) breach) :=
  enumerates_report decide_eq_true_iff breach

theorem enumerates_sections {rule : Nat → α → List Breach}
    {present : Nat → α → List Nat → Breach → Prop}
    (each : ∀ position item, Enumerates (rule position item) (present position item))
    (items : List α) : Enumerates (onEach rule items) (InSections (items.mapIdx present)) := by
  induction items using List.reverseRecOn with
  | nil => exact enumerates_noSection
  | append_singleton front last ih =>
      have more : onEach rule (front ++ [last]) = onEach rule front ++ rule front.length last := by
        simp [onEach, List.zipIdx_append]
      -- The last item opens one more section.
      rw [more, List.mapIdx_concat]
      exact ih.nextSection (each front.length last)

theorem enumerates_onEach {rule : Nat → α → List Breach}
    {present : Nat → α → List Nat → Breach → Prop}
    (each : ∀ position item, Enumerates (rule position item) (present position item))
    (items : List α) : Enumerates (onEach rule items) (OnItems items present) := by
  refine (enumerates_sections each items).congr fun place breach => ?_
  constructor
  · rintro ⟨position, found, held⟩
    rw [List.getElem?_mapIdx, Option.map_eq_some_iff] at found
    obtain ⟨item, found, rfl⟩ := found
    exact .item found held
  · rintro ⟨found, held⟩
    exact .inside _ (by rw [List.getElem?_mapIdx, found]; rfl) held

theorem enumerates_citations (known : List String) (breach : String → Breach)
    (citations : List String) :
    Enumerates (citations.flatMap fun id => report (!known.contains id) (breach id))
      (OnItems citations fun _ id => Reports (id ∉ known) (breach id)) := by
  have same : citations.flatMap (fun id => report (!known.contains id) (breach id)) =
      onEach (fun _ id => report (!known.contains id) (breach id)) citations := by
    conv_lhs => rw [← List.zipIdx_map_fst 0 citations, List.flatMap_map]
    rfl
  rw [same]
  exact enumerates_onEach (fun _ id => enumerates_report (by simp) (breach id)) citations

end Reports

theorem isBlank_iff {text : String} : isBlank text = true ↔ Text.AllBlank text.toList := by
  rw [isBlank, List.all_eq_true]
  rfl

/-! Slides -/

theorem enumerates_slideRules (known : List String) (position : Nat) (slide : Slide) :
    Enumerates (slideRules known position slide)
      (SlideBreaks {id | id ∈ known} position slide) := by
  have title := enumerates_excess slideTitleLimit (wordCount slide.title)
    (.slideTitle position (wordCount slide.title))
  have content := enumerates_report
    (show (slide.bullets.isEmpty && slide.figureStubs.isEmpty) = true ↔
      slide.bullets = [] ∧ slide.figureStubs = [] by simp) (.emptySlide position)
  have bullets := enumerates_onEach (fun index bullet => enumerates_excess bulletLimit
    (wordCount bullet) (.bullet position index (wordCount bullet))) slide.bullets
  have total := enumerates_excess slideBulletsLimit (bulletWords slide)
    (.bulletTotal position (bulletWords slide))
  have citations := enumerates_citations known (.slideCitation position) slide.citations
  have stubs := enumerates_onEach (fun index (figure : FigureStub) =>
    enumerates_report (@isBlank_iff figure.stub) (.blankStub position index)) slide.figureStubs
  refine (title.firstSection.nextSection content |>.nextSection bullets |>.nextSection total
    |>.nextSection citations |>.nextSection stubs).congr fun place breach => ?_
  rw [bulletWords, total_eq_sum]
  constructor
  · rintro ⟨number, found, held⟩
    simp only [List.cons_append, List.nil_append] at found
    match number, found with
    | 0, rfl =>
        obtain ⟨long⟩ := held
        exact .title long
    | 1, rfl =>
        obtain ⟨noBullet, noFigure⟩ := held
        exact .content noBullet noFigure
    | 2, rfl =>
        obtain ⟨found, ⟨long⟩⟩ := held
        exact .bullet found long
    | 3, rfl =>
        obtain ⟨long⟩ := held
        exact .bulletTotal long
    | 4, rfl =>
        obtain ⟨found, ⟨unknown⟩⟩ := held
        exact .citation found unknown
    | 5, rfl =>
        obtain ⟨found, ⟨blank⟩⟩ := held
        exact .stub found blank
  · intro broken
    cases broken with
    | title long => exact .inside 0 rfl ⟨long⟩
    | content noBullet noFigure => exact .inside 1 rfl ⟨noBullet, noFigure⟩
    | bullet found long => exact .inside 2 rfl ⟨found, ⟨long⟩⟩
    | bulletTotal long => exact .inside 3 rfl ⟨long⟩
    | citation found unknown => exact .inside 4 rfl ⟨found, ⟨unknown⟩⟩
    | stub found blank => exact .inside 5 rfl ⟨found, ⟨blank⟩⟩

/-! Sources -/

theorem enumerates_duplicateSources (sources : List Source) :
    Enumerates (duplicateSources sources) fun place breach =>
      ∃ ids, Reports (RepeatsIds sources ids) (.duplicateSources ids) place breach := by
  have listed := enumerates_repeats (sources.map Source.id)
  have again : (!(repeats (sourceIds sources)).isEmpty) = true ↔ ¬(sources.map Source.id).Nodup := by
    rw [← repeats_eq_nil_iff, Bool.not_eq_true', List.isEmpty_eq_false_iff]
    rfl
  refine (enumerates_report again _).congr fun place breach => ?_
  constructor
  · rintro ⟨repeated⟩
    exact ⟨_, .here ⟨repeated, listed⟩⟩
  · rintro ⟨ids, ⟨repeated, others⟩⟩
    rw [others.unique listed]
    exact .here repeated

theorem enumerates_noSource (sources : List Source) :
    Enumerates (noSource sources) (Reports (sources = []) .noSource) :=
  enumerates_report List.isEmpty_iff .noSource

theorem known_eq (sources : List Source) :
    {id | id ∈ sourceIds sources} = {id | ∃ source ∈ sources, source.id = id} := by
  ext id
  simp [sourceIds]

/-! Decks -/

theorem hasSlideCount_iff (deck : SlideDeck) : (!hasSlideCount deck) = true ↔
    ∀ count, deck.info.slideCount = some count →
      (count == Float.ofNat deck.slides.length) = false := by
  rw [hasSlideCount]
  cases deck.info.slideCount with
  | none => simp
  | some declared => simp

theorem enumerates_deckRules (deck : SlideDeck) :
    Enumerates (deckRules deck) (DeckBreaks deck) := by
  have slideCount := enumerates_report (hasSlideCount_iff deck)
    (.slideCount deck.info.slideCount deck.slides.length)
  have duplicates := enumerates_duplicateSources deck.sources
  have slides := enumerates_onEach (enumerates_slideRules (sourceIds deck.sources)) deck.slides
  have source := enumerates_noSource deck.sources
  have citation := enumerates_report
    (show (deck.slides.all fun slide => slide.citations.isEmpty) = true ↔
      ∀ slide ∈ deck.slides, slide.citations = [] by simp) .noSlideCitation
  have total := enumerates_excess deckLimit (deckWords deck) (.deckTotal (deckWords deck))
  rw [known_eq] at slides
  refine (slideCount.firstSection.nextSection duplicates |>.nextSection slides
    |>.nextSection source |>.nextSection citation |>.nextSection total).congr fun place breach => ?_
  rw [deckWords_eq]
  constructor
  · rintro ⟨number, found, held⟩
    simp only [List.cons_append, List.nil_append] at found
    match number, found with
    | 0, rfl =>
        obtain ⟨different⟩ := held
        exact .slideCount different
    | 1, rfl =>
        obtain ⟨ids, ⟨repeated⟩⟩ := held
        exact .duplicates repeated
    | 2, rfl =>
        obtain ⟨found, broken⟩ := held
        exact .slide found broken
    | 3, rfl =>
        obtain ⟨nothing⟩ := held
        exact .source nothing
    | 4, rfl =>
        obtain ⟨nothing⟩ := held
        exact .citation nothing
    | 5, rfl =>
        obtain ⟨long⟩ := held
        exact .total long
  · intro broken
    cases broken with
    | slideCount different => exact .inside 0 rfl ⟨different⟩
    | duplicates repeated => exact .inside 1 rfl ⟨_, ⟨repeated⟩⟩
    | slide found broken => exact .inside 2 rfl ⟨found, broken⟩
    | source nothing => exact .inside 3 rfl ⟨nothing⟩
    | citation nothing => exact .inside 4 rfl ⟨nothing⟩
    | total long => exact .inside 5 rfl ⟨long⟩

/-! Pages -/

theorem enumerates_itemRules (part : String) (limit : Nat) (items : List String) :
    Enumerates (itemRules part limit items) (TooLong part limit items) := by
  refine (enumerates_onEach (fun index item => enumerates_excess limit (wordCount item)
    (.pageItem part index limit (wordCount item))) items).congr fun place breach => ?_
  constructor
  · rintro ⟨found, ⟨long⟩⟩
    exact .item found long
  · rintro ⟨found, long⟩
    exact .item found (.here long)

theorem enumerates_unknownCitations (page : OnePager) :
    Enumerates (unknownCitations page) page.FirstUnknown := by
  refine (enumerates_eraseDups page.citations _).congr fun index id => ?_
  rw [OnePager.FirstUnknown]
  simp [sourceIds]

theorem enumerates_budgetRule (page : OnePager) :
    Enumerates (budgetRule page) fun place breach => ∃ budget,
      Reports (page.info.wordBudget = some budget ∧ budget < Float.ofNat (pageWords page))
        (.wordBudget budget (pageWords page)) place breach := by
  rw [budgetRule]
  cases page.info.wordBudget with
  | none =>
      refine .nil fun place breach reported => ?_
      obtain ⟨budget, ⟨⟨⟩, -⟩⟩ := reported
  | some budget =>
      refine (enumerates_report decide_eq_true_iff _).congr fun place breach => ?_
      constructor
      · rintro ⟨long⟩
        exact ⟨budget, .here ⟨rfl, long⟩⟩
      · rintro ⟨_, ⟨⟨⟩, long⟩⟩
        exact .here long

theorem enumerates_pageRules (page : OnePager) :
    Enumerates (pageRules page) (PageBreaks page) := by
  have duplicates := enumerates_duplicateSources page.sources
  have problem := enumerates_excess problemLimit (wordCount page.problem)
    (.problem (wordCount page.problem))
  have keyFacts := enumerates_itemRules "keyFacts" factLimit page.keyFacts
  have implications := enumerates_itemRules "implications" factLimit page.implications
  have actions := enumerates_itemRules "actions" actionLimit page.actions
  have citation := enumerates_report (List.isEmpty_iff (l := page.citations)) .noPageCitation
  have listed := enumerates_unknownCitations page
  have unknown := enumerates_report
    (show (!(unknownCitations page).isEmpty) = true ↔ unknownCitations page ≠ [] by simp)
    (.pageCitations (unknownCitations page))
  have budget := enumerates_budgetRule page
  have source := enumerates_noSource page.sources
  refine (duplicates.firstSection.nextSection problem |>.nextSection keyFacts
    |>.nextSection implications |>.nextSection actions |>.nextSection citation
    |>.nextSection unknown |>.nextSection budget |>.nextSection source).congr
    fun place breach => ?_
  rw [pageWords_eq]
  constructor
  · rintro ⟨number, found, held⟩
    simp only [List.cons_append, List.nil_append] at found
    match number, found with
    | 0, rfl =>
        obtain ⟨ids, ⟨repeated⟩⟩ := held
        exact .duplicates repeated
    | 1, rfl =>
        obtain ⟨long⟩ := held
        exact .problem long
    | 2, rfl => exact .keyFact held
    | 3, rfl => exact .implication held
    | 4, rfl => exact .action held
    | 5, rfl =>
        obtain ⟨nothing⟩ := held
        exact .citation nothing
    | 6, rfl =>
        obtain ⟨some⟩ := held
        exact .unknown some listed
    | 7, rfl =>
        obtain ⟨budget, ⟨given, long⟩⟩ := held
        exact .budget given long
    | 8, rfl =>
        obtain ⟨nothing⟩ := held
        exact .source nothing
  · intro broken
    cases broken with
    | duplicates repeated => exact .inside 0 rfl ⟨_, ⟨repeated⟩⟩
    | problem long => exact .inside 1 rfl ⟨long⟩
    | keyFact broken => exact .inside 2 rfl broken
    | implication broken => exact .inside 3 rfl broken
    | action broken => exact .inside 4 rfl broken
    | citation nothing => exact .inside 5 rfl ⟨nothing⟩
    | @unknown ids some others =>
        obtain rfl := others.unique listed
        exact .inside 6 rfl ⟨some⟩
    | budget given long => exact .inside 7 rfl ⟨_, ⟨given, long⟩⟩
    | source nothing => exact .inside 8 rfl ⟨nothing⟩

/-! Flashcards -/

theorem enumerates_cardRules (known : List String) (position : Nat) (card : Card) :
    Enumerates (cardRules known position card) (CardBreaks {id | id ∈ known} position card) := by
  have question := enumerates_excess questionLimit (wordCount card.question)
    (.question position (wordCount card.question))
  have answer := enumerates_excess answerLimit (wordCount card.answer)
    (.answer position (wordCount card.answer))
  have citations := enumerates_citations known (.cardCitation position) card.citations
  refine (question.firstSection.nextSection answer |>.nextSection citations).congr
    fun place breach => ?_
  constructor
  · rintro ⟨number, found, held⟩
    simp only [List.cons_append, List.nil_append] at found
    match number, found with
    | 0, rfl =>
        obtain ⟨long⟩ := held
        exact .question long
    | 1, rfl =>
        obtain ⟨long⟩ := held
        exact .answer long
    | 2, rfl =>
        obtain ⟨found, ⟨unknown⟩⟩ := held
        exact .citation found unknown
  · intro broken
    cases broken with
    | question long => exact .inside 0 rfl ⟨long⟩
    | answer long => exact .inside 1 rfl ⟨long⟩
    | citation found unknown => exact .inside 2 rfl ⟨found, ⟨unknown⟩⟩

theorem enumerates_flashcardsRules (set : Flashcards) :
    Enumerates (flashcardsRules set) (CardsBreak set) := by
  have duplicates := enumerates_duplicateSources set.sources
  have cards := enumerates_onEach (enumerates_cardRules (sourceIds set.sources)) set.cards
  have citation := enumerates_report
    (show (set.cards.all fun card => card.citations.isEmpty) = true ↔
      ∀ card ∈ set.cards, card.citations = [] by simp) .noCardCitation
  have source := enumerates_noSource set.sources
  rw [known_eq] at cards
  refine (duplicates.firstSection.nextSection cards |>.nextSection citation
    |>.nextSection source).congr fun place breach => ?_
  constructor
  · rintro ⟨number, found, held⟩
    simp only [List.cons_append, List.nil_append] at found
    match number, found with
    | 0, rfl =>
        obtain ⟨ids, ⟨repeated⟩⟩ := held
        exact .duplicates repeated
    | 1, rfl =>
        obtain ⟨found, broken⟩ := held
        exact .card found broken
    | 2, rfl =>
        obtain ⟨nothing⟩ := held
        exact .citation nothing
    | 3, rfl =>
        obtain ⟨nothing⟩ := held
        exact .source nothing
  · intro broken
    cases broken with
    | duplicates repeated => exact .inside 0 rfl ⟨_, ⟨repeated⟩⟩
    | card found broken => exact .inside 1 rfl ⟨found, broken⟩
    | citation nothing => exact .inside 2 rfl ⟨nothing⟩
    | source nothing => exact .inside 3 rfl ⟨nothing⟩

end Rules

namespace Deliverable

open Rules

end Deliverable

end Authoring
