import Mathlib
import Authoring.Proofs.Deliverable.Breaks

/-! What a deliverable is like when it breaks no rule. -/

namespace Authoring

namespace Rules

structure SlideKept (known : List String) (slide : Slide) : Prop where
  title : Text.wordCount slide.title ≤ 12
  bullets : ∀ bullet ∈ slide.bullets, Text.wordCount bullet ≤ 24
  total : bulletWords slide ≤ 60
  citations : ∀ id ∈ slide.citations, id ∈ known

theorem slide_kept {sources : List Source} {position : Nat} {slide : Slide}
    (kept : ∀ place breach, ¬SlideBreaks {id | ∃ source ∈ sources, source.id = id} position slide
      place breach) : SlideKept (sourceIds sources) slide where
  title := not_lt.mp fun long => kept _ _ (.title long)
  bullets := by
    intro bullet member
    obtain ⟨index, found⟩ := List.mem_iff_getElem?.mp member
    exact not_lt.mp fun long => kept _ _ (.bullet found long)
  total := by
    rw [bulletWords, total_eq_sum]
    exact not_lt.mp fun long => kept _ _ (.bulletTotal long)
  citations := by
    intro id member
    obtain ⟨index, found⟩ := List.mem_iff_getElem?.mp member
    by_contra unknown
    exact kept _ _ (.citation found fun known => unknown (List.mem_map.mpr known))

structure DeckKept (deck : SlideDeck) : Prop where
  slideCount : hasSlideCount deck = true
  distinct : (sourceIds deck.sources).Nodup
  sources : deck.sources ≠ []
  slides : ∀ slide ∈ deck.slides, SlideKept (sourceIds deck.sources) slide
  cites : ∃ slide ∈ deck.slides, slide.citations ≠ []
  total : deckWords deck ≤ 1500

theorem deck_kept {deck : SlideDeck} (kept : deckRules deck = []) : DeckKept deck := by
  have nothing := (kept ▸ enumerates_deckRules deck).nothing
  refine ⟨?_, ?_, fun none => nothing _ _ (.source none), fun slide member => ?_, ?_, ?_⟩
  · by_contra missing
    exact nothing _ _ (.slideCount ((hasSlideCount_iff deck).mp (by simpa using missing)))
  · by_contra again
    exact nothing _ _ (.duplicates ⟨again, enumerates_repeats _⟩)
  · obtain ⟨position, found⟩ := List.mem_iff_getElem?.mp member
    exact slide_kept fun _ _ broken => nothing _ _ (.slide found broken)
  · by_contra none
    push Not at none
    exact nothing _ _ (.citation none)
  · rw [deckWords_eq]
    exact not_lt.mp fun long => nothing _ _ (.total long)

structure PageKept (page : OnePager) : Prop where
  distinct : (sourceIds page.sources).Nodup
  sources : page.sources ≠ []
  problem : Text.wordCount page.problem ≤ 120
  keyFacts : ∀ fact ∈ page.keyFacts, Text.wordCount fact ≤ 30
  implications : ∀ implication ∈ page.implications, Text.wordCount implication ≤ 30
  actions : ∀ action ∈ page.actions, Text.wordCount action ≤ 20
  cites : page.citations ≠ []
  citations : ∀ id ∈ page.citations, id ∈ sourceIds page.sources
  budget : ∀ budget, page.info.wordBudget = some budget → ¬ budget < Float.ofNat (pageWords page)

theorem items_short {part : String} {limit : Nat} {items : List String}
    (kept : ∀ place breach, ¬TooLong part limit items place breach) :
    ∀ item ∈ items, Text.wordCount item ≤ limit := by
  intro item member
  obtain ⟨index, found⟩ := List.mem_iff_getElem?.mp member
  exact not_lt.mp fun long => kept _ _ (.item found long)

theorem known_of_unknownCitations {page : OnePager} (none : unknownCitations page = []) :
    ∀ id ∈ page.citations, id ∈ sourceIds page.sources := by
  intro id member
  by_contra unknown
  have filtered : id ∈ page.citations.filter fun id => !(sourceIds page.sources).contains id :=
    List.mem_filter.mpr ⟨member, by simpa using unknown⟩
  unfold unknownCitations at none
  generalize page.citations.filter _ = left at filtered none
  cases left with
  | nil => cases filtered
  | cons first rest =>
      rw [List.eraseDups_cons] at none
      cases none

theorem page_kept {page : OnePager} (kept : pageRules page = []) : PageKept page := by
  have nothing := (kept ▸ enumerates_pageRules page).nothing
  refine ⟨?_, fun none => nothing _ _ (.source none), ?_, ?_, ?_, ?_,
    fun none => nothing _ _ (.citation none), ?_, fun budget given long => ?_⟩
  · by_contra again
    exact nothing _ _ (.duplicates ⟨again, enumerates_repeats _⟩)
  · exact not_lt.mp fun long => nothing _ _ (.problem long)
  · exact items_short fun _ _ broken => nothing _ _ (.keyFact broken)
  · exact items_short fun _ _ broken => nothing _ _ (.implication broken)
  · exact items_short fun _ _ broken => nothing _ _ (.action broken)
  · refine known_of_unknownCitations ?_
    by_contra some
    exact nothing _ _ (.unknown some (enumerates_unknownCitations page))
  · rw [pageWords_eq] at long
    exact nothing _ _ (.budget given long)

structure CardKept (known : List String) (card : Card) : Prop where
  question : Text.wordCount card.question ≤ 20
  answer : Text.wordCount card.answer ≤ 60
  citations : ∀ id ∈ card.citations, id ∈ known

theorem card_kept {sources : List Source} {position : Nat} {card : Card}
    (kept : ∀ place breach, ¬CardBreaks {id | ∃ source ∈ sources, source.id = id} position card
      place breach) : CardKept (sourceIds sources) card where
  question := not_lt.mp fun long => kept _ _ (.question long)
  answer := not_lt.mp fun long => kept _ _ (.answer long)
  citations := by
    intro id member
    obtain ⟨index, found⟩ := List.mem_iff_getElem?.mp member
    by_contra unknown
    exact kept _ _ (.citation found fun known => unknown (List.mem_map.mpr known))

structure CardsKept (set : Flashcards) : Prop where
  distinct : (sourceIds set.sources).Nodup
  sources : set.sources ≠ []
  cards : ∀ card ∈ set.cards, CardKept (sourceIds set.sources) card
  cites : ∃ card ∈ set.cards, card.citations ≠ []

theorem cards_kept {set : Flashcards} (kept : flashcardsRules set = []) : CardsKept set := by
  have nothing := (kept ▸ enumerates_flashcardsRules set).nothing
  refine ⟨?_, fun none => nothing _ _ (.source none), fun card member => ?_, ?_⟩
  · by_contra again
    exact nothing _ _ (.duplicates ⟨again, enumerates_repeats _⟩)
  · obtain ⟨position, found⟩ := List.mem_iff_getElem?.mp member
    exact card_kept fun _ _ broken => nothing _ _ (.card found broken)
  · by_contra none
    push Not at none
    exact nothing _ _ (.citation none)

end Rules

end Authoring
