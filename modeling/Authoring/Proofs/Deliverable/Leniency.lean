import Mathlib
import Authoring.Proofs.Deliverable.Forms
import Authoring.Proofs.Deliverable.Items

/-! How far a wrong value reaches. A field of an item is read by itself, and so is an item of a
list, with one exception: an item that has something else in the place of a list is not read at all,
and counts as empty. -/

namespace Authoring

open Decoder (itemsOr valueOr)

inductive ItemPlace where
  | slide (position : Nat)
  | figure (outer position : Nat)
  | card (position : Nat)
  | source (position : Nat)

namespace ItemPlace

def Item : ItemPlace → Type
  | slide _ => Slide
  | figure _ _ => FigureStub
  | card _ => Card
  | source _ => Source

def decoder : (place : ItemPlace) → Decoder place.Item
  | slide _ => Slide.decoder
  | figure _ _ => FigureStub.decoder
  | card _ => Card.decoder
  | source _ => Source.decoder

def empty : (place : ItemPlace) → place.Item
  | slide _ => Slide.empty
  | figure _ _ => FigureStub.empty
  | card _ => Card.empty
  | source _ => Source.empty

def listFields : ItemPlace → List String
  | slide _ => Slide.listFields
  | card _ => Card.listFields
  | figure _ _ | source _ => []

def AgreeBut (name : String) : (place : ItemPlace) → (item other : place.Item) → Prop
  | slide _ => Slide.AgreeBut name
  | figure _ _ => FigureStub.AgreeBut name
  | card _ => Card.AgreeBut name
  | source _ => Source.AgreeBut name

/-- What a new value in the named field makes of the item. With something else in the place of a
list there is no item. -/
def Follows (name : String) (old new : Json) (place : ItemPlace) (item edited : place.Item) :
    Prop :=
  ((name ∈ place.listFields → old.items?.isSome ∧ new.items?.isSome) →
    place.AgreeBut name item edited) ∧
  (name ∈ place.listFields → (old.items? = none → item = place.empty) ∧
    (new.items? = none → edited = place.empty))

theorem follows {name : String} {old new left right : Json} (place : ItemPlace)
    (replaces : Json.Replaces name old new left right) (distinct : left.Distinct)
    (changedDistinct : right.Distinct) :
    place.Follows name old new (valueOr place.empty place.decoder left)
      (valueOr place.empty place.decoder right) := by
  cases place with
  | slide _ =>
      exact Slide.byField.replaced (Slide.AgreeBut.refl name _)
        (fun _ _ => Slide.ofNamed_agreeBut) replaces distinct changedDistinct
  | figure _ _ =>
      exact FigureStub.byField.replaced (FigureStub.AgreeBut.refl name _)
        (fun _ _ => FigureStub.ofNamed_agreeBut) replaces distinct changedDistinct
  | card _ =>
      exact Card.byField.replaced (Card.AgreeBut.refl name _)
        (fun _ _ => Card.ofNamed_agreeBut) replaces distinct changedDistinct
  | source _ =>
      exact Source.byField.replaced (Source.AgreeBut.refl name _)
        (fun _ _ => Source.ofNamed_agreeBut) replaces distinct changedDistinct

def Changes (kind : DocumentKind) (inside : Json → Json → Prop) : ItemPlace → Json → Json → Prop
  | slide position => Json.InPart ("kind" :: kind.fieldNames) "slides" (Json.InItem position inside)
  | figure outer position =>
      Json.InPart ("kind" :: kind.fieldNames) "slides" (Json.InItem outer
        (Json.InPart Slide.fieldNames "figureStubs" (Json.InItem position inside)))
  | card position => Json.InPart ("kind" :: kind.fieldNames) "cards" (Json.InItem position inside)
  | source position =>
      Json.InPart ("kind" :: kind.fieldNames) "sources" (Json.InItem position inside)

end ItemPlace

namespace Deliverable

def item? : Deliverable → (place : ItemPlace) → Option place.Item
  | slideDeck deck, .slide position => deck.slides[position]?
  | slideDeck deck, .figure outer position =>
      deck.slides[outer]?.bind fun slide => slide.figureStubs[position]?
  | flashcards set, .card position => set.cards[position]?
  | deliverable, .source position => deliverable.sources[position]?
  | _, .slide _ | _, .figure _ _ | _, .card _ => none

def setSources (sources : List Source) : Deliverable → Deliverable
  | slideDeck deck => slideDeck { deck with sources }
  | onePager page => onePager { page with sources }
  | flashcards set => flashcards { set with sources }

def setItem : Deliverable → (place : ItemPlace) → place.Item → Deliverable
  | slideDeck deck, .slide position, item =>
      slideDeck { deck with slides := deck.slides.set position item }
  | slideDeck deck, .figure outer position, item =>
      slideDeck { deck with
        slides := deck.slides.modify outer fun slide =>
          { slide with figureStubs := slide.figureStubs.set position item } }
  | flashcards set, .card position, item =>
      flashcards { set with cards := set.cards.set position item }
  | deliverable, .source position, item =>
      deliverable.setSources (deliverable.sources.set position item)
  | deliverable, .slide _, _ | deliverable, .figure _ _, _ | deliverable, .card _, _ => deliverable

variable {document changed : Json} {deliverable : Deliverable} {kind : DocumentKind}
  {held after : Fields Json}

theorem ofNamed_congr
    (same : ∀ name ∈ kind.fieldNames, Fields.get? name after = Fields.get? name held) :
    ofNamed after kind = ofNamed held kind := by
  cases kind with
  | slideDeck =>
      simp only [ofNamed, SlideDeck.ofNamed, same "meta" (by decide), same "slides" (by decide),
        same "sources" (by decide)]
  | onePager =>
      simp only [ofNamed, OnePager.ofNamed, same "meta" (by decide), same "problem" (by decide),
        same "keyFacts" (by decide), same "implications" (by decide), same "actions" (by decide),
        same "citations" (by decide), same "sources" (by decide)]
  | flashcards =>
      simp only [ofNamed, Flashcards.ofNamed, same "meta" (by decide), same "cards" (by decide),
        same "sources" (by decide)]

theorem decodes_changes {α : Type} {name : String} {position : Nat} {inside : Json → Json → Prop}
    (default : α) (itemDecoder : Decoder α) (distinct : document.Distinct)
    (changedDistinct : changed.Distinct) (decoded : decoder.decodeJson document = .ok deliverable)
    (differ : Json.InPart ("kind" :: deliverable.kind.fieldNames) name
      (Json.InItem position inside) document changed) :
    ∃ held after old new, ofNamed held deliverable.kind = deliverable ∧
      decoder.decodeJson changed = .ok (ofNamed after deliverable.kind) ∧
      (∀ other, other ≠ name → Fields.get? other after = Fields.get? other held) ∧
      inside old new ∧ old.Distinct ∧ new.Distinct ∧
      (itemsOr default itemDecoder (Fields.get? name held))[position]? =
        some (valueOr default itemDecoder old) ∧
      itemsOr default itemDecoder (Fields.get? name after) =
        (itemsOr default itemDecoder (Fields.get? name held)).set position
          (valueOr default itemDecoder new) := by
  obtain ⟨held, listed, kindFound, made⟩ := (decodes_eq_ok_iff distinct).mp decoded
  have namesDistinct := deliverable.kind.names_distinct
  obtain ⟨other, after, heldListed, afterListed, inField⟩ | ⟨unlisted, _⟩ :=
    differ.listed namesDistinct fun _ _ inItem _ =>
      iff_of_true inItem.items?_isSome.1 inItem.items?_isSome.2
  · cases heldListed.1.symm.trans listed.1
    obtain ⟨_, _, _, _, same, again, _, inItem, oldFound, _, others⟩ := inField.lookups
    cases same
    cases again
    -- A list is changed, and the kind is none.
    have notKind : "kind" ≠ name := by
      rintro rfl
      rw [kindFound] at oldFound
      cases oldFound
      cases inItem
    obtain ⟨old, new, change, oldDistinct, newDistinct, item, items⟩ :=
      @Decoder.itemsOr_changes _ itemDecoder default _ _ _ _ _ inField
        (named_distinct distinct listed.1) (named_distinct changedDistinct afterListed.1)
    refine ⟨held, after, old, new, made, ?_, others, change, oldDistinct, newDistinct, item, items⟩
    rw [decodes_eq_ok_iff changedDistinct, kind_ofNamed]
    exact ⟨after, afterListed, (others "kind" notKind).trans kindFound, rfl⟩
  · exact absurd listed (unlisted held)

theorem slide_changes {left right : Json} {position : Nat} {inside : Json → Json → Prop}
    (distinct : left.Distinct) (changedDistinct : right.Distinct)
    (differ : Json.InPart Slide.fieldNames "figureStubs" (Json.InItem position inside) left right) :
    (valueOr Slide.empty Slide.decoder left = Slide.empty ∧
      valueOr Slide.empty Slide.decoder right = Slide.empty) ∨
    ∃ old new, inside old new ∧ old.Distinct ∧ new.Distinct ∧
      (valueOr Slide.empty Slide.decoder left).figureStubs[position]? =
        some (valueOr FigureStub.empty FigureStub.decoder old) ∧
      valueOr Slide.empty Slide.decoder right =
        { valueOr Slide.empty Slide.decoder left with
          figureStubs := (valueOr Slide.empty Slide.decoder left).figureStubs.set position
            (valueOr FigureStub.empty FigureStub.decoder new) } := by
  have byField := Slide.byField
  obtain ⟨held, after, heldListed, afterListed, inField⟩ | ⟨unlisted, unlistedToo⟩ :=
    differ.listed byField.distinct fun _ _ inItem _ =>
      iff_of_true inItem.items?_isSome.1 inItem.items?_isSome.2
  · obtain ⟨old, new, change, oldDistinct, newDistinct, item, items⟩ :=
      @Decoder.itemsOr_changes _ FigureStub.decoder FigureStub.empty _ _ _ _ _ inField
        (Json.named?_distinct distinct byField.distinct heldListed.1)
        (Json.named?_distinct changedDistinct byField.distinct afterListed.1)
    obtain ⟨_, _, _, _, same, again, _, _, _, _, others⟩ := inField.lookups
    cases same
    cases again
    rw [byField.valueOr_of_listed distinct heldListed,
      byField.valueOr_of_listed changedDistinct afterListed]
    refine .inr ⟨old, new, change, oldDistinct, newDistinct, item, ?_⟩
    simp only [Slide.ofNamed, items, others "title" (by decide), others "bullets" (by decide),
      others "citations" (by decide), others "notes" (by decide)]
  · exact .inl ⟨byField.valueOr_of_unlisted distinct unlisted,
      byField.valueOr_of_unlisted changedDistinct unlistedToo⟩

def EditedAt (place : ItemPlace) (name : String) (old new : Json)
    (deliverable result : Deliverable) : Prop :=
  (deliverable.item? place = none → result = deliverable) ∧
  ∀ item, deliverable.item? place = some item →
    ∃ edited, result = deliverable.setItem place edited ∧ place.Follows name old new item edited

section Edited

variable {place : ItemPlace} {name : String} {old new : Json} {result : Deliverable}

theorem editedAt_of_item {item edited : place.Item} (found : deliverable.item? place = some item)
    (same : result = deliverable.setItem place edited)
    (follows : place.Follows name old new item edited) :
    EditedAt place name old new deliverable result := by
  refine ⟨fun missing => ?_, fun other again => ⟨edited, same, ?_⟩⟩
  · rw [found] at missing
    cases missing
  · rw [found] at again
    cases again
    exact follows

theorem editedAt_of_none (missing : deliverable.item? place = none) (same : result = deliverable) :
    EditedAt place name old new deliverable result := by
  refine ⟨fun _ => same, fun item found => ?_⟩
  rw [missing] at found
  cases found

theorem editedAt_absent {key : String} (unknown : key ∉ kind.fieldNames)
    (others : ∀ other, other ≠ key → Fields.get? other after = Fields.get? other held)
    (missing : (ofNamed held kind).item? place = none) :
    EditedAt place name old new (ofNamed held kind) (ofNamed after kind) := by
  refine editedAt_of_none missing (ofNamed_congr fun other known => others other ?_)
  rintro rfl
  exact unknown known

theorem editedAt_slide {position : Nat} {slide edited : Slide}
    (others : ∀ other, other ≠ "slides" → Fields.get? other after = Fields.get? other held)
    (found : (itemsOr Slide.empty Slide.decoder (Fields.get? "slides" held))[position]? =
      some slide)
    (slides : itemsOr Slide.empty Slide.decoder (Fields.get? "slides" after) =
      (itemsOr Slide.empty Slide.decoder (Fields.get? "slides" held)).set position edited)
    (follows : (ItemPlace.slide position).Follows name old new slide edited) :
    EditedAt (.slide position) name old new (ofNamed held kind) (ofNamed after kind) := by
  cases kind with
  | slideDeck =>
      refine editedAt_of_item found ?_ follows
      simp only [ofNamed, SlideDeck.ofNamed, slides, others "meta" (by decide),
        others "sources" (by decide)]
      rfl
  | onePager | flashcards => exact editedAt_absent (by decide) others rfl

theorem editedAt_figure {outer position : Nat} {slide : Slide} {figure edited : FigureStub}
    (others : ∀ other, other ≠ "slides" → Fields.get? other after = Fields.get? other held)
    (found : (itemsOr Slide.empty Slide.decoder (Fields.get? "slides" held))[outer]? = some slide)
    (figureFound : slide.figureStubs[position]? = some figure)
    (slides : itemsOr Slide.empty Slide.decoder (Fields.get? "slides" after) =
      (itemsOr Slide.empty Slide.decoder (Fields.get? "slides" held)).set outer
        { slide with figureStubs := slide.figureStubs.set position edited })
    (follows : (ItemPlace.figure outer position).Follows name old new figure edited) :
    EditedAt (.figure outer position) name old new (ofNamed held kind) (ofNamed after kind) := by
  cases kind with
  | slideDeck =>
      refine editedAt_of_item ?_ ?_ follows
      · exact (congrArg (Option.bind · _) found).trans figureFound
      · simp only [ofNamed, SlideDeck.ofNamed, setItem, slides, others "meta" (by decide),
          others "sources" (by decide), List.modify_eq_set_getElem?, found]
        rfl
  | onePager | flashcards => exact editedAt_absent (by decide) others rfl

theorem editedAt_emptied {outer position : Nat}
    (others : ∀ other, other ≠ "slides" → Fields.get? other after = Fields.get? other held)
    (found : (itemsOr Slide.empty Slide.decoder (Fields.get? "slides" held))[outer]? =
      some Slide.empty)
    (slides : itemsOr Slide.empty Slide.decoder (Fields.get? "slides" after) =
      (itemsOr Slide.empty Slide.decoder (Fields.get? "slides" held)).set outer Slide.empty) :
    EditedAt (.figure outer position) name old new (ofNamed held kind) (ofNamed after kind) := by
  cases kind with
  | slideDeck =>
      refine editedAt_of_none ?_ ?_
      · exact congrArg (Option.bind · _) found
      · obtain ⟨bound, same⟩ := List.getElem?_eq_some_iff.mp found
        have unchanged := List.set_getElem_self bound
        rw [same] at unchanged
        rw [unchanged] at slides
        simp only [ofNamed, SlideDeck.ofNamed, slides, others "meta" (by decide),
          others "sources" (by decide)]
  | onePager | flashcards => exact editedAt_absent (by decide) others rfl

theorem editedAt_card {position : Nat} {card edited : Card}
    (others : ∀ other, other ≠ "cards" → Fields.get? other after = Fields.get? other held)
    (found : (itemsOr Card.empty Card.decoder (Fields.get? "cards" held))[position]? = some card)
    (cards : itemsOr Card.empty Card.decoder (Fields.get? "cards" after) =
      (itemsOr Card.empty Card.decoder (Fields.get? "cards" held)).set position edited)
    (follows : (ItemPlace.card position).Follows name old new card edited) :
    EditedAt (.card position) name old new (ofNamed held kind) (ofNamed after kind) := by
  cases kind with
  | flashcards =>
      refine editedAt_of_item found ?_ follows
      simp only [ofNamed, Flashcards.ofNamed, cards, others "meta" (by decide),
        others "sources" (by decide)]
      rfl
  | slideDeck | onePager => exact editedAt_absent (by decide) others rfl

theorem editedAt_source {position : Nat} {source edited : Source}
    (others : ∀ other, other ≠ "sources" → Fields.get? other after = Fields.get? other held)
    (found : (itemsOr Source.empty Source.decoder (Fields.get? "sources" held))[position]? =
      some source)
    (sources : itemsOr Source.empty Source.decoder (Fields.get? "sources" after) =
      (itemsOr Source.empty Source.decoder (Fields.get? "sources" held)).set position edited)
    (follows : (ItemPlace.source position).Follows name old new source edited) :
    EditedAt (.source position) name old new (ofNamed held kind) (ofNamed after kind) := by
  cases kind with
  | slideDeck =>
      refine editedAt_of_item found ?_ follows
      simp only [ofNamed, SlideDeck.ofNamed, sources, others "meta" (by decide),
        others "slides" (by decide)]
      rfl
  | onePager =>
      refine editedAt_of_item found ?_ follows
      simp only [ofNamed, OnePager.ofNamed, sources, others "meta" (by decide),
        others "problem" (by decide), others "keyFacts" (by decide),
        others "implications" (by decide), others "actions" (by decide),
        others "citations" (by decide)]
      rfl
  | flashcards =>
      refine editedAt_of_item found ?_ follows
      simp only [ofNamed, Flashcards.ofNamed, sources, others "meta" (by decide),
        others "cards" (by decide)]
      rfl

end Edited

theorem editedAt_of_changes {place : ItemPlace} {name : String} {old new : Json}
    (distinct : document.Distinct) (changedDistinct : changed.Distinct)
    (decoded : decoder.decodeJson document = .ok deliverable)
    (edit : place.Changes deliverable.kind (Json.Replaces name old new) document changed) :
    ∃ result, decoder.decodeJson changed = .ok result ∧
      EditedAt place name old new deliverable result := by
  cases place with
  | slide position =>
      obtain ⟨held, after, left, right, made, decodedToo, others, replaces, leftDistinct,
        rightDistinct, found, slides⟩ :=
        decodes_changes Slide.empty Slide.decoder distinct changedDistinct decoded edit
      have edited := @editedAt_slide deliverable.kind _ _ _ _ _ _ _ _ others found slides
        ((ItemPlace.slide position).follows replaces leftDistinct rightDistinct)
      rw [made] at edited
      exact ⟨_, decodedToo, edited⟩
  | figure outer position =>
      obtain ⟨held, after, left, right, made, decodedToo, others, differ, leftDistinct,
        rightDistinct, found, slides⟩ :=
        decodes_changes Slide.empty Slide.decoder distinct changedDistinct decoded edit
      refine ⟨_, decodedToo, ?_⟩
      obtain ⟨empty, emptyToo⟩ | ⟨first, second, replaces, firstDistinct, secondDistinct,
        figureFound, figures⟩ := slide_changes leftDistinct rightDistinct differ
      · rw [empty] at found
        rw [emptyToo] at slides
        have edited := @editedAt_emptied deliverable.kind _ _ name old new _ position others found
          slides
        rwa [made] at edited
      · rw [figures] at slides
        have edited := @editedAt_figure deliverable.kind _ _ _ _ _ _ _ _ _ _ others found
          figureFound slides
          ((ItemPlace.figure outer position).follows replaces firstDistinct secondDistinct)
        rwa [made] at edited
  | card position =>
      obtain ⟨held, after, left, right, made, decodedToo, others, replaces, leftDistinct,
        rightDistinct, found, cards⟩ :=
        decodes_changes Card.empty Card.decoder distinct changedDistinct decoded edit
      have edited := @editedAt_card deliverable.kind _ _ _ _ _ _ _ _ others found cards
        ((ItemPlace.card position).follows replaces leftDistinct rightDistinct)
      rw [made] at edited
      exact ⟨_, decodedToo, edited⟩
  | source position =>
      obtain ⟨held, after, left, right, made, decodedToo, others, replaces, leftDistinct,
        rightDistinct, found, sources⟩ :=
        decodes_changes Source.empty Source.decoder distinct changedDistinct decoded edit
      have edited := @editedAt_source deliverable.kind _ _ _ _ _ _ _ _ others found sources
        ((ItemPlace.source position).follows replaces leftDistinct rightDistinct)
      rw [made] at edited
      exact ⟨_, decodedToo, edited⟩

/-- A document stays decodable when a field of one of its items takes another value, and its rules
are evaluated. Nothing else changes in the deliverable, unless the field has to hold a list: then a
value that is none empties the whole item. -/
theorem decodes_edited (document changed : Json) (deliverable : Deliverable) (place : ItemPlace)
    (name : String) (old new : Json) (distinct : document.Distinct)
    (changedDistinct : changed.Distinct) (decoded : decoder.decodeJson document = .ok deliverable)
    (edit : place.Changes deliverable.kind (Json.Replaces name old new) document changed) :
    ∃ result, decoder.decodeJson changed = .ok result ∧
      evaluateRules changed = .ok result.ruleErrors ∧
      EditedAt place name old new deliverable result := by
  obtain ⟨result, decodedToo, edited⟩ :=
    editedAt_of_changes distinct changedDistinct decoded edit
  refine ⟨result, decodedToo, ?_, edited⟩
  rw [evaluateRules, decodedToo]

def deckWith (title bullets : Json) : Json :=
  .object
    [("kind", .string "SlideDeck"), ("slides", .array [.object [("title", title),
      ("bullets", bullets), ("figureStubs", .array [.object [("stub", .string "chart")]])]])]

def introSlide : Slide :=
  ⟨"Intro", ["One"], [⟨"chart", none⟩], [], none⟩

theorem decodes_edited_title :
    (deckWith (.string "Intro") (.strings ["One"])).Distinct ∧
    (deckWith .null (.strings ["One"])).Distinct ∧
    decoder.decodeJson (deckWith (.string "Intro") (.strings ["One"])) =
      .ok (.slideDeck ⟨DeckMeta.empty, [introSlide], []⟩) ∧
    (ItemPlace.slide 0).Changes .slideDeck (Json.Replaces "title" (.string "Intro") .null)
      (deckWith (.string "Intro") (.strings ["One"])) (deckWith .null (.strings ["One"])) ∧
    ∃ slide, decoder.decodeJson (deckWith .null (.strings ["One"])) =
        .ok (.slideDeck ⟨DeckMeta.empty, [slide], []⟩) ∧ introSlide.AgreeBut "title" slide := by
  have distinct : ∀ title, title.Distinct → (deckWith title (.strings ["One"])).Distinct := by
    intro title titleDistinct
    simp [deckWith, Json.strings, Json.Distinct, Json.DistinctFields, Json.DistinctItems,
      Fields.keys, titleDistinct]
  have decoded : decoder.decodeJson (deckWith (.string "Intro") (.strings ["One"])) =
      .ok (.slideDeck ⟨DeckMeta.empty, [introSlide], []⟩) := by rfl
  have edit : (ItemPlace.slide 0).Changes .slideDeck
      (Json.Replaces "title" (.string "Intro") .null)
      (deckWith (.string "Intro") (.strings ["One"])) (deckWith .null (.strings ["One"])) :=
    .inl (@Json.InField.intro "slides" _ [("kind", .string "SlideDeck")] [] _ _ (by decide)
      (@Json.InItem.intro 0 _ [] [] _ _ rfl
        (@Json.InField.intro "title" _ [] _ _ _ List.not_mem_nil ⟨rfl, rfl⟩)))
  have before := distinct (.string "Intro") trivial
  have after := distinct .null trivial
  refine ⟨before, after, decoded, edit, ?_⟩
  obtain ⟨result, decodedToo, _, _, kept⟩ :=
    decodes_edited _ _ _ (.slide 0) "title" _ _ before after decoded edit
  obtain ⟨edited, rfl, agree, _⟩ := kept introSlide rfl
  exact ⟨edited, decodedToo, agree (by decide)⟩

theorem unlisted_bullets_empty_slide :
    decoder.decodeJson (deckWith (.string "Intro") (.strings ["One"])) =
      .ok (.slideDeck ⟨DeckMeta.empty, [introSlide], []⟩) ∧
    (ItemPlace.slide 0).Changes .slideDeck (Json.Replaces "bullets" (.strings ["One"]) .null)
      (deckWith (.string "Intro") (.strings ["One"])) (deckWith (.string "Intro") .null) ∧
    ¬ ((∃ fault, decoder.decodeJson (deckWith (.string "Intro") .null) = .error fault) ∨
      ∃ slide, decoder.decodeJson (deckWith (.string "Intro") .null) =
        .ok (.slideDeck ⟨DeckMeta.empty, [slide], []⟩) ∧
          introSlide.AgreeBut "bullets" slide) := by
  have decoded : decoder.decodeJson (deckWith (.string "Intro") .null) =
      .ok (.slideDeck ⟨DeckMeta.empty, [Slide.empty], []⟩) := by rfl
  refine ⟨rfl, ?_, ?_⟩
  · exact .inl (@Json.InField.intro "slides" _ [("kind", .string "SlideDeck")] [] _ _ (by decide)
      (@Json.InItem.intro 0 _ [] [] _ _ rfl
        (@Json.InField.intro "bullets" _ [("title", .string "Intro")] _ _ _ (by decide)
          ⟨rfl, rfl⟩)))
  · rintro (⟨fault, refused⟩ | ⟨slide, decodedToo, agree⟩)
    · rw [decoded] at refused
      cases refused
    · rw [decoded] at decodedToo
      cases decodedToo
      exact absurd (agree.title (by decide)) (by decide)

end Deliverable

end Authoring
