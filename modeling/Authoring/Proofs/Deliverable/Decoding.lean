import Mathlib
import Authoring.Deliverable.Validation
import Authoring.Proofs.Json.Decoding

/-! Which documents can be decoded. Decoding is lenient everywhere but at the lists that stand
directly in the document. -/

namespace Authoring

open Outline (ofJson ofFields)

namespace DocumentKind

theorem ofName?_name (kind : DocumentKind) : ofName? kind.name = some kind := by
  cases kind <;> decide

theorem eq_name_of_ofName? {name : String} {kind : DocumentKind}
    (found : ofName? name = some kind) :
    name = kind.name := by
  have same := List.find?_some found
  exact (beq_iff_eq.mp same).symm

theorem ofJson_eq_ok_iff {document : Json} {kind : DocumentKind} :
    DocumentKind.ofJson document = .ok kind ↔ document.get? "kind" = some (.string kind.name) := by
  constructor
  · intro found
    unfold DocumentKind.ofJson at found
    split at found
    · cases found
    · rename_i name written
      split at found
      · rename_i same
        rw [written, eq_name_of_ofName? same, Except.ok.inj found]
      · cases found
    · cases found
  · intro written
    simp [DocumentKind.ofJson, written, ofName?_name]

theorem variants_get? (kind : DocumentKind) : Fields.get? kind.name variants = some kind := by
  cases kind <;> rfl

def listFields : DocumentKind → List String
  | slideDeck => ["slides", "sources"]
  | onePager => ["keyFacts", "implications", "actions", "citations", "sources"]
  | flashcards => ["cards", "sources"]

end DocumentKind

theorem checkShape_known {document : Json} {kind : DocumentKind}
    (known : DocumentKind.ofJson document = .ok kind) :
    checkShape document = .ok ⟨kind, kind.contract.check document⟩ := by
  simp only [checkShape, known]
  rfl

open Decoder (fieldOr itemsOr lenient_reads_fieldOr lenientList_reads_itemsOr)

def SlideDeck.ofNamed (held : Fields Json) : SlideDeck where
  info := fieldOr DeckMeta.empty DeckMeta.decoder (Fields.get? "meta" held)
  slides := itemsOr Slide.empty Slide.decoder (Fields.get? "slides" held)
  sources := itemsOr Source.empty Source.decoder (Fields.get? "sources" held)

def OnePager.ofNamed (held : Fields Json) : OnePager where
  info := fieldOr PageMeta.empty PageMeta.decoder (Fields.get? "meta" held)
  problem := fieldOr "" .string (Fields.get? "problem" held)
  keyFacts := itemsOr "" .string (Fields.get? "keyFacts" held)
  implications := itemsOr "" .string (Fields.get? "implications" held)
  actions := itemsOr "" .string (Fields.get? "actions" held)
  citations := itemsOr "" .string (Fields.get? "citations" held)
  sources := itemsOr Source.empty Source.decoder (Fields.get? "sources" held)

def Flashcards.ofNamed (held : Fields Json) : Flashcards where
  info := fieldOr none (.option CardsMeta.decoder) (Fields.get? "meta" held)
  cards := itemsOr Card.empty Card.decoder (Fields.get? "cards" held)
  sources := itemsOr Source.empty Source.decoder (Fields.get? "sources" held)

namespace Deliverable

theorem splitKind_absent {origin : Origin} {kind? : Option DocumentKind}
    {fields : List (String × Json)} (absent : "kind" ∉ Fields.keys fields) :
    splitKind origin kind? (ofFields fields) = .ok (kind?, ofFields fields) := by
  induction fields with
  | nil => rfl
  | cons field rest ih =>
      obtain ⟨name, value⟩ := field
      have different : name ≠ "kind" := fun same => absent (same ▸ List.mem_cons_self)
      have laterAbsent : "kind" ∉ Fields.keys rest :=
        fun member => absent (List.mem_cons_of_mem _ member)
      simp only [ofFields, splitKind, Outline.name, Outline.read_ofJson, lift, bind, Except.bind,
        different, if_false, ih laterAbsent]
      rfl

def others (fields : List (String × Json)) : List (String × Json) :=
  fields.filter fun field => decide (field.1 ≠ "kind")

theorem others_absent {fields : List (String × Json)} (absent : "kind" ∉ Fields.keys fields) :
    others fields = fields := by
  refine List.filter_eq_self.mpr fun field member => decide_eq_true fun same => ?_
  exact absent (List.mem_map.mpr ⟨field, member, same⟩)

theorem get?_others {name : String} (different : name ≠ "kind") (fields : List (String × Json)) :
    Fields.get? name (others fields) = Fields.get? name fields := by
  rw [others, Fields.get?_filter_name fun name => decide (name ≠ "kind"),
    if_pos (decide_eq_true different)]

theorem keys_others_nodup {fields : List (String × Json)} (distinct : (Fields.keys fields).Nodup) :
    (Fields.keys (others fields)).Nodup :=
  distinct.sublist (List.Sublist.map _ List.filter_sublist)

theorem splitKind_found {origin : Origin} {kind : DocumentKind} {fields : List (String × Json)}
    (distinct : (Fields.keys fields).Nodup)
    (found : Fields.get? "kind" fields = some (.string kind.name)) :
    splitKind origin none (ofFields fields) = .ok (some kind, ofFields (others fields)) := by
  induction fields with
  | nil => cases found
  | cons field rest ih =>
      obtain ⟨name, value⟩ := field
      obtain ⟨fresh, laterDistinct⟩ := List.nodup_cons.mp distinct
      by_cases same : name = "kind"
      · have absent : "kind" ∉ Fields.keys rest := same ▸ fresh
        have written : value = .string kind.name := by
          simpa [Fields.get?, same] using found
        have tail : others ((name, value) :: rest) = rest := by
          rw [others, List.filter_cons_of_neg (by simp [same])]
          exact others_absent absent
        simp only [ofFields, splitKind, Outline.name, lift, bind, Except.bind, same, if_true,
          written, ofJson, Decoder.identifier, Decoder.variantNamed, kind.variants_get?,
          splitKind_absent absent]
        rw [← same, ← written, tail]
        rfl
      · have later : Fields.get? "kind" rest = some (.string kind.name) := by
          simpa [Fields.get?, same] using found
        have tail : others ((name, value) :: rest) = (name, value) :: others rest :=
          List.filter_cons_of_pos (by simp [same])
        simp only [ofFields, splitKind, Outline.name, Outline.read_ofJson, lift, bind, Except.bind,
          same, if_false, ih laterDistinct later, tail]
        rfl

theorem decodeJson_eq {kind : DocumentKind} {fields : List (String × Json)}
    (distinct : (Fields.keys fields).Nodup)
    (found : Fields.get? "kind" fields = some (.string kind.name)) :
    decoder.decodeJson (.object fields) = ofMembers (ofFields (others fields)) kind := by
  simp only [Decoder.decodeJson, ofJson, decoder, splitKind_found distinct found, Outline.endOf,
    lift, bind, Except.bind, Bool.false_eq_true, if_false]

variable {α : Type} {record : Record α} {fields : List (String × Json)}

theorem fromMembers_others {result : α} (distinct : (Json.object fields).Distinct)
    (noKind : "kind" ∉ record.names) (reads : record.Reads (Json.object fields).get? result) :
    record.fromMembers .buffer (ofFields (others fields)) none = .ok result := by
  refine record.fromMembers_reads .buffer
    (keys_others_nodup (Json.distinct_object_iff.mp distinct).1) (fun name known => ?_) reads
  have different : name ≠ "kind" := fun same => noKind (same ▸ known)
  rw [get?_others different]
  cases held : (Json.object fields).get? name with
  | none =>
      rw [show Fields.get? name fields = none from held]
      exact .none
  | some value =>
      rw [show Fields.get? name fields = some value from held]
      exact .some (Outline.shows_ofJson (distinct.get? held))

def ReadFrom (document : Json) : Deliverable → Prop
  | slideDeck deck => SlideDeck.record.Reads document.get? deck
  | onePager page => OnePager.record.Reads document.get? page
  | flashcards set => Flashcards.record.Reads document.get? set

theorem decodes_of_reads {document : Json} {deliverable : Deliverable}
    (distinct : document.Distinct)
    (found : document.get? "kind" = some (.string deliverable.kind.name))
    (reads : deliverable.ReadFrom document) : decoder.decodeJson document = .ok deliverable := by
  cases document with
  | object fields =>
      rw [decodeJson_eq (Json.distinct_object_iff.mp distinct).1 found]
      cases deliverable with
      | slideDeck deck =>
          rw [kind, ofMembers, fromMembers_others distinct (by decide) reads]
          rfl
      | onePager page =>
          rw [kind, ofMembers, fromMembers_others distinct (by decide) reads]
          rfl
      | flashcards set =>
          rw [kind, ofMembers, fromMembers_others distinct (by decide) reads]
          rfl
  | null | bool | number | string | array => cases found

def ofNamed (held : Fields Json) : DocumentKind → Deliverable
  | .slideDeck => slideDeck (SlideDeck.ofNamed held)
  | .onePager => onePager (OnePager.ofNamed held)
  | .flashcards => flashcards (Flashcards.ofNamed held)

theorem kind_ofNamed (held : Fields Json) (kind : DocumentKind) :
    (ofNamed held kind).kind = kind := by
  cases kind <;> rfl

theorem ofNamed_readFrom {kind : DocumentKind} {held : Fields Json}
    (lists : Json.HasLists kind.listFields held) : (ofNamed held kind).ReadFrom (.object held) := by
  have text := lenient_reads_fieldOr "" .string
  have texts := fun name listed => lenientList_reads_itemsOr "" .string (lists name listed)
  have sources := fun listed =>
    lenientList_reads_itemsOr Source.empty Source.decoder (lists "sources" listed)
  cases kind with
  | slideDeck =>
      have info := lenient_reads_fieldOr DeckMeta.empty DeckMeta.decoder
      have slides :=
        lenientList_reads_itemsOr Slide.empty Slide.decoder (lists "slides" (by decide))
      exact (((Record.of_reads SlideDeck.mk).optional (info _)).optional slides).optional
        (sources (by decide))
  | onePager =>
      have info := lenient_reads_fieldOr PageMeta.empty PageMeta.decoder
      exact (((((((Record.of_reads OnePager.mk).optional (info _)).optional (text _)).optional
        (texts _ (by decide))).optional (texts _ (by decide))).optional
        (texts _ (by decide))).optional (texts _ (by decide))).optional (sources (by decide))
  | flashcards =>
      have info := lenient_reads_fieldOr none (.option CardsMeta.decoder)
      have cards := lenientList_reads_itemsOr Card.empty Card.decoder (lists "cards" (by decide))
      exact (((Record.of_reads Flashcards.mk).optional (info _)).optional cards).optional
        (sources (by decide))

theorem decodes_ofNamed {kind : DocumentKind} (distinct : (Json.object fields).Distinct)
    (found : Fields.get? "kind" fields = some (.string kind.name))
    (lists : Json.HasLists kind.listFields fields) :
    decoder.decodeJson (.object fields) = .ok (ofNamed fields kind) :=
  decodes_of_reads distinct ((kind_ofNamed fields kind).symm ▸ found) (ofNamed_readFrom lists)

theorem map_refuses {β : Type} {outcome : Except Fault α} (change : α → β)
    (refused : ∃ fault, outcome = .error fault) : ∃ fault, outcome.map change = .error fault := by
  obtain ⟨fault, rfl⟩ := refused
  exact ⟨fault, rfl⟩

theorem refuses_of_nonList {kind : DocumentKind} {name : String} {value : Json}
    (distinct : (Fields.keys fields).Nodup)
    (found : Fields.get? "kind" fields = some (.string kind.name)) (known : name ∈ kind.listFields)
    (held : Fields.get? name fields = some value) (notList : value.items? = none) :
    ∃ fault, decoder.decodeJson (.object fields) = .error fault := by
  have different : name ≠ "kind" := by
    rintro rfl
    cases kind <;> simp [DocumentKind.listFields] at known
  have member : (name, value) ∈ others fields :=
    Fields.mem_of_get? ((get?_others different fields).trans held)
  have texts := @Decoder.list_refuses _ (Decoder.lenient "" .string) value notList .buffer
  have sources :=
    @Decoder.list_refuses _ (Decoder.lenient Source.empty Source.decoder) value notList .buffer
  have slides :=
    @Decoder.list_refuses _ (Decoder.lenient Slide.empty Slide.decoder) value notList .buffer
  have cards :=
    @Decoder.list_refuses _ (Decoder.lenient Card.empty Card.decoder) value notList .buffer
  rw [decodeJson_eq distinct found]
  cases kind with
  | slideDeck =>
      simp only [DocumentKind.listFields, List.mem_cons, List.not_mem_nil, or_false] at known
      apply map_refuses
      rcases known with rfl | rfl
      · exact SlideDeck.record.fromMembers_refuses member (by decide) (map_refuses _ slides)
      · exact SlideDeck.record.fromMembers_refuses member (by decide) (map_refuses _ sources)
  | onePager =>
      simp only [DocumentKind.listFields, List.mem_cons, List.not_mem_nil, or_false] at known
      apply map_refuses
      rcases known with rfl | rfl | rfl | rfl | rfl
      · exact OnePager.record.fromMembers_refuses member (by decide) (map_refuses _ texts)
      · exact OnePager.record.fromMembers_refuses member (by decide) (map_refuses _ texts)
      · exact OnePager.record.fromMembers_refuses member (by decide) (map_refuses _ texts)
      · exact OnePager.record.fromMembers_refuses member (by decide) (map_refuses _ texts)
      · exact OnePager.record.fromMembers_refuses member (by decide) (map_refuses _ sources)
  | flashcards =>
      simp only [DocumentKind.listFields, List.mem_cons, List.not_mem_nil, or_false] at known
      apply map_refuses
      rcases known with rfl | rfl
      · exact Flashcards.record.fromMembers_refuses member (by decide) (map_refuses _ cards)
      · exact Flashcards.record.fromMembers_refuses member (by decide) (map_refuses _ sources)

theorem decodes_iff {kind : DocumentKind} {document : Json} (distinct : document.Distinct)
    (found : DocumentKind.ofJson document = .ok kind) :
    (∃ deliverable, decoder.decodeJson document = .ok deliverable) ↔
      ∀ name ∈ kind.listFields, ∀ value, document.get? name = some value → value.items?.isSome := by
  rw [DocumentKind.ofJson_eq_ok_iff] at found
  cases document with
  | object fields =>
      constructor
      · rintro ⟨deliverable, decoded⟩ name known value held
        by_contra notList
        rw [Option.not_isSome_iff_eq_none] at notList
        obtain ⟨fault, refused⟩ := refuses_of_nonList (Json.distinct_object_iff.mp distinct).1 found
          known held notList
        rw [decoded] at refused
        cases refused
      · exact fun lists => ⟨_, decodes_ofNamed distinct found lists⟩
  | null | bool | number | string | array => cases found

end Deliverable

end Authoring
