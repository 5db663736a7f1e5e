import Mathlib
import Authoring.Proofs.Deliverable.Decoding
import Authoring.Proofs.Json.Items

/-! The items in the lists of a deliverable: what is made of each from its fields, and which of them
the change of one field reaches. -/

namespace Authoring

open Decoder (fieldOr itemsOr lenient_reads_fieldOr lenientList_reads_itemsOr)

variable {name : String} {held changed : Fields Json}

namespace Source

def fieldNames : List String :=
  ["id", "kind", "value", "title", "accessed"]

def ofNamed (held : Fields Json) : Source where
  id := fieldOr "" .string (Fields.get? "id" held)
  kind := fieldOr none (.option SourceKind.decoder) (Fields.get? "kind" held)
  value := fieldOr "" .string (Fields.get? "value" held)
  title := fieldOr none (.option .string) (Fields.get? "title" held)
  accessed := fieldOr none (.option .string) (Fields.get? "accessed" held)

theorem byField : decoder.ByField fieldNames [] ofNamed := by
  refine Record.Positional.byField ((((((Record.of_positional Source.mk).optional
    (by decide)).optional (by decide)).optional (by decide)).optional (by decide)).optional
    (by decide)) (fun held _ => ?_) nofun
  exact (((((Record.of_reads Source.mk).optional (lenient_reads_fieldOr _ _ _)).optional
    (lenient_reads_fieldOr _ _ _)).optional (lenient_reads_fieldOr _ _ _)).optional
    (lenient_reads_fieldOr _ _ _)).optional (lenient_reads_fieldOr _ _ _)

structure AgreeBut (name : String) (source other : Source) : Prop where
  id : name ≠ "id" → other.id = source.id
  kind : name ≠ "kind" → other.kind = source.kind
  value : name ≠ "value" → other.value = source.value
  title : name ≠ "title" → other.title = source.title
  accessed : name ≠ "accessed" → other.accessed = source.accessed

theorem AgreeBut.refl (name : String) (source : Source) : AgreeBut name source source :=
  ⟨fun _ => rfl, fun _ => rfl, fun _ => rfl, fun _ => rfl, fun _ => rfl⟩

theorem ofNamed_agreeBut
    (same : ∀ key, key ≠ name → Fields.get? key changed = Fields.get? key held) :
    AgreeBut name (ofNamed held) (ofNamed changed) where
  id := fun different => by simp only [ofNamed, same "id" different.symm]
  kind := fun different => by simp only [ofNamed, same "kind" different.symm]
  value := fun different => by simp only [ofNamed, same "value" different.symm]
  title := fun different => by simp only [ofNamed, same "title" different.symm]
  accessed := fun different => by simp only [ofNamed, same "accessed" different.symm]

end Source

namespace FigureStub

def fieldNames : List String :=
  ["stub", "caption"]

def ofNamed (held : Fields Json) : FigureStub where
  stub := fieldOr "" .string (Fields.get? "stub" held)
  caption := fieldOr none (.option .string) (Fields.get? "caption" held)

theorem byField : decoder.ByField fieldNames [] ofNamed := by
  refine Record.Positional.byField (((Record.of_positional FigureStub.mk).optional
    (by decide)).optional (by decide)) (fun held _ => ?_) nofun
  exact ((Record.of_reads FigureStub.mk).optional (lenient_reads_fieldOr _ _ _)).optional
    (lenient_reads_fieldOr _ _ _)

structure AgreeBut (name : String) (figure other : FigureStub) : Prop where
  stub : name ≠ "stub" → other.stub = figure.stub
  caption : name ≠ "caption" → other.caption = figure.caption

theorem AgreeBut.refl (name : String) (figure : FigureStub) : AgreeBut name figure figure :=
  ⟨fun _ => rfl, fun _ => rfl⟩

theorem ofNamed_agreeBut
    (same : ∀ key, key ≠ name → Fields.get? key changed = Fields.get? key held) :
    AgreeBut name (ofNamed held) (ofNamed changed) where
  stub := fun different => by simp only [ofNamed, same "stub" different.symm]
  caption := fun different => by simp only [ofNamed, same "caption" different.symm]

end FigureStub

namespace Slide

def fieldNames : List String :=
  ["title", "bullets", "figureStubs", "citations", "notes"]

def listFields : List String :=
  ["bullets", "figureStubs", "citations"]

def ofNamed (held : Fields Json) : Slide where
  title := fieldOr "" .string (Fields.get? "title" held)
  bullets := itemsOr "" .string (Fields.get? "bullets" held)
  figureStubs := itemsOr FigureStub.empty FigureStub.decoder (Fields.get? "figureStubs" held)
  citations := itemsOr "" .string (Fields.get? "citations" held)
  notes := fieldOr none (.option .string) (Fields.get? "notes" held)

theorem byField : decoder.ByField fieldNames listFields ofNamed := by
  refine Record.Positional.byField ((((((Record.of_positional Slide.mk).optional
    (by decide)).optional (by decide)).optional (by decide)).optional (by decide)).optional
    (by decide)) (fun held lists => ?_) ?_
  · exact (((((Record.of_reads Slide.mk).optional (lenient_reads_fieldOr _ _ _)).optional
      (lenientList_reads_itemsOr _ _ (lists "bullets" (by decide)))).optional
      (lenientList_reads_itemsOr _ _ (lists "figureStubs" (by decide)))).optional
      (lenientList_reads_itemsOr _ _ (lists "citations" (by decide)))).optional
      (lenient_reads_fieldOr _ _ _)
  · intro name known
    simp only [listFields, List.mem_cons, List.not_mem_nil, or_false] at known
    rcases known with rfl | rfl | rfl <;> exact ⟨by decide, _, _, fun _ _ => rfl⟩

structure AgreeBut (name : String) (slide other : Slide) : Prop where
  title : name ≠ "title" → other.title = slide.title
  bullets : name ≠ "bullets" → other.bullets = slide.bullets
  figureStubs : name ≠ "figureStubs" → other.figureStubs = slide.figureStubs
  citations : name ≠ "citations" → other.citations = slide.citations
  notes : name ≠ "notes" → other.notes = slide.notes

theorem AgreeBut.refl (name : String) (slide : Slide) : AgreeBut name slide slide :=
  ⟨fun _ => rfl, fun _ => rfl, fun _ => rfl, fun _ => rfl, fun _ => rfl⟩

theorem ofNamed_agreeBut
    (same : ∀ key, key ≠ name → Fields.get? key changed = Fields.get? key held) :
    AgreeBut name (ofNamed held) (ofNamed changed) where
  title := fun different => by simp only [ofNamed, same "title" different.symm]
  bullets := fun different => by simp only [ofNamed, same "bullets" different.symm]
  figureStubs := fun different => by simp only [ofNamed, same "figureStubs" different.symm]
  citations := fun different => by simp only [ofNamed, same "citations" different.symm]
  notes := fun different => by simp only [ofNamed, same "notes" different.symm]

end Slide

namespace Card

def fieldNames : List String :=
  ["q", "a", "tags", "citations"]

def listFields : List String :=
  ["tags", "citations"]

def ofNamed (held : Fields Json) : Card where
  question := fieldOr "" .string (Fields.get? "q" held)
  answer := fieldOr "" .string (Fields.get? "a" held)
  tags := itemsOr "" .string (Fields.get? "tags" held)
  citations := itemsOr "" .string (Fields.get? "citations" held)

theorem byField : decoder.ByField fieldNames listFields ofNamed := by
  refine Record.Positional.byField (((((Record.of_positional Card.mk).optional
    (by decide)).optional (by decide)).optional (by decide)).optional (by decide))
    (fun held lists => ?_) ?_
  · exact ((((Record.of_reads Card.mk).optional (lenient_reads_fieldOr _ _ _)).optional
      (lenient_reads_fieldOr _ _ _)).optional
      (lenientList_reads_itemsOr _ _ (lists "tags" (by decide)))).optional
      (lenientList_reads_itemsOr _ _ (lists "citations" (by decide)))
  · intro name known
    simp only [listFields, List.mem_cons, List.not_mem_nil, or_false] at known
    rcases known with rfl | rfl <;> exact ⟨by decide, _, _, fun _ _ => rfl⟩

structure AgreeBut (name : String) (card other : Card) : Prop where
  question : name ≠ "q" → other.question = card.question
  answer : name ≠ "a" → other.answer = card.answer
  tags : name ≠ "tags" → other.tags = card.tags
  citations : name ≠ "citations" → other.citations = card.citations

theorem AgreeBut.refl (name : String) (card : Card) : AgreeBut name card card :=
  ⟨fun _ => rfl, fun _ => rfl, fun _ => rfl, fun _ => rfl⟩

theorem ofNamed_agreeBut
    (same : ∀ key, key ≠ name → Fields.get? key changed = Fields.get? key held) :
    AgreeBut name (ofNamed held) (ofNamed changed) where
  question := fun different => by simp only [ofNamed, same "q" different.symm]
  answer := fun different => by simp only [ofNamed, same "a" different.symm]
  tags := fun different => by simp only [ofNamed, same "tags" different.symm]
  citations := fun different => by simp only [ofNamed, same "citations" different.symm]

end Card

end Authoring
