import Mathlib
import Authoring.Proofs.Json.Changes
import Authoring.Proofs.Json.Positional

/-! Lists whose items are read leniently, each by itself. An item with a field that has to be a list
and is none counts as empty, so a change in one of its fields can take the others with it. -/

namespace Authoring

namespace Json

def Listed (names lists : List String) (value : Json) (held : Fields Json) : Prop :=
  value.named? names = some held ∧ HasLists lists held

def InPart (names : List String) (name : String) (inside : Json → Json → Prop)
    (left right : Json) : Prop :=
  InField name inside left right ∨
    ∃ position, names[position]? = some name ∧ InItem position inside left right

def Replaces (name : String) (old new : Json) : Json → Json → Prop :=
  InField name fun before after => before = old ∧ after = new

variable {names lists : List String} {name : String} {inside : Json → Json → Prop}
  {left right : Json} {held changed : Fields Json} {position : Nat}

theorem InField.hasLists_iff (differ : InField name inside (.object held) (.object changed))
    (alike : ∀ old new, inside old new → name ∈ lists →
      (old.items?.isSome = true ↔ new.items?.isSome = true)) :
    HasLists lists changed ↔ HasLists lists held := by
  obtain ⟨_, _, old, new, same, again, _, change, found, after, others⟩ := differ.lookups
  cases same
  cases again
  refine forall₂_congr fun other listed => ?_
  by_cases same : other = name
  · cases same
    simp only [found, after, Option.some.injEq, forall_eq']
    exact (alike old new change listed).symm
  · rw [others other same]

theorem InItem.items?_isSome (differ : InItem position inside left right) :
    left.items?.isSome = true ∧ right.items?.isSome = true := by
  cases differ
  exact ⟨rfl, rfl⟩

theorem InPart.named (distinct : names.Nodup) (differ : InPart names name inside left right) :
    (∃ held changed, left.named? names = some held ∧ right.named? names = some changed ∧
      InField name inside (.object held) (.object changed)) ∨
    left.named? names = none ∧ right.named? names = none := by
  obtain inField | ⟨position, found, inItem⟩ := differ
  · obtain ⟨held, changed, _, _, rfl, rfl, _⟩ := inField.lookups
    exact .inl ⟨held, changed, rfl, rfl, inField⟩
  · -- The names are split at the one of the part, as the array is at its position.
    obtain @⟨before, after, old, new, place, change⟩ := inItem
    have split := List.take_append_drop position names
    have bound := (List.getElem?_eq_some_iff.mp found).1
    rw [List.drop_eq_getElem_cons bound, (List.getElem?_eq_some_iff.mp found).2] at split
    have front : (names.take position).length = before.length := by
      rw [List.length_take_of_le bound.le, place]
    have fresh : name ∉ names.take position := by
      rw [← split] at distinct
      exact fun member => (List.disjoint_of_nodup_append distinct) member List.mem_cons_self
    have zipped : ∀ value, names.zip (before ++ value :: after) =
        (names.take position).zip before ++
          (name, value) :: (names.drop (position + 1)).zip after := by
      intro value
      conv_lhs => rw [← split]
      exact List.zip_append front
    by_cases short : (before ++ old :: after).length ≤ names.length
    · refine .inl ⟨_, _, if_pos short, if_pos (by simpa using short), ?_⟩
      rw [zipped, zipped]
      exact ⟨fun member => fresh ((Record.keys_zip_sublist _ _).mem member), change⟩
    · exact .inr ⟨if_neg short, if_neg (by simpa using short)⟩

theorem InPart.listed (distinct : names.Nodup) (differ : InPart names name inside left right)
    (alike : ∀ old new, inside old new → name ∈ lists →
      (old.items?.isSome = true ↔ new.items?.isSome = true)) :
    (∃ held changed, left.Listed names lists held ∧ right.Listed names lists changed ∧
      InField name inside (.object held) (.object changed)) ∨
    (∀ held, ¬ left.Listed names lists held) ∧ ∀ changed, ¬ right.Listed names lists changed := by
  obtain ⟨held, changed, before, after, inField⟩ | ⟨before, after⟩ := differ.named distinct
  · have same := inField.hasLists_iff alike
    by_cases lists : HasLists lists held
    · exact .inl ⟨held, changed, ⟨before, lists⟩, ⟨after, same.mpr lists⟩, inField⟩
    · refine .inr ⟨fun other listed => ?_, fun other listed => ?_⟩
      · cases before.symm.trans listed.1
        exact lists listed.2
      · cases after.symm.trans listed.1
        exact lists (same.mp listed.2)
  · refine .inr ⟨fun other listed => ?_, fun other listed => ?_⟩
    · cases before.symm.trans listed.1
    · cases after.symm.trans listed.1

end Json

namespace Decoder

variable {α : Type} {decoder : Decoder α} {default : α} {value left right : Json}

theorem list_refused (notList : value.items? = none) : (list decoder).Refuses value := by
  rintro origin outline ⟨form, _, alike, rfl⟩
  refine list_refuses ?_ origin
  cases form with
  | array items => cases value <;> simp [Json.sorted, Json.items?] at alike notList
  | null | bool | number | string | object => rfl

theorem itemsOr_changes {inside : Json → Json → Prop} {name : String} {position : Nat}
    {held after : Fields Json}
    (differ : Json.InField name (Json.InItem position inside) (.object held) (.object after))
    (distinct : (Json.object held).Distinct) (changedDistinct : (Json.object after).Distinct) :
    ∃ old new, inside old new ∧ old.Distinct ∧ new.Distinct ∧
      (itemsOr default decoder (Fields.get? name held))[position]? =
        some (valueOr default decoder old) ∧
      itemsOr default decoder (Fields.get? name after) =
        (itemsOr default decoder (Fields.get? name held)).set position
          (valueOr default decoder new) := by
  obtain ⟨_, _, oldItems, newItems, same, again, _, inItem, oldFound, newFound, _⟩ := differ.lookups
  cases same
  cases again
  have oldDistinct := distinct.get? oldFound
  have newDistinct := changedDistinct.get? newFound
  rw [oldFound, newFound]
  obtain @⟨before, rest, old, new, rfl, change⟩ := inItem
  have listed : ∀ value, value ∈ before ++ value :: rest := fun value =>
    List.mem_append_right _ List.mem_cons_self
  refine ⟨old, new, change, Json.distinct_array_iff.mp oldDistinct _ (listed old),
    Json.distinct_array_iff.mp newDistinct _ (listed new), ?_, ?_⟩
  · simp [itemsOr]
  · simp [itemsOr]

/-- The decoder takes items apart into fields, by the names. The items have to have lists under some
of the names, and nothing else is wrong with any of them. -/
structure ByField (decoder : Decoder α) (names lists : List String) (ofNamed : Fields Json → α) :
    Prop where
  distinct : names.Nodup
  reads : ∀ value held, value.Distinct → value.Listed names lists held →
    decoder.Reads value (ofNamed held)
  refuses : ∀ value, value.Distinct → (∀ held, ¬ value.Listed names lists held) →
    decoder.Refuses value

namespace ByField

variable {names lists : List String} {ofNamed : Fields Json → α} {held : Fields Json}

theorem valueOr_of_listed (byField : decoder.ByField names lists ofNamed)
    (distinct : value.Distinct) (listed : value.Listed names lists held) :
    valueOr default decoder value = ofNamed held :=
  reads_unique (lenient_reads_valueOr default decoder value)
    (lenient_reads default (byField.reads value held distinct listed))

theorem valueOr_of_unlisted (byField : decoder.ByField names lists ofNamed)
    (distinct : value.Distinct) (unlisted : ∀ held, ¬ value.Listed names lists held) :
    valueOr default decoder value = default :=
  reads_unique (lenient_reads_valueOr default decoder value)
    (lenient_refused default (byField.refuses value distinct unlisted))

theorem valueOr_of_nonList (byField : decoder.ByField names lists ofNamed) {name : String}
    (distinct : (Json.object held).Distinct) (known : name ∈ lists)
    (found : Fields.get? name held = some value) (notList : value.items? = none) :
    valueOr default decoder (.object held) = default := by
  refine byField.valueOr_of_unlisted distinct ?_
  rintro _ ⟨⟨⟩, listed⟩
  have isList := listed name known value found
  rw [notList] at isList
  cases isList

theorem replaced (byField : decoder.ByField names lists ofNamed) {agree : α → α → Prop}
    {name : String} {old new : Json} (refl : agree default default)
    (agrees : ∀ held changed, (∀ key, key ≠ name → Fields.get? key changed = Fields.get? key held) →
      agree (ofNamed held) (ofNamed changed))
    (replaces : Json.Replaces name old new left right) (leftDistinct : left.Distinct)
    (rightDistinct : right.Distinct) :
    ((name ∈ lists → old.items?.isSome ∧ new.items?.isSome) →
      agree (valueOr default decoder left) (valueOr default decoder right)) ∧
    (name ∈ lists → (old.items? = none → valueOr default decoder left = default) ∧
      (new.items? = none → valueOr default decoder right = default)) := by
  obtain ⟨held, changed, _, _, rfl, rfl, _, ⟨rfl, rfl⟩, before, after, others⟩ := replaces.lookups
  refine ⟨fun kept => ?_, fun known => ⟨?_, ?_⟩⟩
  · have same : Json.HasLists lists changed ↔ Json.HasLists lists held := by
      refine replaces.hasLists_iff ?_
      rintro _ _ ⟨rfl, rfl⟩ known
      exact iff_of_true (kept known).1 (kept known).2
    by_cases listed : Json.HasLists lists held
    · rw [byField.valueOr_of_listed leftDistinct ⟨rfl, listed⟩,
        byField.valueOr_of_listed rightDistinct ⟨rfl, same.mpr listed⟩]
      exact agrees held changed others
    · -- Another field spoils the item, before and after.
      have unlisted : ∀ found, ¬ (Json.object held).Listed names lists found := by
        rintro _ ⟨⟨⟩, found⟩
        exact listed found
      have unlistedToo : ∀ found, ¬ (Json.object changed).Listed names lists found := by
        rintro _ ⟨⟨⟩, found⟩
        exact listed (same.mp found)
      rw [byField.valueOr_of_unlisted leftDistinct unlisted,
        byField.valueOr_of_unlisted rightDistinct unlistedToo]
      exact refl
  · exact byField.valueOr_of_nonList leftDistinct known before
  · exact byField.valueOr_of_nonList rightDistinct known after

end ByField

end Decoder

namespace Record

variable {α : Type} {record : Record α} {type : String} {lists : List String}
  {ofNamed : Fields Json → α}

theorem Positional.byField (positional : record.Positional)
    (reads : ∀ held, Json.HasLists lists held → record.Reads (Json.object held).get? (ofNamed held))
    (vets : ∀ name ∈ lists, name ∈ record.names ∧ ∃ (β : Type) (decoder : Decoder β),
      ∀ origin outline, record.vet origin name outline =
        (Decoder.list decoder origin outline).map fun _ => ()) :
    (record.decoder type).ByField record.names lists ofNamed where
  distinct := positional.distinct
  reads := by
    intro value held distinct listed
    have keys := (Json.distinct_object_iff.mp
      (Json.named?_distinct distinct positional.distinct listed.1)).1
    exact positional.reads_named listed.1 (decoder_reads type keys (reads held listed.2))
  refuses := by
    intro value distinct unlisted
    cases named : value.named? record.names with
    | none => exact positional.refuses_unnamed named
    | some held =>
        have keys := (Json.distinct_object_iff.mp
          (Json.named?_distinct distinct positional.distinct named)).1
        have notLists : ¬ Json.HasLists lists held := fun lists => unlisted held ⟨named, lists⟩
        simp only [Json.HasLists, not_forall] at notLists
        obtain ⟨name, known, found, stands, notList⟩ := notLists
        obtain ⟨member, β, decoder, vet⟩ := vets name known
        refine positional.refuses_named named (object_refused stands member keys ?_)
        intro origin outline shows
        rw [vet]
        obtain ⟨fault, refused⟩ :=
          Decoder.list_refused (Option.not_isSome_iff_eq_none.mp notList) origin outline shows
        rw [refused]
        exact ⟨fault, rfl⟩

end Record

end Authoring
