import Mathlib
import Authoring.Json.Record
import Authoring.Proofs.Outcomes

/-! What all results of a decoder have in common, whatever they are decoded from. -/

namespace Authoring

theorem Outline.refuse_ne_ok {α : Type} (wanted : String) (outline : Outline) (value : α) :
    outline.refuse wanted ≠ .ok value := by
  cases outline <;> nofun

namespace Decoder

variable {α : Type} {holds : α → Prop} {decoder : Decoder α}

def Yields (holds : α → Prop) (decoder : Decoder α) : Prop :=
  ∀ origin outline value, decoder origin outline = .ok value → holds value

theorem lenient_yields {default : α} (usual : holds default) (yields : decoder.Yields holds) :
    (lenient default decoder).Yields holds := by
  intro origin outline value decoded
  obtain ⟨document, _, read⟩ := bind_eq_ok_iff.mp decoded
  split at read
  · rename_i found outcome
    cases read
    exact yields .tree _ _ outcome
  · cases read
    exact usual

end Decoder

namespace Record

variable {α β : Type} {holds : β → Prop} {fine : α → Prop}

structure Yields (holds : α → Prop) (record : Record α) : Prop where
  members : ∀ origin members value, record.ofMembers origin members = .ok value → holds value
  items : ∀ origin wanted items value rest,
    record.ofItems origin wanted items = .ok (value, rest) → holds value

theorem of_yields {value : β} (known : holds value) : (Record.of value).Yields holds where
  members := by
    rintro origin members _ ⟨⟩
    exact known
  items := by
    rintro origin wanted items _ rest ⟨⟩
    exact known

theorem Yields.field {record : Record (α → β)} {name : String} {decoder : Decoder α}
    {default? : Option α}
    (yields : record.Yields fun build => ∀ value, fine value → holds (build value))
    (decoded : decoder.Yields fine) (usual : ∀ value, default? = some value → fine value) :
    (record.field name decoder default?).Yields holds where
  members := by
    intro origin members result built
    obtain ⟨build, before, after⟩ := bind_eq_ok_iff.mp built
    have known := yields.members origin members build before
    split at after
    · obtain ⟨value, found, rfl⟩ := map_eq_ok_iff.mp after
      exact known value (decoded origin _ value found)
    · cases after
      exact known _ (usual _ rfl)
    · cases after
  items := by
    intro origin wanted items result rest built
    obtain ⟨⟨build, left⟩, before, after⟩ := bind_eq_ok_iff.mp built
    have known := yields.items origin wanted items build left before
    simp only at after
    split at after
    · obtain ⟨value, found, same⟩ := bind_eq_ok_iff.mp after
      cases same
      exact known value (decoded origin _ value found)
    · obtain ⟨_, _, same⟩ := bind_eq_ok_iff.mp after
      split at same
      · cases same
        exact known _ (usual _ rfl)
      · cases same

theorem Yields.free {record : Record (α → β)} {name : String} {decoder : Decoder α}
    {default? : Option α} (yields : record.Yields fun build => ∀ value, holds (build value)) :
    (record.field name decoder default?).Yields holds := by
  have given : record.Yields fun build => ∀ value, True → holds (build value) :=
    ⟨fun origin members build built value _ => yields.members origin members build built value,
      fun origin wanted items build rest built value _ =>
        yields.items origin wanted items build rest built value⟩
  exact given.field (fun _ _ _ _ => trivial) fun _ _ => trivial

variable {record : Record β}

theorem Yields.fromMembers (yields : record.Yields holds) {origin : Origin}
    {members : List (Outline × Outline)} {ending : Option Break} {value : β}
    (decoded : record.fromMembers origin members ending = .ok value) : holds value := by
  obtain ⟨known, _, later⟩ := bind_eq_ok_iff.mp decoded
  obtain ⟨_, _, built⟩ := bind_eq_ok_iff.mp later
  exact yields.members origin known value built

theorem Yields.fromItems (yields : record.Yields holds) {type : String} {origin : Origin}
    {items : List Outline} {ending : Option Break} {value : β}
    (decoded : record.fromItems type origin items ending = .ok value) : holds value := by
  obtain ⟨⟨built, left⟩, found, finished⟩ := bind_eq_ok_iff.mp decoded
  have known := yields.items origin _ _ built left found
  simp only [finish] at finished
  split at finished
  · obtain ⟨_, _, rfl⟩ := map_eq_ok_iff.mp finished
    exact known
  all_goals cases finished

theorem Yields.decoder (yields : record.Yields holds) (type : String) :
    (record.decoder type).Yields holds := by
  intro origin outline value decoded
  unfold Record.decoder at decoded
  split at decoded
  · split at decoded
    · cases decoded
    · exact yields.fromMembers decoded
  · split at decoded
    · cases decoded
    · exact yields.fromItems decoded
  · exact absurd decoded (Outline.refuse_ne_ok _ _ value)

end Record

end Authoring
