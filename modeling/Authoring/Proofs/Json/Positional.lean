import Mathlib
import Authoring.Proofs.Json.Decoding
import Authoring.Proofs.Outcomes

/-! Records written as arrays. The items of such an array are read as if they had the names of the
fields, in order. It may end early, but it must not have more items than there are fields. -/

namespace Authoring

open Outline (ofJson ofFields)

namespace Record

variable {α β : Type}

/-- The record makes of the items what it makes of members that have its names. What there are more
of than names is left over. -/
def Takes (record : Record α) (origin : Origin) (wanted : String) (outlines : List Outline)
    (result : α × Items) : Prop :=
  record.ofItems origin wanted ⟨outlines, 0, none⟩ = .ok result ↔
    (∀ member ∈ record.names.zip outlines, record.vet origin member.1 member.2 = .ok ()) ∧
    record.ofMembers origin (record.names.zip outlines) = .ok result.1 ∧
    result.2 = ⟨outlines.drop record.names.length, min record.names.length outlines.length, none⟩

structure Positional (record : Record α) : Prop where
  distinct : record.names.Nodup
  looksUp : ∀ origin left right,
    (∀ name ∈ record.names, Fields.get? name left = Fields.get? name right) →
      record.ofMembers origin left = record.ofMembers origin right
  takes : ∀ origin wanted outlines result, record.Takes origin wanted outlines result

theorem Positional.ofItems_eq_ok_iff {record : Record α} (positional : record.Positional)
    {origin : Origin} {wanted : String} {outlines : List Outline} {result : α × Items} :
    record.ofItems origin wanted ⟨outlines, 0, none⟩ = .ok result ↔
      (∀ member ∈ record.names.zip outlines, record.vet origin member.1 member.2 = .ok ()) ∧
      record.ofMembers origin (record.names.zip outlines) = .ok result.1 ∧
      result.2 =
        ⟨outlines.drop record.names.length, min record.names.length outlines.length, none⟩ :=
  positional.takes origin wanted outlines result

theorem of_positional (value : α) : (Record.of value).Positional where
  distinct := List.nodup_nil
  looksUp := fun _ _ _ _ => rfl
  takes := by
    rintro origin wanted outlines ⟨result, items⟩
    simp [Takes, Record.of, Prod.ext_iff, eq_comm]

theorem keys_zip_sublist {γ : Type} (names : List String) (values : List γ) :
    (Fields.keys (names.zip values)).Sublist names := by
  induction names generalizing values with
  | nil => exact List.Sublist.refl _
  | cons name rest ih =>
      cases values with
      | nil => exact List.nil_sublist _
      | cons value later => exact (ih later).cons_cons name

theorem zip_append_short {γ : Type} {names more : List String} {values : List γ}
    (short : values.length ≤ names.length) : (names ++ more).zip values = names.zip values := by
  induction names generalizing values with
  | nil => rw [List.eq_nil_of_length_eq_zero (Nat.le_zero.mp short), List.zip_nil_right,
      List.zip_nil_right]
  | cons name rest ih =>
      cases values with
      | nil => rfl
      | cons value later =>
          exact congrArg ((name, value) :: ·) (ih (Nat.le_of_succ_le_succ short))

section Field

variable {record : Record (α → β)} {name : String} {decoder : Decoder α} {default : α}

theorem names_optional :
    (record.optional name decoder default).names = record.names ++ [name] :=
  rfl

theorem vet_optional_of_ne {origin : Origin} {key : String} (different : key ≠ name)
    (outline : Outline) :
    (record.optional name decoder default).vet origin key outline =
      record.vet origin key outline :=
  if_neg different

theorem vet_optional_self {origin : Origin} (outline : Outline) :
    (record.optional name decoder default).vet origin name outline = .ok () ↔
      ∃ value, decoder origin outline = .ok value := by
  simp only [optional, field, if_true, map_eq_ok_iff, and_true]

theorem ofMembers_optional {origin : Origin} {members : List (String × Outline)} {result : β} :
    (record.optional name decoder default).ofMembers origin members = .ok result ↔
      ∃ build, record.ofMembers origin members = .ok build ∧
        match Fields.get? name members with
        | some outline => ∃ value, decoder origin outline = .ok value ∧ build value = result
        | none => build default = result := by
  simp only [optional, field, bind_eq_ok_iff]
  refine exists_congr fun build => and_congr_right fun _ => ?_
  cases Fields.get? name members with
  | none => simp [pure, Except.pure]
  | some outline => exact map_eq_ok_iff

theorem vets_optional {origin : Origin} {members : List (String × Outline)}
    (different : ∀ member ∈ members, member.1 ≠ name) :
    (∀ member ∈ members,
      (record.optional name decoder default).vet origin member.1 member.2 = .ok ()) ↔
      ∀ member ∈ members, record.vet origin member.1 member.2 = .ok () :=
  forall₂_congr fun member listed => by rw [vet_optional_of_ne (different member listed)]

theorem Positional.takes_short (positional : record.Positional) (fresh : name ∉ record.names)
    {origin : Origin} {wanted : String} {outlines : List Outline}
    (short : outlines.length ≤ record.names.length) (result : β × Items) :
    (record.optional name decoder default).Takes origin wanted outlines result := by
  have shorter : outlines.length ≤ (record.names ++ [name]).length :=
    short.trans (by simp)
  have absent : Fields.get? name (record.names.zip outlines) = none :=
    Fields.get?_eq_none_iff.mpr fun member => fresh ((keys_zip_sublist _ _).mem member)
  have different : ∀ member ∈ record.names.zip outlines, member.1 ≠ name := by
    rintro member listed rfl
    exact fresh (List.of_mem_zip listed).1
  rw [Takes, names_optional, zip_append_short short, vets_optional different, ofMembers_optional,
    absent]
  simp only [optional, field, bind_eq_ok_iff, Prod.exists, positional.ofItems_eq_ok_iff,
    List.drop_eq_nil_of_le short, Nat.min_eq_right short, List.drop_eq_nil_of_le shorter,
    Nat.min_eq_right shorter]
  constructor
  · rintro ⟨build, _, ⟨vets, built, rfl⟩, same⟩
    cases same
    exact ⟨vets, ⟨build, built, rfl⟩, rfl⟩
  · rintro ⟨vets, ⟨build, built, same⟩, ended⟩
    exact ⟨build, _, ⟨vets, built, rfl⟩, congrArg Except.ok (Prod.ext same ended.symm)⟩

theorem Positional.takes_long (positional : record.Positional) (fresh : name ∉ record.names)
    {origin : Origin} {wanted : String} {front rest : List Outline} {outline : Outline}
    (long : front.length = record.names.length) (result : β × Items) :
    (record.optional name decoder default).Takes origin wanted (front ++ outline :: rest)
      result := by
  have before : record.names.zip (front ++ outline :: rest) = record.names.zip front := by
    have split := @List.zip_append _ _ record.names [] front (outline :: rest) long.symm
    simpa using split
  have all : (record.names ++ [name]).zip (front ++ outline :: rest) =
      record.names.zip front ++ [(name, outline)] := by
    rw [List.zip_append long.symm]
    rfl
  have absent : name ∉ Fields.keys (record.names.zip front) :=
    fun member => fresh ((keys_zip_sublist _ _).mem member)
  have different : ∀ member ∈ record.names.zip front, member.1 ≠ name := by
    rintro member listed rfl
    exact fresh (List.of_mem_zip listed).1
  have found : Fields.get? name (record.names.zip front ++ [(name, outline)]) = some outline := by
    rw [Fields.get?_append, Fields.get?_eq_none_iff.mpr absent]
    simp [Fields.get?]
  have looksUp : ∀ origin, record.ofMembers origin (record.names.zip front ++ [(name, outline)]) =
      record.ofMembers origin (record.names.zip front) := by
    refine fun origin => positional.looksUp origin _ _ fun other listed => ?_
    have apart : name ≠ other := fun same => fresh (same ▸ listed)
    rw [Fields.get?_append]
    simp [Fields.get?, apart]
  rw [Takes, names_optional, all, List.forall_mem_append, vets_optional different,
    List.forall_mem_singleton, vet_optional_self, ofMembers_optional, found, looksUp]
  have left : (front ++ outline :: rest).drop record.names.length = outline :: rest := by
    rw [← long, List.drop_left]
  have taken : min record.names.length (front ++ outline :: rest).length = record.names.length :=
    Nat.min_eq_left (by simp [← long])
  have leftAfter : (front ++ outline :: rest).drop (record.names ++ [name]).length = rest := by
    rw [List.length_append, ← long, List.drop_length_add_append]
    rfl
  have takenAfter : min (record.names ++ [name]).length (front ++ outline :: rest).length =
      record.names.length + 1 := by
    rw [List.length_append, List.length_append, long]
    exact Nat.min_eq_left (by simp)
  simp only [optional, field, bind_eq_ok_iff, Prod.exists, positional.ofItems_eq_ok_iff, before,
    left, taken, leftAfter, takenAfter]
  constructor
  · rintro ⟨build, _, ⟨vets, built, rfl⟩, after⟩
    obtain ⟨value, decoded, same⟩ := bind_eq_ok_iff.mp after
    cases same
    exact ⟨⟨vets, value, decoded⟩, ⟨build, built, value, decoded, rfl⟩, rfl⟩
  · rintro ⟨⟨vets, _⟩, ⟨build, built, value, decoded, same⟩, ended⟩
    refine ⟨build, _, ⟨vets, built, rfl⟩, bind_eq_ok_iff.mpr ⟨value, decoded, ?_⟩⟩
    exact congrArg Except.ok (Prod.ext same ended.symm)

theorem Positional.optional (positional : record.Positional) (fresh : name ∉ record.names) :
    (record.optional name decoder default).Positional where
  distinct := by
    have single : [name].Nodup := List.nodup_singleton name
    refine List.Nodup.append positional.distinct single fun other listed same => ?_
    exact fresh (List.mem_singleton.mp same ▸ listed)
  looksUp := by
    intro origin left right same
    have earlier := positional.looksUp origin left right fun other listed =>
      same other (List.mem_append_left _ listed)
    have here := same name (List.mem_append_right _ List.mem_cons_self)
    simp only [Record.optional, field, earlier, here]
  takes := by
    intro origin wanted outlines result
    rcases Nat.lt_or_ge record.names.length outlines.length with long | short
    · obtain ⟨outline, rest, tail⟩ := List.exists_cons_of_ne_nil
        (mt List.drop_eq_nil_iff.mp (Nat.not_le.mpr long))
      have front : (outlines.take record.names.length).length = record.names.length :=
        List.length_take_of_le long.le
      have split := List.take_append_drop record.names.length outlines
      rw [tail] at split
      rw [← split]
      exact positional.takes_long fresh front result
    · exact positional.takes_short fresh short result

end Field

section Whole

variable {record : Record α} {origin : Origin} {result : α}

theorem fromMembers_eq_ok_iff {fields : List (String × Json)}
    (distinct : (Fields.keys fields).Nodup)
    (known : ∀ name ∈ Fields.keys fields, name ∈ record.names) :
    record.fromMembers origin (ofFields fields) none = .ok result ↔
      (∀ field ∈ fields, record.vet origin field.1 (ofJson field.2) = .ok ()) ∧
      record.ofMembers origin (fields.map fun field => (field.1, ofJson field.2)) = .ok result := by
  have named : ∀ field ∈ fields, field.1 ∈ record.names := fun field listed =>
    known field.1 (List.mem_map_of_mem listed)
  by_cases vets : ∀ field ∈ fields, record.vet origin field.1 (ofJson field.2) = .ok ()
  · have vetted := @vetMembers_ok _ record origin fields [] distinct
      (fun _ _ => List.not_mem_nil) fun field listed _ => vets field listed
    rw [List.filter_eq_self.mpr fun field listed => decide_eq_true (named field listed)] at vetted
    rw [fromMembers, vetted]
    exact (and_iff_right vets).symm
  · refine iff_of_false (fun read => ?_) fun both => vets both.1
    push Not at vets
    obtain ⟨field, listed, refused⟩ := vets
    obtain ⟨fault, failed⟩ := record.fromMembers_refuses listed (named field listed) (by
      cases vetted : record.vet origin field.1 (ofJson field.2) with
      | ok => exact absurd vetted refused
      | error fault => exact ⟨fault, rfl⟩)
    rw [read] at failed
    cases failed

theorem Positional.fromItems_eq_ok_iff (positional : record.Positional) {type : String}
    {items : List Json} :
    record.fromItems type origin (Outline.ofItems items) none = .ok result ↔
      items.length ≤ record.names.length ∧
        record.fromMembers origin (ofFields (record.names.zip items)) none = .ok result := by
  have distinct : (Fields.keys (record.names.zip items)).Nodup :=
    positional.distinct.sublist (keys_zip_sublist _ _)
  have named : record.names.zip (Outline.ofItems items) =
      (record.names.zip items).map fun field => (field.1, ofJson field.2) := by
    rw [Outline.ofItems_eq_map, List.zip_map_right]
    rfl
  rw [fromMembers_eq_ok_iff distinct fun name listed => (keys_zip_sublist _ _).mem listed,
    fromItems, bind_eq_ok_iff]
  simp only [Prod.exists, positional.ofItems_eq_ok_iff, named, List.forall_mem_map]
  have length : (Outline.ofItems items).length = items.length := by
    rw [Outline.ofItems_eq_map, List.length_map]
  constructor
  · rintro ⟨value, _, ⟨vets, built, rfl⟩, finished⟩
    simp only [finish] at finished
    split at finished
    · rename_i ended
      rw [List.drop_eq_nil_iff, length] at ended
      cases finished
      exact ⟨ended, vets, built⟩
    all_goals cases finished
  · rintro ⟨short, vets, built⟩
    refine ⟨result, _, ⟨vets, built, rfl⟩, ?_⟩
    rw [List.drop_eq_nil_of_le (length.trans_le short)]
    cases origin <;> rfl

end Whole

end Record

namespace Decoder

variable {α : Type} {decoder : Decoder α} {value : Json}

def Refuses (decoder : Decoder α) (value : Json) : Prop :=
  ∀ origin outline, outline.Shows value → ∃ fault, decoder origin outline = .error fault

theorem reads_unique {one other : α} (reads : decoder.Reads value one)
    (again : decoder.Reads value other) : one = other :=
  Except.ok.inj ((reads.sorted .tree _ rfl).symm.trans (again.sorted .tree _ rfl))

theorem lenient_refused (default : α) (refuses : decoder.Refuses value) :
    (lenient default decoder).Reads value default := by
  have sorted : (ofJson value.sorted).Shows value :=
    ⟨value.sorted, Json.sorted_distinct value, Json.sorted_sorted value, rfl⟩
  obtain ⟨fault, refused⟩ := refuses .tree _ sorted
  intro origin outline shows
  rw [lenient, json_reads value origin outline shows]
  simp only [bind, Except.bind, decodeJson, refused]
  rfl

end Decoder

namespace Json

/-- The fields of an object. The items of an array are taken for the fields of the names, in order,
when there are not too many of them. -/
def named? (names : List String) : Json → Option (Fields Json)
  | .object held => some held
  | .array items => if items.length ≤ names.length then some (names.zip items) else none
  | _ => none

theorem named?_array_eq_some_iff {names : List String} {items : List Json} {held : Fields Json} :
    (Json.array items).named? names = some held ↔
      items.length ≤ names.length ∧ held = names.zip items := by
  simp [named?, eq_comm]

theorem named?_distinct {names : List String} {value : Json} {held : Fields Json}
    (distinct : value.Distinct) (names_distinct : names.Nodup)
    (named : value.named? names = some held) : (Json.object held).Distinct := by
  cases value with
  | object fields =>
      cases named
      exact distinct
  | array items =>
      obtain ⟨_, rfl⟩ := named?_array_eq_some_iff.mp named
      refine distinct_object_iff.mpr
        ⟨names_distinct.sublist (Record.keys_zip_sublist _ _), fun field listed => ?_⟩
      exact distinct_array_iff.mp distinct _ (List.of_mem_zip listed).2
  | null | bool | number | string => cases named

theorem sorted_zip {names : List String} {items found : List Json}
    (alike : found.map sorted = items.map sorted) :
    (Json.object (names.zip found)).sorted = (Json.object (names.zip items)).sorted := by
  have fields : ∀ values : List Json,
      sortedFields (names.zip values) = names.zip (values.map sorted) := by
    intro values
    rw [sortedFields_eq_map, List.zip_map_right]
    rfl
  rw [sorted, sorted, fields, fields, alike]

end Json

namespace Outline

theorem Shows.array {outline : Outline} {items : List Json} (shows : outline.Shows (.array items))
    {names : List String} (distinct : names.Nodup) :
    ∃ found, outline = ofJson (.array found) ∧ found.length = items.length ∧
      (ofJson (.object (names.zip found))).Shows (.object (names.zip items)) := by
  obtain ⟨form, formDistinct, alike, rfl⟩ := shows
  cases form with
  | array found =>
      rw [Json.sorted, Json.sorted, Json.sortedItems_eq_map, Json.sortedItems_eq_map] at alike
      have same := Json.array.inj alike
      have length : found.length = items.length := by simpa using congrArg List.length same
      refine ⟨found, rfl, length, _, ?_, Json.sorted_zip same, rfl⟩
      refine Json.distinct_object_iff.mpr
        ⟨distinct.sublist (Record.keys_zip_sublist _ _), fun field listed => ?_⟩
      exact Json.distinct_array_iff.mp formDistinct _ (List.of_mem_zip listed).2
  | null | bool | number | string | object => simp [Json.sorted] at alike

end Outline

namespace Record

variable {α : Type} {record : Record α} {type : String} {value : Json} {held : Fields Json}

theorem Positional.reads_named (positional : record.Positional) {result : α}
    (named : value.named? record.names = some held)
    (reads : (record.decoder type).Reads (.object held) result) :
    (record.decoder type).Reads value result := by
  cases value with
  | object fields =>
      cases named
      exact reads
  | array items =>
      obtain ⟨short, rfl⟩ := Json.named?_array_eq_some_iff.mp named
      intro origin outline shows
      obtain ⟨found, rfl, length, showsNamed⟩ := shows.array positional.distinct
      exact positional.fromItems_eq_ok_iff.mpr ⟨length.trans_le short, reads origin _ showsNamed⟩
  | null | bool | number | string => cases named

theorem Positional.refuses_named (positional : record.Positional)
    (named : value.named? record.names = some held)
    (refuses : (record.decoder type).Refuses (.object held)) :
    (record.decoder type).Refuses value := by
  cases value with
  | object fields =>
      cases named
      exact refuses
  | array items =>
      obtain ⟨short, rfl⟩ := Json.named?_array_eq_some_iff.mp named
      intro origin outline shows
      obtain ⟨found, rfl, _, showsNamed⟩ := shows.array positional.distinct
      obtain ⟨fault, refused⟩ := refuses origin _ showsNamed
      cases outcome : record.decoder type origin (ofJson (.array found)) with
      | error fault => exact ⟨fault, rfl⟩
      | ok result =>
          have read := (positional.fromItems_eq_ok_iff.mp outcome).2
          exact absurd (refused.symm.trans read) nofun
  | null | bool | number | string => cases named

theorem Positional.refuses_unnamed (positional : record.Positional)
    (unnamed : value.named? record.names = none) : (record.decoder type).Refuses value := by
  intro origin outline shows
  cases value with
  | object => cases unnamed
  | array items =>
      obtain ⟨found, rfl, length, _⟩ := shows.array positional.distinct
      cases outcome : record.decoder type origin (ofJson (.array found)) with
      | error fault => exact ⟨fault, rfl⟩
      | ok result =>
          have short := length.symm.trans_le (positional.fromItems_eq_ok_iff.mp outcome).1
          simp [Json.named?, short] at unnamed
  | null | bool | number | string =>
      obtain ⟨form, _, alike, rfl⟩ := shows
      cases form with
      | null | bool | number | string => exact ⟨_, rfl⟩
      | array | object => simp [Json.sorted] at alike

theorem object_refused {fields : List (String × Json)} {name : String}
    (found : Fields.get? name fields = some value) (known : name ∈ record.names)
    (distinct : (Fields.keys fields).Nodup)
    (refuses : ∀ origin outline, outline.Shows value →
      ∃ fault, record.vet origin name outline = .error fault) :
    (record.decoder type).Refuses (.object fields) := by
  rintro origin outline ⟨form, formDistinct, alike, rfl⟩
  cases form with
  | object held =>
      have same := (Json.get?_sorted formDistinct name).symm.trans
        ((congrArg (Json.get? · name) alike).trans (Json.get?_sorted_object distinct name))
      simp only [Json.get?, Json.fields?, Option.bind_some, found, Option.map_some,
        Option.map_eq_some_iff] at same
      obtain ⟨form, member, alike⟩ := same
      refine record.fromMembers_refuses (Fields.mem_of_get? member) known ?_
      exact refuses origin _ ⟨form, formDistinct.get? member, alike, rfl⟩
  | null | bool | number | string | array => simp [Json.sorted] at alike

end Record

end Authoring
