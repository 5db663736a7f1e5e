import Mathlib
import Authoring.Json.Record
import Authoring.Proofs.Json.Distinct

/-! Decoding documents in memory. What a decoder makes of a document does not depend on the order of
its fields, so a value is read by the relation below from all of its forms at once. -/

namespace Authoring

section Lists

variable {α β : Type} {relates : α → β → Prop} {items : List α}

theorem exists_forall₂ (each : ∀ item ∈ items, ∃ value, relates item value) :
    ∃ values, List.Forall₂ relates items values := by
  induction items with
  | nil => exact ⟨[], .nil⟩
  | cons item rest ih =>
      obtain ⟨first, related⟩ := each item List.mem_cons_self
      obtain ⟨later, tail⟩ := ih fun other member => each other (List.mem_cons_of_mem _ member)
      exact ⟨first :: later, .cons related tail⟩

theorem exists_of_forall₂ {values : List β} (related : List.Forall₂ relates items values) {item : α}
    (member : item ∈ items) : ∃ value ∈ values, relates item value := by
  induction related with
  | nil => cases member
  | cons first _ ih =>
      rcases List.mem_cons.mp member with rfl | later
      · exact ⟨_, List.mem_cons_self, first⟩
      · obtain ⟨value, listed, tail⟩ := ih later
        exact ⟨value, List.mem_cons_of_mem _ listed, tail⟩

end Lists

namespace Outline

mutual
theorem read_ofJson : (document : Json) → (ofJson document).read = .ok document
  | .null => rfl
  | .bool _ => rfl
  | .number _ => rfl
  | .string _ => rfl
  | .array items => by
      simp only [ofJson, read, readItems_ofItems items]
      rfl
  | .object fields => by
      simp only [ofJson, read, readMembers_ofFields fields]
      rfl

theorem readItems_ofItems : (items : List Json) → readItems (ofItems items) = .ok items
  | [] => rfl
  | item :: rest => by
      simp only [ofItems, readItems, read_ofJson item, readItems_ofItems rest]
      rfl

theorem readMembers_ofFields : (fields : List (String × Json)) →
    readMembers (ofFields fields) = .ok fields
  | [] => rfl
  | (name, value) :: rest => by
      simp only [ofFields, readMembers, Outline.name, read_ofJson value, readMembers_ofFields rest]
      rfl
end

mutual
theorem skip_ofJson : (document : Json) → (ofJson document).skip = .ok ()
  | .null => rfl
  | .bool _ => rfl
  | .number _ => rfl
  | .string _ => rfl
  | .array items => by
      simp only [ofJson, skip, skipItems_ofItems items]
      rfl
  | .object fields => by
      simp only [ofJson, skip, skipMembers_ofFields fields]
      rfl

theorem skipItems_ofItems : (items : List Json) → skipItems (ofItems items) = .ok ()
  | [] => rfl
  | item :: rest => by
      simp only [ofItems, skipItems, skip_ofJson item, skipItems_ofItems rest]
      rfl

theorem skipMembers_ofFields : (fields : List (String × Json)) →
    skipMembers (ofFields fields) = .ok ()
  | [] => rfl
  | (name, value) :: rest => by
      simp only [ofFields, skipMembers, skipName, skip_ofJson value, skipMembers_ofFields rest]
      rfl
end

theorem ofItems_eq_map (items : List Json) : ofItems items = items.map ofJson := by
  induction items with
  | nil => rfl
  | cons item rest ih => rw [ofItems, ih, List.map_cons]

/-- The outline has the fields of the value, in any order. -/
def Shows (outline : Outline) (value : Json) : Prop :=
  ∃ form : Json, form.Distinct ∧ form.sorted = value.sorted ∧ outline = ofJson form

theorem shows_ofJson {value : Json} (distinct : value.Distinct) : (ofJson value).Shows value :=
  ⟨value, distinct, rfl, rfl⟩

theorem shows_sorted_iff {outline : Outline} {value : Json} :
    outline.Shows value.sorted ↔ outline.Shows value := by
  rw [Shows, Shows, Json.sorted_sorted]

/-- The outline has the fields of the value in their order. -/
def Copies (outline : Outline) (value : Json) : Prop :=
  outline = ofJson value

end Outline

open Outline (ofJson ofItems ofFields)

namespace Decoder

variable {α : Type} {stands : Outline → Json → Prop} {decoder : Decoder α} {value : Json}
  {result : α}

/-- The decoder makes the result of all outlines that stand for the value. -/
def ReadsBy (stands : Outline → Json → Prop) (decoder : Decoder α) (value : Json)
    (result : α) : Prop :=
  ∀ (origin : Origin) (outline : Outline),
    stands outline value → decoder origin outline = .ok result

abbrev Reads (decoder : Decoder α) (value : Json) (result : α) : Prop :=
  decoder.ReadsBy Outline.Shows value result

theorem Reads.sorted (reads : decoder.Reads value result) :
    decoder.ReadsBy Outline.Copies value.sorted result := by
  rintro origin outline rfl
  exact reads origin _ ⟨value.sorted, Json.sorted_distinct value, Json.sorted_sorted value, rfl⟩

theorem Reads.decodeJson (reads : decoder.Reads value result) (distinct : value.Distinct) :
    decoder.decodeJson value = .ok result :=
  reads .tree _ (Outline.shows_ofJson distinct)

theorem Reads.copies (reads : decoder.Reads value result) (distinct : value.Distinct) :
    decoder.ReadsBy Outline.Copies value result := by
  rintro origin outline rfl
  exact reads origin _ (Outline.shows_ofJson distinct)

theorem ReadsBy.decodeText (reads : decoder.ReadsBy Outline.Copies value result) :
    decoder.decodeText ⟨ofJson value, false⟩ = .ok result := by
  have read := reads .text _ rfl
  simp only [Decoder.decodeText, read, bind, Except.bind, Bool.false_eq_true, if_false]

theorem string_reads (text : String) : Decoder.string.Reads (.string text) text := by
  rintro origin outline ⟨form, _, alike, rfl⟩
  rw [Json.eq_of_sorted_eq_string alike]
  rfl

theorem option_reads (reads : decoder.Reads value result) (notNull : value ≠ .null) :
    (option decoder).Reads value (some result) := by
  intro origin outline shows
  have found := reads origin outline shows
  obtain ⟨form, _, alike, rfl⟩ := shows
  cases form with
  | null => exact absurd (Json.eq_of_sorted_eq_null alike.symm) notNull
  | bool | number | string | array | object =>
      simp only [ofJson, option] at found ⊢
      rw [found]
      rfl

theorem option_copies (reads : decoder.ReadsBy Outline.Copies value result)
    (notNull : value ≠ .null) : (option decoder).ReadsBy Outline.Copies value (some result) := by
  rintro origin outline rfl
  have found := reads origin _ rfl
  cases value with
  | null => exact absurd rfl notNull
  | bool | number | string | array | object =>
      simp only [ofJson, option] at found ⊢
      rw [found]
      rfl

theorem variant_reads {variants : List (String × α)} {name : String}
    (found : Fields.get? name variants = some result) :
    (variant variants).Reads (.string name) result := by
  rintro origin outline ⟨form, _, alike, rfl⟩
  rw [Json.eq_of_sorted_eq_string alike]
  simp [ofJson, variant, variantNamed, found]

theorem integer_copies {least greatest whole : Int} (low : least ≤ whole) (high : whole ≤ greatest)
    (wide : -0x8000000000000000 ≤ whole ∧ whole < 0x10000000000000000) (wanted : String) :
    (integer least greatest wanted).ReadsBy Outline.Copies (.ofInt whole) whole := by
  rintro origin outline rfl
  simp [Json.ofInt, WideInt.ofInt?, wide, ofJson, integer, low, high]

theorem map_copies {β : Type} (reads : decoder.ReadsBy Outline.Copies value result)
    (change : α → β) : (map change decoder).ReadsBy Outline.Copies value (change result) := by
  intro origin outline copies
  rw [map, reads origin outline copies]
  rfl

theorem int64_copies (value : Int64) : int64.ReadsBy Outline.Copies (.ofInt value.toInt) value := by
  have least := value.le_toInt
  have greatest := value.toInt_lt
  have read := map_copies (@integer_copies (-0x8000000000000000) 0x7fffffffffffffff value.toInt
    (by omega) (by omega) (by omega) "i64") Int64.ofInt
  rwa [Int64.ofInt_toInt] at read

theorem uint64_copies (value : UInt64) (wanted : String) :
    (uint64 wanted).ReadsBy Outline.Copies (.ofNat value.toNat) value := by
  have greatest := value.toNat_lt
  have read := map_copies (@integer_copies 0 0xffffffffffffffff value.toNat
    (by omega) (by omega) (by omega) wanted) fun whole => UInt64.ofNat whole.toNat
  rwa [Int.toNat_natCast, UInt64.ofNat_toNat] at read

theorem json_reads (value : Json) : json.Reads value value.sorted := by
  rintro origin outline ⟨form, _, alike, rfl⟩
  rw [json, Outline.read_ofJson, lift, Except.map, alike]

theorem lenient_reads (default : α) (reads : decoder.Reads value result) :
    (lenient default decoder).Reads value result := by
  intro origin outline shows
  have found : decoder.decodeJson value.sorted = .ok result := reads.sorted .tree _ rfl
  rw [lenient, json_reads value origin outline shows]
  simp only [bind, Except.bind, found]
  rfl

def valueOr (default : α) (decoder : Decoder α) (value : Json) : α :=
  match decoder.decodeJson value.sorted with
  | .ok result => result
  | .error _ => default

theorem lenient_reads_valueOr (default : α) (decoder : Decoder α) (value : Json) :
    (lenient default decoder).Reads value (valueOr default decoder value) := by
  intro origin outline shows
  rw [lenient, json_reads value origin outline shows, valueOr]
  simp only [bind, Except.bind]
  cases decoder.decodeJson value.sorted <;> rfl

theorem lenientNumber_reads (value : Json) :
    lenientNumber.Reads value (value.number?.map Number.toFloat) := by
  intro origin outline shows
  rw [lenientNumber, json_reads value origin outline shows, Except.map, Json.number?_sorted]

theorem mapM_reads {items : List Outline} {values : List Json} {results : List α} {origin : Origin}
    (reads : List.Forall₂ (decoder.ReadsBy stands) values results)
    (shows : List.Forall₂ stands items values) :
    items.mapM (decoder origin) = .ok results := by
  induction reads generalizing items with
  | nil =>
      cases shows
      rfl
  | cons first _ ih =>
      cases shows with
      | cons firstShows laterShows =>
          rw [List.mapM_cons, first origin _ firstShows, ih laterShows]
          rfl

theorem list_reads {items : List Json} {results : List α}
    (reads : List.Forall₂ decoder.Reads items results) :
    (list decoder).Reads (.array items) results := by
  rintro origin outline ⟨form, distinct, alike, rfl⟩
  cases form with
  | array found =>
      have same : found.map Json.sorted = items.map Json.sorted := by
        simpa only [Json.sorted, Json.sortedItems_eq_map, Json.array.injEq] using alike
      have shows : List.Forall₂ Outline.Shows (ofItems found) items := by
        rw [Outline.ofItems_eq_map, List.forall₂_map_left_iff]
        rw [← List.forall₂_eq_eq_eq, List.forall₂_map_left_iff, List.forall₂_map_right_iff] at same
        have both := (List.forall₂_and_left _ _).mpr ⟨Json.distinct_array_iff.mp distinct, same⟩
        refine List.Forall₂.imp ?_ both
        exact fun form value ⟨distinct, alike⟩ => ⟨form, distinct, alike, rfl⟩
      simp only [ofJson, list, mapM_reads reads shows]
      rfl
  | null | bool | number | string | object => simp [Json.sorted] at alike

theorem list_copies {items : List Json} {results : List α}
    (reads : List.Forall₂ (decoder.ReadsBy Outline.Copies) items results) :
    (list decoder).ReadsBy Outline.Copies (.array items) results := by
  rintro origin outline rfl
  have copies : List.Forall₂ Outline.Copies (ofItems items) items := by
    rw [Outline.ofItems_eq_map, List.forall₂_map_left_iff]
    exact List.forall₂_same.mpr fun _ _ => rfl
  simp only [ofJson, list, mapM_reads reads copies]
  rfl

theorem list_sorted {β : Type} {items : List β} {encode : β → Json} {make : β → α}
    (reads : ∀ item ∈ items, decoder.ReadsBy Outline.Copies (encode item).sorted (make item)) :
    (list decoder).ReadsBy Outline.Copies (Json.array (items.map encode)).sorted
      (items.map make) := by
  rw [Json.sorted, Json.sortedItems_eq_map, List.map_map]
  apply list_copies
  rw [List.forall₂_map_left_iff, List.forall₂_map_right_iff, List.forall₂_same]
  exact reads

theorem fields_copies {make : Json → α} {fields : List (String × Json)}
    (reads : ∀ field ∈ fields, decoder.ReadsBy Outline.Copies field.2 (make field.2)) :
    (Decoder.fields decoder).ReadsBy Outline.Copies (.object fields)
      (Fields.collect (fields.map fun field => (field.1, make field.2))) := by
  rintro origin outline rfl
  have pairs : ((ofFields fields).mapM fun (member : Outline × Outline) => do
      let name ← lift member.1.name
      let found ← decoder origin member.2
      return (name, found)) = .ok (fields.map fun field => (field.1, make field.2)) := by
    induction fields with
    | nil => rfl
    | cons field rest ih =>
        have here := reads field List.mem_cons_self origin _ rfl
        have later := ih fun other member => reads other (List.mem_cons_of_mem _ member)
        rw [ofFields, List.mapM_cons, later]
        simp only [Outline.name, lift, here, List.map_cons, bind, Except.bind, pure, Except.pure]
  simp only [ofJson, Decoder.fields, Bool.false_eq_true, if_false, pairs]
  rfl

theorem list_refuses (notArray : value.items? = none) (origin : Origin) :
    ∃ fault, list decoder origin (ofJson value) = .error fault := by
  cases value with
  | array items => simp [Json.items?] at notArray
  | null | bool | number | string | object => exact ⟨_, rfl⟩

def ReadsField (decoder : Decoder α) (default : α) : Option Json → α → Prop
  | some value, result => decoder.Reads value result
  | none, result => result = default

def fieldOr (default : α) (decoder : Decoder α) : Option Json → α
  | some value => valueOr default decoder value
  | none => default

theorem lenient_reads_fieldOr (default : α) (decoder : Decoder α) (value? : Option Json) :
    (lenient default decoder).ReadsField default value? (fieldOr default decoder value?) := by
  cases value? with
  | none => rfl
  | some value => exact lenient_reads_valueOr default decoder value

def itemsOr (default : α) (decoder : Decoder α) : Option Json → List α
  | some (.array items) => items.map (valueOr default decoder)
  | _ => []

theorem lenientList_reads_itemsOr (default : α) (decoder : Decoder α) {value? : Option Json}
    (isList : ∀ value, value? = some value → value.items?.isSome) :
    (lenientList default decoder).ReadsField [] value? (itemsOr default decoder value?) := by
  cases value? with
  | none => rfl
  | some value =>
      obtain ⟨items, written⟩ := Option.isSome_iff_exists.mp (isList value rfl)
      cases value with
      | array items =>
          refine list_reads (List.forall₂_map_right_iff.mpr (List.forall₂_same.mpr ?_))
          exact fun item _ => lenient_reads_valueOr default decoder item
      | null | bool | number | string | object => cases written

end Decoder

def Json.HasLists (names : List String) (held : Fields Json) : Prop :=
  ∀ name ∈ names, ∀ value, Fields.get? name held = some value → value.items?.isSome

namespace Record

variable {α β : Type} {stands : Outline → Json → Prop} {record : Record α}
  {lookup : String → Option Json} {result : α}

structure ReadsBy (stands : Outline → Json → Prop) (record : Record α)
    (lookup : String → Option Json) (result : α) : Prop where
  vets : ∀ (origin : Origin) (name : String) (value : Json) (outline : Outline),
    name ∈ record.names → lookup name = some value → stands outline value →
      record.vet origin name outline = .ok ()
  builds : ∀ (origin : Origin) (members : List (String × Outline)),
    (∀ name ∈ record.names, Option.Rel stands (Fields.get? name members) (lookup name)) →
      record.ofMembers origin members = .ok result

abbrev Reads (record : Record α) (lookup : String → Option Json) (result : α) : Prop :=
  record.ReadsBy Outline.Shows lookup result

theorem of_reads (result : α) : (Record.of result).ReadsBy stands lookup result where
  vets := fun _ _ _ _ _ _ _ => rfl
  builds := fun _ _ _ => rfl

theorem ReadsBy.field {record : Record (α → β)} {build : α → β} {name : String}
    {decoder : Decoder α} {default? : Option α} {value : α}
    (reads : record.ReadsBy stands lookup build)
    (present : ∀ held, lookup name = some held → decoder.ReadsBy stands held value)
    (absent : lookup name = none → default? = some value) :
    (record.field name decoder default?).ReadsBy stands lookup (build value) where
  vets := by
    intro origin key held outline known found standing
    simp only [Record.field] at known ⊢
    split
    · rename_i same
      rw [same] at found
      rw [present held found origin outline standing]
      rfl
    · rename_i different
      rcases List.mem_append.mp known with known | known
      · exact reads.vets origin key held outline known found standing
      · exact absurd (List.mem_singleton.mp known) different
  builds := by
    intro origin members matched
    have built := reads.builds origin members fun other known =>
      matched other (List.mem_append_left _ known)
    have here := matched name (List.mem_append_right _ List.mem_cons_self)
    simp only [Record.field, built, bind, Except.bind]
    cases found : lookup name with
    | none =>
        rw [found] at here
        cases member : Fields.get? name members with
        | none =>
            rw [absent found]
            rfl
        | some outline =>
            rw [member] at here
            cases here
    | some held =>
        rw [found] at here
        cases member : Fields.get? name members with
        | none =>
            rw [member] at here
            cases here
        | some outline =>
            rw [member] at here
            cases here with
            | some standing =>
                simp only [present held found origin outline standing]
                rfl

theorem ReadsBy.required {record : Record (α → β)} {build : α → β} {name : String}
    {decoder : Decoder α} {held : Json} {value : α} (reads : record.ReadsBy stands lookup build)
    (found : lookup name = some held) (field : decoder.ReadsBy stands held value) :
    (record.required name decoder).ReadsBy stands lookup (build value) := by
  refine reads.field (fun other same => ?_) fun missing => ?_
  · rw [found] at same
    rwa [← Option.some.inj same]
  · rw [found] at missing
    cases missing

theorem ReadsBy.optional {record : Record (α → β)} {build : α → β} {name : String}
    {decoder : Decoder α} {default : α} {value : α}
    (reads : record.ReadsBy Outline.Shows lookup build)
    (field : decoder.ReadsField default (lookup name) value) :
    (record.optional name decoder default).ReadsBy Outline.Shows lookup (build value) := by
  refine reads.field (fun held found => ?_) fun missing => ?_
  · rwa [found] at field
  · rw [missing] at field
    rw [show value = default from field]

theorem ReadsBy.option {record : Record (Option α → β)} {build : Option α → β} {name : String}
    {decoder : Decoder α} {encode : α → Json} {value? : Option α}
    (reads : record.ReadsBy Outline.Copies lookup build)
    (found : lookup name = value?.map encode)
    (field : ∀ value, value? = some value →
      decoder.ReadsBy Outline.Copies (encode value) value ∧ encode value ≠ .null) :
    (record.optional name (.option decoder) none).ReadsBy Outline.Copies lookup
      (build value?) := by
  refine reads.field (fun held present => ?_) fun absent => ?_
  · rw [found, Option.map_eq_some_iff] at present
    obtain ⟨value, rfl, rfl⟩ := present
    obtain ⟨reading, notNull⟩ := field value rfl
    exact Decoder.option_copies reading notNull
  · rw [found, Option.map_eq_none_iff] at absent
    rw [absent]

theorem vetMembers_ok {origin : Origin} {fields : List (String × Json)} {seen : List String}
    (distinct : (Fields.keys fields).Nodup) (fresh : ∀ name ∈ Fields.keys fields, name ∉ seen)
    (vets : ∀ field ∈ fields, field.1 ∈ record.names →
      record.vet origin field.1 (ofJson field.2) = .ok ()) :
    record.vetMembers origin seen (ofFields fields) =
      .ok ((fields.filter fun field => decide (field.1 ∈ record.names)).map fun field =>
        (field.1, ofJson field.2)) := by
  induction fields generalizing seen with
  | nil => rfl
  | cons field rest ih =>
      obtain ⟨name, value⟩ := field
      obtain ⟨different, distinct⟩ := List.nodup_cons.mp distinct
      have unseen : name ∉ seen := fresh name List.mem_cons_self
      have laterVets : ∀ field ∈ rest, field.1 ∈ record.names →
          record.vet origin field.1 (ofJson field.2) = .ok () :=
        fun field member => vets field (List.mem_cons_of_mem _ member)
      simp only [ofFields, vetMembers, Outline.name, lift, bind, Except.bind]
      by_cases known : name ∈ record.names
      · have laterFresh : ∀ other ∈ Fields.keys rest, other ∉ name :: seen := by
          intro other member
          rw [List.mem_cons, not_or]
          refine ⟨?_, fresh other (List.mem_cons_of_mem _ member)⟩
          rintro rfl
          exact different member
        have vetted := vets (name, value) List.mem_cons_self known
        simp only [known, unseen, if_true, if_false, vetted, ih distinct laterFresh laterVets,
          decide_true, List.filter_cons_of_pos, List.map_cons]
        rfl
      · have laterFresh : ∀ other ∈ Fields.keys rest, other ∉ seen :=
          fun other member => fresh other (List.mem_cons_of_mem _ member)
        simp only [known, if_false, Outline.skip_ofJson, ih distinct laterFresh laterVets,
          decide_false, Bool.false_eq_true, not_false_eq_true, List.filter_cons_of_neg]

theorem vetMembers_refuses {origin : Origin} {fields : List (String × Json)} {seen : List String}
    {name : String} {value : Json} (member : (name, value) ∈ fields) (known : name ∈ record.names)
    (refused : ∃ fault, record.vet origin name (ofJson value) = .error fault) :
    ∃ fault, record.vetMembers origin seen (ofFields fields) = .error fault := by
  induction fields generalizing seen with
  | nil => cases member
  | cons field rest ih =>
      obtain ⟨first, held⟩ := field
      simp only [ofFields, vetMembers, Outline.name, lift, bind, Except.bind]
      split
      · split
        · exact ⟨_, rfl⟩
        · cases vetted : record.vet origin first (ofJson held) with
          | error fault => exact ⟨fault, rfl⟩
          | ok _ =>
              rcases List.mem_cons.mp member with same | member
              · obtain ⟨fault, refused⟩ := refused
                injection same with sameName sameValue
                rw [sameName, sameValue, vetted] at refused
                cases refused
              · obtain ⟨fault, refused⟩ := @ih (first :: seen) member
                simp only [refused]
                exact ⟨fault, rfl⟩
      · rename_i unknown
        rcases List.mem_cons.mp member with same | member
        · injection same with sameName sameValue
          exact absurd (sameName ▸ known) unknown
        · simp only [Outline.skip_ofJson]
          exact ih member

theorem fromMembers_refuses {origin : Origin} {fields : List (String × Json)} {name : String}
    {value : Json} (member : (name, value) ∈ fields) (known : name ∈ record.names)
    (refused : ∃ fault, record.vet origin name (ofJson value) = .error fault) :
    ∃ fault, record.fromMembers origin (ofFields fields) none = .error fault := by
  obtain ⟨fault, refused⟩ := @vetMembers_refuses _ record origin fields [] _ _ member known refused
  simp only [fromMembers, refused]
  exact ⟨fault, rfl⟩

theorem get?_outlines (name : String) (fields : List (String × Json)) :
    Fields.get? name (fields.map fun field => (field.1, ofJson field.2)) =
      (Fields.get? name fields).map ofJson :=
  Fields.get?_map (fun _ value => ofJson value) fields

theorem fromMembers_reads {fields : List (String × Json)} (origin : Origin)
    (distinct : (Fields.keys fields).Nodup)
    (matched : ∀ name ∈ record.names,
      Option.Rel stands ((Fields.get? name fields).map ofJson) (lookup name))
    (reads : record.ReadsBy stands lookup result) :
    record.fromMembers origin (ofFields fields) none = .ok result := by
  have vets : ∀ field ∈ fields, field.1 ∈ record.names →
      record.vet origin field.1 (ofJson field.2) = .ok () := by
    rintro ⟨name, value⟩ member known
    have here := matched name known
    rw [Fields.get?_of_mem distinct member] at here
    cases found : lookup name with
    | none =>
        rw [found] at here
        cases here
    | some held =>
        rw [found] at here
        cases here with
        | some shows => exact reads.vets origin name held _ known found shows
  have known := @vetMembers_ok _ record origin fields [] distinct (fun _ _ => List.not_mem_nil) vets
  have built := reads.builds origin _ (fun name known => by
    rw [get?_outlines, Fields.get?_filter_name (fun name => decide (name ∈ record.names)),
      if_pos (decide_eq_true known)]
    exact matched name known)
  simp only [fromMembers, known, Outline.endOf, lift, bind, Except.bind]
  exact built

theorem decoder_reads {fields : List (String × Json)} (type : String)
    (distinct : (Fields.keys fields).Nodup)
    (reads : record.Reads (Json.object fields).get? result) :
    (record.decoder type).Reads (.object fields) result := by
  rintro origin outline ⟨form, formDistinct, alike, rfl⟩
  cases form with
  | object found =>
      have keys := (Json.distinct_object_iff.mp formDistinct).1
      refine fromMembers_reads origin keys (fun name _ => ?_) reads
      have same := (Json.get?_sorted formDistinct name).symm.trans
        ((congrArg (Json.get? · name) alike).trans (Json.get?_sorted_object distinct name))
      simp only [Json.get?, Json.fields?, Option.bind_some] at same ⊢
      cases held : Fields.get? name found with
      | none =>
          rw [held, Option.map_none, eq_comm, Option.map_eq_none_iff] at same
          rw [same]
          exact .none
      | some form =>
          rw [held, Option.map_some, eq_comm, Option.map_eq_some_iff] at same
          obtain ⟨value, found, alike⟩ := same
          rw [found]
          exact .some ⟨form, formDistinct.get? held, alike.symm, rfl⟩
  | null | bool | number | string | array => simp [Json.sorted] at alike

theorem Reads.sorted {fields : List (String × Json)} (distinct : (Fields.keys fields).Nodup)
    (reads : record.Reads (Json.object fields).get? result) :
    record.Reads (Json.object fields).sorted.get? result where
  vets := by
    intro origin name value outline known found shows
    rw [Json.get?_sorted_object distinct, Option.map_eq_some_iff] at found
    obtain ⟨held, found, rfl⟩ := found
    exact reads.vets origin name held outline known found (Outline.shows_sorted_iff.mp shows)
  builds := by
    intro origin members matched
    refine reads.builds origin members fun name known => ?_
    have here := matched name known
    rw [Json.get?_sorted_object distinct] at here
    cases found : (Json.object fields).get? name with
    | none => rwa [found] at here
    | some held =>
        rw [found] at here
        cases member : Fields.get? name members with
        | none =>
            rw [member] at here
            cases here
        | some outline =>
            rw [member] at here
            cases here with
            | some shows => exact .some (Outline.shows_sorted_iff.mp shows)

theorem fromMembers_copies {fields : List (String × Json)} (origin : Origin)
    (distinct : (Fields.keys fields).Nodup)
    (reads : record.ReadsBy Outline.Copies (Json.object fields).get? result) :
    record.fromMembers origin (ofFields fields) none = .ok result := by
  refine fromMembers_reads origin distinct (fun name _ => ?_) reads
  simp only [Json.get?, Json.fields?, Option.bind_some]
  cases Fields.get? name fields with
  | none => exact .none
  | some value => exact .some rfl

theorem decoder_copies {fields : List (String × Json)} (type : String)
    (distinct : (Fields.keys fields).Nodup)
    (reads : record.ReadsBy Outline.Copies (Json.object fields).get? result) :
    (record.decoder type).ReadsBy Outline.Copies (.object fields) result := by
  rintro origin outline rfl
  exact fromMembers_copies origin distinct reads

end Record

end Authoring
