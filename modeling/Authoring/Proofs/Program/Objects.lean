import Mathlib
import Authoring.Proofs.Fields
import Authoring.Proofs.Outcomes
import Authoring.Proofs.Program.Cuts
import Authoring.Proofs.Repeats

/-! Object literals by their pieces: when a literal is accepted, which names it has in which order,
and which value each of them takes. -/

namespace Authoring.Literal

open Text (AllBlank)

def IsBraced (source body : List Char) : Prop :=
  Text.trim source = '\x7b' :: (body ++ ['\x7d'])

/-- The first colon of the part stands between a name that is not blank and a text. Blanks around
both are left out. -/
inductive IsEntry : List Char → String → List Char → Prop
  | mk {front back : List Char} (first : ':' ∉ front) (visible : ¬AllBlank front) :
      IsEntry (front ++ ':' :: back) (String.ofList (Text.trim front)) (Text.trim back)

variable {source body part front : List Char} {properties : Properties}

theorem between?_eq_some_iff {opening closing : Char} {text inner : List Char} :
    between? opening closing text = some inner ↔ text = opening :: (inner ++ [closing]) := by
  constructor
  · intro found
    cases text with
    | nil => cases found
    | cons c rest =>
        rw [between?] at found
        split at found
        · rename_i marks
          obtain ⟨before, same⟩ := List.getLast?_eq_some_iff.mp marks.2
          rw [← Option.some.inj found, marks.1, same, List.dropLast_concat]
        · cases found
  · rintro rfl
    simp [between?]

theorem body?_eq_some_iff {inner : List Char} :
    body? source = some inner ↔ ∃ body, IsBraced source body ∧ Text.trim body = inner := by
  rw [body?, Option.map_eq_some_iff]
  simp only [between?_eq_some_iff, IsBraced]

theorem property_uncoloned (none : ':' ∉ part) :
    property part = .error (.malformedProperty part) := by
  have nothing : part.dropWhile (· != ':') = [] :=
    List.dropWhile_eq_nil_iff.mpr fun c member => bne_iff_ne.mpr fun same => none (same ▸ member)
  simp only [property, nothing]

theorem property_coloned (first : ':' ∉ front) (back : List Char) :
    property (Text.trim (front ++ ':' :: back)) =
      if (Text.trim front).isEmpty then
        .error (.malformedProperty (Text.trim (front ++ ':' :: back)))
      else .ok (String.ofList (Text.trim front), value (Text.trim back)) := by
  have trimmed := Text.trim_around (by decide : Text.isBlank ':' = false) front back
  have kept : ∀ c ∈ Text.trimStart front, (c != ':') = true := fun c member =>
    bne_iff_ne.mpr fun same => first ((List.dropWhile_suffix _).subset (same ▸ member))
  have run : Text.IsRun (· != ':') (Text.trimStart front ++ ':' :: Text.trimEnd back)
      (Text.trimStart front) (':' :: Text.trimEnd back) :=
    ⟨rfl, kept, by rintro _ ⟨⟩; rfl⟩
  simp only [trimmed, property, run.splits, Text.trim_trimStart, Text.trim_trimEnd]

theorem property_eq_ok_iff {name : String} {held : Value} :
    property (Text.trim part) = .ok (name, held) ↔
      ∃ text, IsEntry part name text ∧ held = value text := by
  constructor
  · intro read
    by_cases colon : ':' ∈ part
    · obtain ⟨front, back, rfl, first⟩ := List.eq_append_cons_of_mem colon
      rw [property_coloned first] at read
      split at read
      · cases read
      · rename_i visible
        cases read
        refine ⟨Text.trim back, .mk first fun blank => visible ?_, rfl⟩
        rw [Text.trim_eq_nil_iff.mpr blank]
        rfl
    · have uncoloned : ':' ∉ Text.trim part := fun member =>
        colon ((Text.trim_within part).subset member)
      rw [property_uncoloned uncoloned] at read
      cases read
  · rintro ⟨_, ⟨first, visible⟩, rfl⟩
    rw [property_coloned first, if_neg]
    rwa [List.isEmpty_iff, Text.trim_eq_nil_iff]

def property? (part : List Char) : Option (String × Value) :=
  (property (Text.trim part)).toOption

theorem property?_eq_some_iff {name : String} {held : Value} :
    property? part = some (name, held) ↔ ∃ text, IsEntry part name text ∧ held = value text :=
  toOption_eq_some_iff.trans property_eq_ok_iff

theorem name_eq_some_iff {name : String} :
    (property? part).map Prod.fst = some name ↔ ∃ text, IsEntry part name text := by
  simp only [Option.map_eq_some_iff, Prod.exists, property?_eq_some_iff]
  constructor
  · rintro ⟨_, _, ⟨text, entry, -⟩, rfl⟩
    exact ⟨text, entry⟩
  · rintro ⟨text, entry⟩
    exact ⟨name, value text, ⟨text, entry, rfl⟩, rfl⟩

theorem filterMap_entries (body : List Char) :
    ((entries body).filterMap fun entry => (property entry).toOption) =
      (cutFrom .start body).filterMap property? := by
  rw [entries_eq, List.filterMap_filter, List.filterMap_map]
  refine List.filterMap_congr fun part _ => ?_
  cases trimmed : Text.trim part with
  | nil => simp [property?, trimmed, property, Except.toOption]
  | cons c rest => simp [property?, trimmed]

theorem object_of_isBraced (braced : IsBraced source body) : object source =
    (entries body).mapM property >>= fun properties => .ok (Fields.collect properties) := by
  have found : body? source = some (Text.trim body) := body?_eq_some_iff.mpr ⟨body, braced, rfl⟩
  simp only [object, found, entries_trim]
  rfl

theorem object_of_unbraced (unbraced : ¬∃ body, IsBraced source body) :
    object source = .error (.notAnObject source) := by
  have missing : body? source = none := by
    by_contra found
    obtain ⟨inner, found⟩ := Option.ne_none_iff_exists'.mp found
    obtain ⟨body, braced, -⟩ := body?_eq_some_iff.mp found
    exact unbraced ⟨body, braced⟩
  simp only [object, missing]

theorem object_accepts_iff (braced : IsBraced source body) :
    (∃ properties, object source = .ok properties) ↔
      ∀ part ∈ cutFrom .start body, AllBlank part ∨ ∃ name text, IsEntry part name text := by
  have reads : (∃ properties, object source = .ok properties) ↔
      ∀ entry ∈ entries body, ∃ result, property entry = .ok result := by
    rw [object_of_isBraced braced, ← exists_mapM_eq_ok_iff]
    simp only [bind_eq_ok_iff]
    constructor
    · rintro ⟨_, found, read, -⟩
      exact ⟨found, read⟩
    · rintro ⟨found, read⟩
      exact ⟨_, found, read, rfl⟩
  rw [reads, entries_eq]
  constructor
  · intro each part member
    rw [or_iff_not_imp_left]
    intro visible
    have nonempty : Text.trim part ≠ [] := mt Text.trim_eq_nil_iff.mp visible
    obtain ⟨⟨name, held⟩, read⟩ := each (Text.trim part)
      (List.mem_filter.mpr ⟨List.mem_map_of_mem member, by simp [nonempty]⟩)
    obtain ⟨text, entry, -⟩ := property_eq_ok_iff.mp read
    exact ⟨name, text, entry⟩
  · intro each entry member
    obtain ⟨listed, nonempty⟩ := List.mem_filter.mp member
    obtain ⟨part, cut, rfl⟩ := List.mem_map.mp listed
    rcases each part cut with blank | ⟨name, text, entry⟩
    · simp [Text.trim_eq_nil_iff.mpr blank] at nonempty
    · exact ⟨(name, value text), property_eq_ok_iff.mpr ⟨text, entry, rfl⟩⟩

theorem object_pairs (braced : IsBraced source body) (read : object source = .ok properties) :
    properties = Fields.collect ((cutFrom .start body).filterMap property?) := by
  rw [object_of_isBraced braced] at read
  obtain ⟨pairs, done, same⟩ := bind_eq_ok_iff.mp read
  cases same
  rw [mapM_eq_filterMap done, filterMap_entries]

def Names (name : String) (part : List Char) : Prop :=
  ∃ text, IsEntry part name text

def FirstNames (parts : List (List Char)) (position : Nat) (name : String) : Prop :=
  (∃ part, parts[position]? = some part ∧ Names name part) ∧
    ∀ earlier ∈ parts.take position, ¬Names name earlier

def LastGives (parts : List (List Char)) (name : String) (text : List Char) : Prop :=
  ∃ before part behind, parts = before ++ part :: behind ∧ IsEntry part name text ∧
    ∀ later ∈ behind, ¬Names name later

theorem enumerates_names (parts : List (List Char)) :
    Enumerates (Fields.keys (Fields.collect (parts.filterMap property?))) (FirstNames parts) := by
  rw [Fields.keys_collect, Fields.keys, List.map_filterMap]
  refine (enumerates_firsts _ parts).congr fun position name => ?_
  simp only [FirstNames, Names, ne_eq, name_eq_some_iff]

theorem mem_names_iff {parts : List (List Char)} {name : String} :
    name ∈ Fields.keys (parts.filterMap property?) ↔ ∃ part ∈ parts, Names name part := by
  rw [Fields.keys, List.map_filterMap, List.mem_filterMap]
  simp only [Names, name_eq_some_iff]

theorem get?_properties {parts : List (List Char)} {name : String} {held : Value} :
    Fields.get? name (Fields.collect (parts.filterMap property?)) = some held ↔
      ∃ text, LastGives parts name text ∧ held = value text := by
  rw [Fields.get?_collect_iff]
  constructor
  · rintro ⟨before, behind, split, last⟩
    obtain ⟨front, back, rfl, -, later⟩ := List.filterMap_eq_append_iff.mp split
    obtain ⟨skipped, part, rest, rfl, -, gives, rfl⟩ := List.filterMap_eq_cons_iff.mp later
    obtain ⟨text, entry, same⟩ := property?_eq_some_iff.mp gives
    refine ⟨text, ⟨front ++ skipped, part, rest, by simp, entry, ?_⟩, same⟩
    exact fun other member named => last (mem_names_iff.mpr ⟨other, member, named⟩)
  · rintro ⟨text, ⟨before, part, behind, rfl, entry, last⟩, rfl⟩
    refine ⟨before.filterMap property?, behind.filterMap property?, ?_, fun member => ?_⟩
    · rw [List.filterMap_append,
        List.filterMap_cons_some (property?_eq_some_iff.mpr ⟨text, entry, rfl⟩)]
    · obtain ⟨other, listed, named⟩ := mem_names_iff.mp member
      exact last other listed named

/-- A body has one cut only. A literal is accepted just if it is a body in braces and every part of
the body is blank or has a name that is not. The properties then have the names in the order in
which they first come, and each name has the value of the last part with that name. -/
theorem object_reads (source : List Char) :
    (∀ body, ∃! parts, IsCut body parts) ∧
    ((∃ properties, object source = .ok properties) ↔ ∃ body parts, IsBraced source body ∧
      IsCut body parts ∧ ∀ part ∈ parts, AllBlank part ∨ ∃ name text, IsEntry part name text) ∧
    ∀ properties body parts, object source = .ok properties → IsBraced source body →
      IsCut body parts →
      Enumerates (Fields.keys properties) (FirstNames parts) ∧
      ∀ name held, Fields.get? name properties = some held ↔
        ∃ text, LastGives parts name text ∧ held = value text := by
  refine ⟨fun body => ⟨_, isCut_iff.mpr rfl, fun parts => isCut_iff.mp⟩, ?_, ?_⟩
  · constructor
    · intro accepted
      by_cases braces : ∃ body, IsBraced source body
      · obtain ⟨body, braced⟩ := braces
        exact ⟨body, _, braced, isCut_iff.mpr rfl, (object_accepts_iff braced).mp accepted⟩
      · obtain ⟨properties, read⟩ := accepted
        rw [object_of_unbraced braces] at read
        cases read
    · rintro ⟨body, parts, braced, cut, each⟩
      rw [object_accepts_iff braced, ← isCut_iff.mp cut]
      exact each
  · intro properties body parts read braced cut
    rw [object_pairs braced read, ← isCut_iff.mp cut]
    exact ⟨enumerates_names parts, fun name held => get?_properties⟩

def sampleBody : List Char :=
  " a:1],b:\",\", ,a:(c,:)".toList

def sampleParts : List (List Char) :=
  [[' ', 'a', ':', '1', ']'], ['b', ':', '"', ',', '"'], [' '], ['a', ':', '(', 'c', ',', ':', ')']]

def sampleObject : List Char :=
  '\x7b' :: (sampleBody ++ ['\x7d', ' '])

theorem object_reads_of_sampleObject :
    IsBraced sampleObject sampleBody ∧ IsCut sampleBody sampleParts ∧
      ∃ properties, object sampleObject = .ok properties ∧
        Enumerates (Fields.keys properties) (FirstNames sampleParts) ∧
        Fields.get? "a" properties = some (.string "(c,:)") := by
  have braced : IsBraced sampleObject sampleBody := by
    rw [IsBraced]
    decide
  have cut : IsCut sampleBody sampleParts := isCut_iff.mpr (by decide)
  have visible : ∀ {c : Char} {text : List Char}, c ∈ text → Text.isBlank c = false →
      ¬AllBlank text := fun member shown blank => by
    have hidden := blank _ member
    rw [shown] at hidden
    cases hidden
  have one : IsEntry [' ', 'a', ':', '1', ']'] "a" ['1', ']'] :=
    .mk (by decide : ':' ∉ [' ', 'a']) (visible (by decide : 'a' ∈ _) (by decide))
  have two : IsEntry ['b', ':', '"', ',', '"'] "b" ['"', ',', '"'] :=
    .mk (by decide : ':' ∉ ['b']) (visible (by decide : 'b' ∈ _) (by decide))
  have last : IsEntry ['a', ':', '(', 'c', ',', ':', ')'] "a" ['(', 'c', ',', ':', ')'] :=
    .mk (by decide : ':' ∉ ['a']) (visible (by decide : 'a' ∈ _) (by decide))
  obtain ⟨-, accepts, reads⟩ := object_reads sampleObject
  obtain ⟨properties, read⟩ := accepts.mpr ⟨_, _, braced, cut, by
    simp only [sampleParts, List.forall_mem_cons]
    exact ⟨.inr ⟨_, _, one⟩, .inr ⟨_, _, two⟩, .inl (by simp [AllBlank, Text.isBlank]),
      .inr ⟨_, _, last⟩, List.forall_mem_nil _⟩⟩
  obtain ⟨names, values⟩ := reads _ _ _ read braced cut
  have held : value ['(', 'c', ',', ':', ')'] = .string "(c,:)" := by
    rw [value]
    rfl
  refine ⟨braced, cut, properties, read, names, (values _ _).mpr ⟨_, ?_, held.symm⟩⟩
  exact ⟨[_, _, _], _, [], rfl, last, List.forall_mem_nil _⟩

end Authoring.Literal
