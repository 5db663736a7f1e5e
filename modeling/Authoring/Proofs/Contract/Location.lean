import Mathlib
import Authoring.Proofs.Contract.Describes
import Authoring.Proofs.Json.Distinct
import Authoring.Proofs.Json.Pointer

/-! Where violations are. The path of a violation leads to the value that is wrong and, in the
contract, to the part that finds it wrong. No violation is reported twice. -/

namespace Authoring

def Step.segment : Step → String
  | field name => name
  | index position => toString position

theorem Step.toList_text (step : Step) : step.text.toList = '/' :: step.segment.toList := by
  have written : step.text = "/" ++ step.segment := by cases step <;> rfl
  rw [written, String.toList_append]
  rfl

namespace Violation

def segments (violation : Violation) : List String :=
  violation.path.map Step.segment

def facts (violation : Violation) : List String × String × Json :=
  (violation.segments, violation.problem.rule, violation.problem.params)

theorem under_inj {one other : Violation} {step next : Step} :
    one.under step = other.under next ↔ step = next ∧ one = other := by
  obtain ⟨path, problem⟩ := one
  obtain ⟨otherPath, otherProblem⟩ := other
  simp only [under, Violation.mk.injEq, List.cons.injEq, and_assoc]

theorem toList_pathText (violation : Violation) : violation.pathText.toList =
    violation.segments.flatMap fun segment => '/' :: segment.toList := by
  rw [pathText, String.toList_join, segments, List.flatMap_map, List.flatMap_map]
  exact List.flatMap_congr fun step _ => step.toList_text

theorem segments?_pathText {violation : Violation}
    (plain : ∀ segment ∈ violation.segments, Pointer.IsPlain segment) :
    Pointer.segments? violation.pathText = some violation.segments :=
  Pointer.segments?_of_toList plain violation.toList_pathText

end Violation

namespace Contract

/-- In every object by contract, the names of the fields differ, and each is a segment of a pointer
as it stands. -/
inductive WellNamed : Contract → Prop
  | object {fields : List (String × Presence × Contract)} {names : List String}
      (distinct : (Fields.keys fields).Nodup)
      (plain : ∀ field ∈ fields, Pointer.IsPlain field.1)
      (inside : ∀ field ∈ fields, WellNamed field.2.2) :
      WellNamed (.object fields names)
  | array {minItems : Nat} {maxItems : Option Nat} {contract : Contract}
      (inside : WellNamed contract) : WellNamed (.array minItems maxItems contract)
  | string {contract : StringContract} : WellNamed (.string contract)
  | integer {minimum maximum : Option Int64} : WellNamed (.integer minimum maximum)
  | const {text : String} : WellNamed (.const text)

def inner? (segment : String) : Contract → Option Contract
  | .object fields _ => (Fields.get? segment fields).map Prod.snd
  | .array _ _ items => (Pointer.position? segment).map fun _ => items
  | _ => none

def pointer? (text : String) (contract : Contract) : Option Contract :=
  (Pointer.segments? text).bind fun segments => Pointer.follow? inner? segments contract

def Finds (contract : Contract) (value : Json) (problem : Problem) : Prop :=
  .here problem ∈ contract.check value

def checkField (held : Fields Json) (field : String × Presence × Contract) : List Violation :=
  match Fields.get? field.1 held with
  | some value => field.2.2.check value
  | none => []

theorem checkFields_eq (fields : List (String × Presence × Contract)) (held : Fields Json) :
    checkFields fields held = fields.flatMap fun field =>
      (checkField held field).map (Violation.under (.field field.1)) := by
  rw [checkFields_eq_flatMap]
  refine List.flatMap_congr fun field _ => ?_
  rw [checkField]
  cases Fields.get? field.1 held <;> rfl

/-! Problems of the value itself -/

structure Own (violations : List Violation) (rules : List String) : Prop where
  here : ∀ violation ∈ violations, violation.path = []
  rules : (violations.map fun violation => violation.problem.rule).Sublist rules

theorem own_when (broken : Bool) (problem : Problem) :
    Own (when broken problem) [problem.rule] := by
  cases broken with
  | false => exact ⟨by simp [when], List.nil_sublist _⟩
  | true => exact ⟨by simp [when, Violation.here], List.Sublist.refl _⟩

theorem Own.append {left right : List Violation} {rules more : List String}
    (own : Own left rules) (other : Own right more) : Own (left ++ right) (rules ++ more) where
  here := fun violation member =>
    (List.mem_append.mp member).elim (own.here violation) (other.here violation)
  rules := by
    rw [List.map_append]
    exact own.rules.append other.rules

theorem own_nil (rules : List String) : Own [] rules :=
  ⟨by simp, List.nil_sublist _⟩

theorem Own.facts_nodup {violations : List Violation} {rules : List String}
    (own : Own violations rules) (distinct : rules.Nodup) :
    (violations.map Violation.facts).Nodup := by
  refine List.Nodup.of_map (fun facts => facts.2.1) ?_
  rw [List.map_map]
  exact distinct.sublist own.rules

theorem own_checkCount (minItems count : Nat) (maxItems : Option Nat) :
    Own (checkCount minItems maxItems count) ["minItems", "maxItems"] := by
  refine (own_when _ (.tooFewItems minItems)).append ?_
  split
  · exact own_when _ (.tooManyItems _)
  · exact own_nil _

theorem own_checkString (contract : StringContract) (text : String) :
    Own (checkString contract text) ["minLength", "maxLength", "pattern", "format", "enum"] := by
  change Own (_ ++ _ ++ _ ++ _ ++ _) (["minLength"] ++ ["maxLength"] ++ ["pattern"] ++ ["format"] ++
    ["enum"])
  refine Own.append (Own.append (Own.append (Own.append ?_ ?_) ?_) ?_) ?_
  · exact own_when _ (.tooShort _)
  · split
    · exact own_when _ (.tooLong _)
    · exact own_nil _
  · split
    · exact own_when _ (.mismatch _)
    · exact own_nil _
  · split
    · exact own_when _ (.misformatted _)
    · exact own_nil _
  · exact own_when _ (.notAllowed _)

theorem own_checkInteger (minimum maximum : Option Int64) (number : Number) :
    Own (checkInteger minimum maximum number) (["type"] ++ (["minimum"] ++ ["maximum"])) := by
  unfold checkInteger
  split
  · refine (own_nil ["type"]).append (Own.append ?_ ?_)
    · split
      · exact own_when _ (.belowMinimum _)
      · exact own_nil _
    · split
      · exact own_when _ (.aboveMaximum _)
      · exact own_nil _
  · exact (own_when true (.wrongType "integer")).append (own_nil _)

theorem own_wrongType (wanted : String) : Own [.here (.wrongType wanted)] ["type"] :=
  own_when true (.wrongType wanted)

theorem own_check_string (rules : StringContract) (document : Json) :
    Own ((Contract.string rules).check document)
      (["type"] ++ ["minLength", "maxLength", "pattern", "format", "enum"]) := by
  cases document with
  | string text => exact (own_nil ["type"]).append (own_checkString rules text)
  | null | bool | number | array | object => exact (own_wrongType "string").append (own_nil _)

theorem own_check_integer (minimum maximum : Option Int64) (document : Json) :
    Own ((Contract.integer minimum maximum).check document)
      (["type"] ++ (["minimum"] ++ ["maximum"])) := by
  cases document with
  | number number => exact own_checkInteger minimum maximum number
  | null | bool | string | array | object => exact (own_wrongType "integer").append (own_nil _)

theorem own_check_const (expected : String) (document : Json) :
    Own ((Contract.const expected).check document) ["const"] := by
  cases document with
  | string text => exact own_when _ (.notConstant expected)
  | null | bool | number | array | object => exact own_when true (.notConstant expected)

/-! Where each violation comes from -/

theorem mem_when {broken : Bool} {problem : Problem} {violation : Violation}
    (found : violation ∈ when broken problem) : violation = .here problem :=
  (mem_when_iff.mp found).2

section Object

variable {fields : List (String × Presence × Contract)} {names : List String} {held : Fields Json}
  {violation : Violation}

theorem mem_checkMissing (found : violation ∈ checkMissing fields held) :
    ∃ name, violation = .here (.missing name) := by
  obtain ⟨field, _, inside⟩ := List.mem_flatMap.mp found
  exact ⟨field.1, mem_when inside⟩

theorem mem_checkAdditional (found : violation ∈ checkAdditional fields held) :
    ∃ name, violation = .here (.additional name) := by
  obtain ⟨name, _, inside⟩ := List.mem_flatMap.mp found
  exact ⟨name, mem_when inside⟩

theorem mem_checkFields (found : violation ∈ checkFields fields held) :
    ∃ field ∈ fields, ∃ value, Fields.get? field.1 held = some value ∧
      ∃ inner ∈ field.2.2.check value, violation = inner.under (.field field.1) := by
  rw [checkFields_eq, List.mem_flatMap] at found
  obtain ⟨field, listed, inside⟩ := found
  obtain ⟨inner, member, rfl⟩ := List.mem_map.mp inside
  unfold checkField at member
  split at member
  · rename_i value held
    exact ⟨field, listed, value, held, inner, member, rfl⟩
  · cases member

theorem mem_check_object_cases
    (found : violation ∈ (Contract.object fields names).check (.object held)) :
    violation.path = [] ∨
      ∃ field ∈ fields, ∃ value, Fields.get? field.1 held = some value ∧
        ∃ inner ∈ field.2.2.check value, violation = inner.under (.field field.1) := by
  simp only [check, List.mem_append] at found
  rcases found with ((missing | additional) | inside) | nonEmpty
  · obtain ⟨name, rfl⟩ := mem_checkMissing missing
    exact .inl rfl
  · obtain ⟨name, rfl⟩ := mem_checkAdditional additional
    exact .inl rfl
  · exact .inr (mem_checkFields inside)
  · rw [mem_when nonEmpty]
    exact .inl rfl

theorem mem_check_array_cases {minItems : Nat} {maxItems : Option Nat} {contract : Contract}
    {items : List Json}
    (found : violation ∈ (Contract.array minItems maxItems contract).check (.array items)) :
    violation.path = [] ∨
      ∃ position item, items[position]? = some item ∧
        ∃ inner ∈ contract.check item, violation = inner.under (.index position) := by
  simp only [check, List.mem_append, List.mem_flatMap] at found
  rcases found with count | ⟨⟨item, position⟩, listed, inside⟩
  · exact .inl ((own_checkCount _ _ _).here violation count)
  · obtain ⟨inner, member, rfl⟩ := List.mem_map.mp inside
    exact .inr ⟨position, item, List.mem_zipIdx_iff_getElem?.mp listed, inner, member, rfl⟩

theorem mem_check_field_iff (distinct : (Fields.keys fields).Nodup) {name : String}
    {presence : Presence} {contract : Contract} {value : Json}
    (listed : Fields.get? name fields = some (presence, contract))
    (below : Fields.get? name held = some value) :
    violation.under (.field name) ∈ (Contract.object fields names).check (.object held) ↔
      violation ∈ contract.check value := by
  constructor
  · intro found
    rcases mem_check_object_cases found with here |
      ⟨⟨other, _, rules⟩, member, inner, reached, _, inside, same⟩
    · cases here
    · obtain ⟨step, rfl⟩ := Violation.under_inj.mp same
      cases step
      cases listed.symm.trans (Fields.get?_of_mem distinct member)
      cases below.symm.trans reached
      exact inside
  · intro found
    have inside : violation ∈ checkField held (name, presence, contract) := by
      simpa only [checkField, below] using found
    simp only [check, List.mem_append, checkFields_eq]
    refine .inl (.inr (List.mem_flatMap.mpr ⟨_, Fields.mem_of_get? listed, ?_⟩))
    exact List.mem_map_of_mem inside

theorem mem_check_item_iff {minItems : Nat} {maxItems : Option Nat} {contract : Contract}
    {items : List Json} {position : Nat} {item : Json} (below : items[position]? = some item) :
    violation.under (.index position) ∈
        (Contract.array minItems maxItems contract).check (.array items) ↔
      violation ∈ contract.check item := by
  constructor
  · intro found
    rcases mem_check_array_cases found with here | ⟨other, inner, reached, _, inside, same⟩
    · cases here
    · obtain ⟨step, rfl⟩ := Violation.under_inj.mp same
      cases step
      cases below.symm.trans reached
      exact inside
  · intro found
    simp only [check, List.mem_append, List.mem_flatMap]
    exact .inr ⟨(item, position), List.mem_zipIdx_iff_getElem?.mpr below, List.mem_map_of_mem found⟩

end Object

def Locates (contract : Contract) (document : Json) (violation : Violation) : Prop :=
  (∀ segment ∈ violation.segments, Pointer.IsPlain segment) ∧
    ∃ value inner, Pointer.follow? Json.inner? violation.segments document = some value ∧
      Pointer.follow? inner? violation.segments contract = some inner ∧
      inner.Finds value violation.problem

variable {contract inner : Contract} {document value : Json} {violation : Violation}

theorem locates_here (found : violation ∈ contract.check document) (here : violation.path = []) :
    contract.Locates document violation := by
  obtain ⟨path, problem⟩ := violation
  cases here
  exact ⟨List.forall_mem_nil _, document, contract, rfl, rfl, found⟩

theorem Locates.under (located : inner.Locates value violation) {step : Step}
    (plain : Pointer.IsPlain step.segment) (below : document.inner? step.segment = some value)
    (part : contract.inner? step.segment = some inner) :
    contract.Locates document (violation.under step) := by
  obtain ⟨plainPath, target, last, reached, partReached, finds⟩ := located
  refine ⟨List.forall_mem_cons.mpr ⟨plain, plainPath⟩, target, last, ?_, ?_, finds⟩
  · exact (congrArg (Option.bind · _) below).trans reached
  · exact (congrArg (Option.bind · _) part).trans partReached

theorem locates_of_mem (named : contract.WellNamed) (found : violation ∈ contract.check document) :
    contract.Locates document violation := by
  induction named generalizing document violation with
  | @object fields names distinct plain _ ih =>
      cases document with
      | object held =>
          rcases mem_check_object_cases found with here |
            ⟨field, listed, value, below, inner, inside, rfl⟩
          · exact locates_here found here
          · refine (ih field listed inside).under (plain field listed) below ?_
            exact congrArg (Option.map Prod.snd) (Fields.get?_of_mem distinct listed)
      | null | bool | number | string | array =>
          exact locates_here found ((own_wrongType "object").here violation found)
  | array _ ih =>
      cases document with
      | array items =>
          rcases mem_check_array_cases found with here | ⟨position, item, below, inner, inside, rfl⟩
          · exact locates_here found here
          · refine (ih inside).under (Pointer.toString_plain position) ?_ ?_
            · exact (congrArg (Option.bind · _) (Pointer.position?_toString position)).trans below
            · exact congrArg (Option.map _) (Pointer.position?_toString position)
      | null | bool | number | string | object =>
          exact locates_here found ((own_wrongType "array").here violation found)
  | string => exact locates_here found ((own_check_string _ document).here violation found)
  | integer => exact locates_here found ((own_check_integer _ _ document).here violation found)
  | const => exact locates_here found ((own_check_const _ document).here violation found)

/-! No violation twice -/

theorem flatMap_when {α : Type} (entries : List α) (broken : α → Bool) (problem : α → Problem) :
    (entries.flatMap fun entry => when (broken entry) (problem entry)) =
      (entries.filter broken).map fun entry => .here (problem entry) := by
  induction entries with
  | nil => rfl
  | cons entry rest ih =>
      rw [List.flatMap_cons, ih, List.filter_cons]
      cases broken entry <;> rfl

theorem named_nodup {α : Type} {entries : List α} {name : α → String}
    (distinct : (entries.map name).Nodup) (broken : α → Bool) {problem : String → Problem}
    (params : Function.Injective fun name => (problem name).params) :
    ((entries.flatMap fun entry => when (broken entry) (problem (name entry))).map
      Violation.facts).Nodup := by
  rw [flatMap_when, List.map_map]
  refine List.Nodup.of_map (fun facts => facts.2.2) ?_
  rw [List.map_map]
  have names : ((entries.filter broken).map name).Nodup :=
    distinct.sublist (List.filter_sublist.map name)
  have told := names.map params
  rwa [List.map_map] at told

theorem facts_ne_under {violation : Violation} (here : violation.path = []) (step : Step)
    (inner : Violation) : violation.facts ≠ (inner.under step).facts := by
  intro same
  have paths : violation.segments = (inner.under step).segments := congrArg Prod.fst same
  rw [Violation.segments, here] at paths
  cases paths

theorem under_nodup {α : Type} {entries : List α} {step : α → Step} {inner : α → List Violation}
    (apart : (entries.map fun entry => (step entry).segment).Nodup)
    (each : ∀ entry ∈ entries, ((inner entry).map Violation.facts).Nodup) :
    ((entries.flatMap fun entry => (inner entry).map (Violation.under (step entry))).map
      Violation.facts).Nodup := by
  rw [List.map_flatMap, List.nodup_flatMap]
  constructor
  · intro entry member
    have deeper : Function.Injective fun facts : List String × String × Json =>
        ((step entry).segment :: facts.1, facts.2) := by
      rintro ⟨path, rest⟩ ⟨other, more⟩ same
      simpa using same
    have told := (each entry member).map deeper
    rw [List.map_map] at told ⊢
    exact told
  · refine (List.pairwise_map.mp apart).imp fun {one other} different facts inOne inOther => ?_
    simp only [List.map_map, List.mem_map] at inOne inOther
    obtain ⟨violation, _, rfl⟩ := inOne
    obtain ⟨another, _, same⟩ := inOther
    exact different (List.cons.inj (congrArg Prod.fst same)).1.symm

theorem append_nodup {left right : List Violation} (leftNodup : (left.map Violation.facts).Nodup)
    (rightNodup : (right.map Violation.facts).Nodup)
    (apart : ∀ one ∈ left, ∀ other ∈ right, one.facts ≠ other.facts) :
    ((left ++ right).map Violation.facts).Nodup := by
  rw [List.map_append, List.nodup_append]
  refine ⟨leftNodup, rightNodup, ?_⟩
  simpa only [List.forall_mem_map] using apart

theorem string_params_injective (key : String) :
    Function.Injective fun name => Json.object [(key, .string name)] := by
  intro one other same
  simpa using same

theorem object_nodup {fields : List (String × Presence × Contract)} {held : Fields Json}
    (names : List String) (distinct : (Fields.keys fields).Nodup)
    (heldDistinct : (Fields.keys held).Nodup)
    (each : ∀ field ∈ fields, ∀ value, Fields.get? field.1 held = some value →
      ((field.2.2.check value).map Violation.facts).Nodup) :
    (((Contract.object fields names).check (.object held)).map Violation.facts).Nodup := by
  have missing : ((checkMissing fields held).map Violation.facts).Nodup :=
    named_nodup distinct _ (string_params_injective "missingProperty")
  have additional : ((checkAdditional fields held).map Violation.facts).Nodup :=
    named_nodup ((List.map_id' _).symm ▸ heldDistinct) _
      (string_params_injective "additionalProperty")
  have inside : ((checkFields fields held).map Violation.facts).Nodup := by
    rw [checkFields_eq]
    refine under_nodup distinct fun field listed => ?_
    unfold checkField
    split
    · rename_i value found
      exact each field listed value found
    · exact List.nodup_nil
  have nonEmpty : ((checkNonEmpty names held).map Violation.facts).Nodup :=
    (own_when _ (.allEmpty names)).facts_nodup (List.nodup_singleton _)
  refine append_nodup (append_nodup (append_nodup missing additional ?_) inside ?_) nonEmpty ?_
  · intro one inOne other inOther
    obtain ⟨name, rfl⟩ := mem_checkMissing inOne
    obtain ⟨another, rfl⟩ := mem_checkAdditional inOther
    simp [Violation.facts, Violation.here, Problem.rule]
  · intro one inOne other inOther
    obtain ⟨field, _, value, _, inner, _, rfl⟩ := mem_checkFields inOther
    rcases List.mem_append.mp inOne with inOne | inOne
    · obtain ⟨name, rfl⟩ := mem_checkMissing inOne
      exact facts_ne_under rfl _ inner
    · obtain ⟨name, rfl⟩ := mem_checkAdditional inOne
      exact facts_ne_under rfl _ inner
  · intro one inOne other inOther
    rw [mem_when inOther]
    rcases List.mem_append.mp inOne with inOne | inOne
    · rcases List.mem_append.mp inOne with inOne | inOne
      · obtain ⟨name, rfl⟩ := mem_checkMissing inOne
        simp [Violation.facts, Violation.here, Problem.rule]
      · obtain ⟨name, rfl⟩ := mem_checkAdditional inOne
        simp [Violation.facts, Violation.here, Problem.rule]
    · obtain ⟨field, _, value, _, inner, _, rfl⟩ := mem_checkFields inOne
      exact (facts_ne_under rfl _ inner).symm

theorem array_nodup {contract : Contract} {items : List Json} (minItems : Nat)
    (maxItems : Option Nat)
    (each : ∀ item ∈ items, ((contract.check item).map Violation.facts).Nodup) :
    (((Contract.array minItems maxItems contract).check (.array items)).map
      Violation.facts).Nodup := by
  have counts := own_checkCount minItems items.length maxItems
  have positions : (items.zipIdx.map fun entry => (Step.index entry.2).segment).Nodup := by
    have distinct : (items.zipIdx.map Prod.snd).Nodup := by
      rw [List.zipIdx_map_snd]
      exact List.nodup_range'
    have told := distinct.map fun one other same => Pointer.toString_injective same
    rwa [List.map_map] at told
  rw [check]
  refine append_nodup (counts.facts_nodup (by decide)) (under_nodup positions ?_) ?_
  · intro entry listed
    exact each entry.1 (List.mem_of_getElem? (List.mem_zipIdx_iff_getElem?.mp listed))
  · intro one inOne other inOther
    obtain ⟨entry, _, inside⟩ := List.mem_flatMap.mp inOther
    obtain ⟨inner, _, rfl⟩ := List.mem_map.mp inside
    exact facts_ne_under (counts.here one inOne) _ inner

theorem facts_nodup {contract : Contract} (named : contract.WellNamed) {document : Json}
    (distinct : document.Distinct) : ((contract.check document).map Violation.facts).Nodup := by
  induction named generalizing document with
  | @object fields names fieldsDistinct _ _ ih =>
      cases document with
      | object held =>
          obtain ⟨heldDistinct, _⟩ := Json.distinct_object_iff.mp distinct
          refine object_nodup names fieldsDistinct heldDistinct fun field listed value found => ?_
          exact ih field listed (distinct.get? found)
      | null | bool | number | string | array =>
          exact (own_wrongType "object").facts_nodup (List.nodup_singleton _)
  | array _ ih =>
      cases document with
      | array items =>
          refine array_nodup _ _ fun item member => ?_
          exact ih (Json.distinct_array_iff.mp distinct item member)
      | null | bool | number | string | object =>
          exact (own_wrongType "array").facts_nodup (List.nodup_singleton _)
  | string => exact (own_check_string _ document).facts_nodup (by decide)
  | integer => exact (own_check_integer _ _ document).facts_nodup (by decide)
  | const => exact (own_check_const _ document).facts_nodup (List.nodup_singleton _)

/-- The path of every violation leads to a value of the document, and the part of the contract on
the same path finds the problem with that value. No two violations are alike in path, rule and
parameters. -/
theorem check_locates {contract : Contract} (named : contract.WellNamed) {document : Json}
    (distinct : document.Distinct) :
    (∀ violation ∈ contract.check document, ∃ value inner,
      document.pointer? violation.pathText = some value ∧
      contract.pointer? violation.pathText = some inner ∧
      inner.Finds value violation.problem) ∧
    ((contract.check document).map fun violation =>
      (violation.pathText, violation.problem.rule, violation.problem.params)).Nodup := by
  have read : ∀ violation ∈ contract.check document,
      Pointer.segments? violation.pathText = some violation.segments := fun violation found =>
    Violation.segments?_pathText (locates_of_mem named found).1
  constructor
  · intro violation found
    obtain ⟨_, value, inner, reached, part, finds⟩ := locates_of_mem named found
    refine ⟨value, inner, ?_, ?_, finds⟩
    · rwa [Json.pointer?, read violation found]
    · rwa [pointer?, read violation found]
  · -- The paths are read as their segments, and these differ.
    have told : ((contract.check document).map fun violation =>
        (some violation.segments, violation.problem.rule, violation.problem.params)).Nodup := by
      have apart := (facts_nodup named distinct).map
        (Prod.map_injective.mpr ⟨Option.some_injective _, Function.injective_id⟩)
      rwa [List.map_map] at apart
    refine List.Nodup.of_map (fun shown => (Pointer.segments? shown.1, shown.2)) ?_
    rw [List.map_map]
    convert told using 1
    exact List.map_congr_left fun violation found => congrArg (·, _) (read violation found)

theorem sampleContract_wellNamed : sampleContract.WellNamed := by
  refine .array (.object (by decide +kernel) (by decide +kernel) ?_)
  simp only [List.forall_mem_cons]
  exact ⟨.const, .integer, .array .string, List.forall_mem_nil _⟩

def sampleItems (tags : Json) : Json :=
  .array [sampleItem (.integer ⟨0, by decide⟩) ["x"],
    .object [("count", .number (.integer ⟨7, by decide⟩)), ("kind", .string "a"), ("tags", tags)]]

theorem check_locates_of_sampleItems :
    sampleContract.WellNamed ∧ (sampleItems (.strings ["y", ""])).Distinct ∧
      (∃ value inner, (sampleItems (.strings ["y", ""])).pointer? "/1/tags/1" = some value ∧
        sampleContract.pointer? "/1/tags/1" = some inner ∧ inner.Finds value (.tooShort 1)) ∧
      ((sampleContract.check (sampleItems (.strings ["y", ""]))).map fun violation =>
        (violation.pathText, violation.problem.rule, violation.problem.params)).Nodup := by
  have distinct : (sampleItems (.strings ["y", ""])).Distinct := by
    simp [sampleItems, sampleItem, Json.strings, Json.Distinct, Json.DistinctItems,
      Json.DistinctFields, Fields.keys]
  obtain ⟨located, once⟩ := check_locates sampleContract_wellNamed distinct
  refine ⟨sampleContract_wellNamed, distinct, ?_, once⟩
  exact located ⟨[.index 1, .field "tags", .index 1], .tooShort 1⟩ (by decide +kernel)

end Contract

end Authoring
