import Mathlib
import Authoring.Contract.Check
import Authoring.Proofs.Fields
import Authoring.Proofs.Json.Number

/-! What a document is like when a contract finds nothing wrong with it, for each form of
contract. -/

namespace Authoring

structure StringContract.Describes (contract : StringContract) (text : String) : Prop where
  long : contract.minLength ≤ text.length
  short : ∀ limit, contract.maxLength = some limit → text.length ≤ limit
  pattern : ∀ pattern, contract.pattern = some pattern → pattern.accepts text = true
  format : ∀ format, contract.format = some format → format.accepts text = true
  listed : contract.allowed ≠ [] → text ∈ contract.allowed

namespace Contract

def Accepts (contract : Contract) (document : Json) : Prop :=
  contract.check document = []

theorem when_eq_nil_iff {broken : Bool} {problem : Problem} :
    when broken problem = [] ↔ broken = false := by
  cases broken <;> simp [when]

theorem mem_when_iff {broken : Bool} {problem : Problem} {violation : Violation} :
    violation ∈ when broken problem ↔ broken = true ∧ violation = .here problem := by
  cases broken <;> simp [when]

theorem checkFields_eq_flatMap (fields : List (String × Presence × Contract)) (held : Fields Json) :
    checkFields fields held = fields.flatMap fun field =>
      match Fields.get? field.1 held with
      | some value => (check field.2.2 value).map (Violation.under (.field field.1))
      | none => [] := by
  induction fields with
  | nil => simp [checkFields]
  | cons field rest ih =>
      obtain ⟨name, presence, contract⟩ := field
      exact congrArg (_ ++ ·) ih

theorem checkFields_eq_nil_iff {fields : List (String × Presence × Contract)}
    {held : Fields Json} :
    checkFields fields held = [] ↔
      ∀ field ∈ fields, ∀ value, Fields.get? field.1 held = some value →
        field.2.2.Accepts value := by
  rw [checkFields_eq_flatMap, List.flatMap_eq_nil_iff]
  refine forall₂_congr fun field _ => ?_
  cases found : Fields.get? field.1 held with
  | none => simp
  | some value => simp [Accepts]

theorem checkMissing_eq_nil_iff {fields : List (String × Presence × Contract)}
    {held : Fields Json} :
    checkMissing fields held = [] ↔
      ∀ field ∈ fields, field.2.1 = .required → (Fields.get? field.1 held).isSome := by
  rw [checkMissing, List.flatMap_eq_nil_iff]
  refine forall₂_congr fun field _ => ?_
  rw [when_eq_nil_iff, Bool.and_eq_false_imp, beq_iff_eq, Option.isNone_eq_false_iff]

theorem checkAdditional_eq_nil_iff {fields : List (String × Presence × Contract)}
    {held : Fields Json} :
    checkAdditional fields held = [] ↔
      ∀ name ∈ Fields.keys held, name ∈ Fields.keys fields := by
  rw [checkAdditional, List.flatMap_eq_nil_iff]
  refine forall₂_congr fun name _ => ?_
  rw [when_eq_nil_iff, Bool.not_eq_false', List.any_eq_true]
  simp [Fields.keys]

theorem holdsItems_iff {held : Fields Json} {name : String} :
    holdsItems held name = true ↔
      ∃ first rest, Fields.get? name held = some (.array (first :: rest)) := by
  unfold holdsItems
  cases Fields.get? name held with
  | none => simp
  | some value =>
      cases value with
      | array items => cases items <;> simp [Json.items?]
      | null | bool | number | string | object => simp [Json.items?]

theorem checkNonEmpty_eq_nil_iff {names : List String} {held : Fields Json} :
    checkNonEmpty names held = [] ↔ (names ≠ [] →
      ∃ name ∈ names, ∃ first rest, Fields.get? name held = some (.array (first :: rest))) := by
  simp only [checkNonEmpty, when_eq_nil_iff, Bool.and_eq_false_imp, Bool.not_eq_true',
    List.isEmpty_eq_false_iff, Bool.not_eq_false', List.any_eq_true, holdsItems_iff]

theorem accepts_object_iff {fields : List (String × Presence × Contract)} {names : List String}
    {document : Json} :
    (Contract.object fields names).Accepts document ↔ ∃ held, document = .object held ∧
      (∀ field ∈ fields, field.2.1 = .required → (Fields.get? field.1 held).isSome) ∧
      (∀ name ∈ Fields.keys held, name ∈ Fields.keys fields) ∧
      (∀ field ∈ fields, ∀ value, Fields.get? field.1 held = some value →
        field.2.2.Accepts value) ∧
      (names ≠ [] → ∃ name ∈ names, ∃ first rest,
        Fields.get? name held = some (.array (first :: rest))) := by
  cases document with
  | object held =>
      simp only [Accepts, check, List.append_eq_nil_iff, checkMissing_eq_nil_iff,
        checkAdditional_eq_nil_iff, checkFields_eq_nil_iff, checkNonEmpty_eq_nil_iff, and_assoc,
        Json.object.injEq, exists_eq_left']
  | null | bool | number | string | array => simp [Accepts, check]

section Object

variable {fields : List (String × Presence × Contract)} {names : List String} {document : Json}

theorem Accepts.isObject (accepted : (Contract.object fields names).Accepts document) :
    document.isObject := by
  obtain ⟨held, rfl, _⟩ := accepts_object_iff.mp accepted
  rfl

theorem Accepts.inside {presence : Presence} {contract : Contract} {value : Json}
    (accepted : (Contract.object fields names).Accepts document) (name : String)
    (listed : Fields.get? name fields = some (presence, contract))
    (found : document.get? name = some value) : contract.Accepts value := by
  obtain ⟨held, rfl, _, _, inside, _⟩ := accepts_object_iff.mp accepted
  exact inside _ (Fields.mem_of_get? listed) value found

theorem Accepts.present {contract : Contract}
    (accepted : (Contract.object fields names).Accepts document) (name : String)
    (listed : Fields.get? name fields = some (.required, contract)) :
    ∃ value, document.get? name = some value ∧ contract.Accepts value := by
  obtain ⟨held, rfl, required, _⟩ := accepts_object_iff.mp accepted
  obtain ⟨value, found⟩ := Option.isSome_iff_exists.mp (required _ (Fields.mem_of_get? listed) rfl)
  exact ⟨value, found, accepted.inside name listed found⟩

theorem Accepts.unlisted {name : String}
    (accepted : (Contract.object fields names).Accepts document)
    (unlisted : name ∉ Fields.keys fields) : document.get? name = none := by
  obtain ⟨held, rfl, _, known, _⟩ := accepts_object_iff.mp accepted
  exact Fields.get?_eq_none_iff.mpr fun member => unlisted (known name member)

end Object

theorem checkCount_eq_nil_iff {minItems count : Nat} {maxItems : Option Nat} :
    checkCount minItems maxItems count = [] ↔
      minItems ≤ count ∧ ∀ limit, maxItems = some limit → count ≤ limit := by
  cases maxItems <;> simp [checkCount, when_eq_nil_iff]

theorem accepts_array_iff {minItems : Nat} {maxItems : Option Nat} {contract : Contract}
    {document : Json} :
    (Contract.array minItems maxItems contract).Accepts document ↔ ∃ items,
      document = .array items ∧ minItems ≤ items.length ∧
      (∀ limit, maxItems = some limit → items.length ≤ limit) ∧
      ∀ item ∈ items, contract.Accepts item := by
  cases document with
  | array items =>
      have inside : (items.zipIdx.flatMap fun entry =>
          (check contract entry.1).map (Violation.under (.index entry.2))) = [] ↔
          ∀ item ∈ items, contract.Accepts item := by
        conv_rhs => rw [← List.zipIdx_map_fst 0 items, List.forall_mem_map]
        simp only [List.flatMap_eq_nil_iff, List.map_eq_nil_iff, Accepts]
      simp only [Accepts, check, List.append_eq_nil_iff, checkCount_eq_nil_iff, inside, and_assoc,
        Json.array.injEq, exists_eq_left']
  | null | bool | number | string | object => simp [Accepts, check]

theorem checkString_eq_nil_iff {contract : StringContract} {text : String} :
    checkString contract text = [] ↔ contract.Describes text := by
  obtain ⟨minLength, maxLength, pattern, format, allowed⟩ := contract
  simp only [checkString, List.append_eq_nil_iff, when_eq_nil_iff, decide_eq_false_iff_not, not_lt,
    Bool.and_eq_false_imp, Bool.not_eq_true', List.isEmpty_eq_false_iff, Bool.not_eq_false',
    List.contains_iff_mem]
  constructor
  · rintro ⟨⟨⟨⟨long, short⟩, inPattern⟩, inFormat⟩, listed⟩
    refine ⟨long, ?_, ?_, ?_, listed⟩
    · rintro limit rfl
      simpa [when_eq_nil_iff] using short
    · rintro held rfl
      simpa [when_eq_nil_iff] using inPattern
    · rintro held rfl
      simpa [when_eq_nil_iff] using inFormat
  · rintro ⟨long, short, inPattern, inFormat, listed⟩
    refine ⟨⟨⟨⟨long, ?_⟩, ?_⟩, ?_⟩, listed⟩
    · cases maxLength with
      | none => rfl
      | some limit => simpa [when_eq_nil_iff] using short limit rfl
    · cases pattern with
      | none => rfl
      | some held => simpa [when_eq_nil_iff] using inPattern held rfl
    · cases format with
      | none => rfl
      | some held => simpa [when_eq_nil_iff] using inFormat held rfl

theorem accepts_string_iff {contract : StringContract} {document : Json} :
    (Contract.string contract).Accepts document ↔
      ∃ text, document = .string text ∧ contract.Describes text := by
  cases document with
  | string text => simp [Accepts, check, checkString_eq_nil_iff]
  | null | bool | number | array | object => simp [Accepts, check]

theorem accepts_const_iff {expected : String} {document : Json} :
    (Contract.const expected).Accepts document ↔ document = .string expected := by
  cases document with
  | string text => simp [Accepts, check, when_eq_nil_iff]
  | null | bool | number | array | object => simp [Accepts, check]

theorem checkInteger_eq_nil_iff {minimum maximum : Option Int64} {number : Number}
    (least : ∀ limit ∈ minimum, limit.toInt.natAbs < 2 ^ 53)
    (most : ∀ limit ∈ maximum, limit.toInt.natAbs < 2 ^ 53) :
    checkInteger minimum maximum number = [] ↔ ∃ whole, number.IsInteger whole ∧
      (∀ limit ∈ minimum, limit.toInt ≤ whole) ∧ ∀ limit ∈ maximum, whole ≤ limit.toInt := by
  unfold checkInteger
  split
  · rename_i isWhole
    obtain ⟨whole, integral⟩ := Number.exists_isInteger_iff.mpr isWhole
    have only : (∃ other, number.IsInteger other ∧ (∀ limit ∈ minimum, limit.toInt ≤ other) ∧
        ∀ limit ∈ maximum, other ≤ limit.toInt) ↔
        (∀ limit ∈ minimum, limit.toInt ≤ whole) ∧ ∀ limit ∈ maximum, whole ≤ limit.toInt := by
      constructor
      · rintro ⟨other, otherIntegral, bounds⟩
        rwa [integral.unique otherIntegral]
      · exact fun bounds => ⟨whole, integral, bounds⟩
    rw [only, List.append_eq_nil_iff]
    refine and_congr ?_ ?_
    · cases minimum with
      | none => simp
      | some limit =>
          simp [when_eq_nil_iff, Number.toFloat_lt_iff integral (least limit rfl)]
    · cases maximum with
      | none => simp
      | some limit =>
          simp [when_eq_nil_iff, Number.lt_toFloat_iff integral (most limit rfl)]
  · rename_i broken
    have none : ¬∃ whole, number.IsInteger whole := by rwa [Number.exists_isInteger_iff]
    simp only [List.cons_ne_nil, false_iff]
    rintro ⟨whole, integral, _⟩
    exact none ⟨whole, integral⟩

theorem accepts_integer_iff {minimum maximum : Option Int64} {document : Json}
    (least : ∀ limit ∈ minimum, limit.toInt.natAbs < 2 ^ 53)
    (most : ∀ limit ∈ maximum, limit.toInt.natAbs < 2 ^ 53) :
    (Contract.integer minimum maximum).Accepts document ↔ ∃ number whole,
      document = .number number ∧ number.IsInteger whole ∧
      (∀ limit ∈ minimum, limit.toInt ≤ whole) ∧ ∀ limit ∈ maximum, whole ≤ limit.toInt := by
  cases document with
  | number number => simp [Accepts, check, checkInteger_eq_nil_iff least most]
  | null | bool | string | array | object => simp [Accepts, check]

theorem accepts_between {least greatest : Int64} {document : Json}
    (leastSmall : least.toInt.natAbs < 2 ^ 53) (greatestSmall : greatest.toInt.natAbs < 2 ^ 53)
    (accepted : (Contract.between least greatest).Accepts document) :
    ∃ number value, document = .number number ∧ number.value? = some value ∧
      Decimal.rational? number.toFloat = some value ∧
      (least.toInt : ℚ) ≤ value ∧ value ≤ greatest.toInt := by
  have decides := @accepts_integer_iff (some least) (some greatest) document
    (by simpa using leastSmall) (by simpa using greatestSmall)
  obtain ⟨number, whole, rfl, integral, low, high⟩ := decides.mp accepted
  have atLeast := low least rfl
  have atMost := high greatest rfl
  refine ⟨number, whole, rfl, integral, ?_, by exact_mod_cast atLeast, by exact_mod_cast atMost⟩
  cases number with
  | float exact => exact integral
  | integer held =>
      have same : held.value = whole := by simpa [Number.IsInteger, Number.value?] using integral
      rw [← same]
      exact Decimal.rational?_ofInt (by omega)

end Contract

end Authoring
