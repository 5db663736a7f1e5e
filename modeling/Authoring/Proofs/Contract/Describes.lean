import Mathlib
import Authoring.Proofs.Contract.Accepts

/-! What the documents of a contract are, at every depth and without any order of checking. The
check finds nothing wrong with these documents and something with all others. -/

namespace Authoring.Contract

inductive Describes : Contract → Json → Prop
  | object {fields : List (String × Presence × Contract)} {names : List String} {held : Fields Json}
      (present : ∀ field ∈ fields, field.2.1 = .required → (Fields.get? field.1 held).isSome)
      (closed : ∀ name ∈ Fields.keys held, name ∈ Fields.keys fields)
      (inside : ∀ field ∈ fields, ∀ value, Fields.get? field.1 held = some value →
        Describes field.2.2 value)
      (nonEmpty : names ≠ [] → ∃ name ∈ names, ∃ first rest,
        Fields.get? name held = some (.array (first :: rest))) :
      Describes (.object fields names) (.object held)
  | array {minItems : Nat} {maxItems : Option Nat} {contract : Contract} {items : List Json}
      (long : minItems ≤ items.length)
      (short : ∀ limit, maxItems = some limit → items.length ≤ limit)
      (inside : ∀ item ∈ items, Describes contract item) :
      Describes (.array minItems maxItems contract) (.array items)
  | string {contract : StringContract} {text : String} (described : contract.Describes text) :
      Describes (.string contract) (.string text)
  | integer {minimum maximum : Option Int64} {number : Number} {whole : Int}
      (integral : number.IsInteger whole)
      (least : ∀ limit ∈ minimum, limit.toInt ≤ whole)
      (most : ∀ limit ∈ maximum, whole ≤ limit.toInt) :
      Describes (.integer minimum maximum) (.number number)
  | const {text : String} : Describes (.const text) (.string text)

/-- The bounds of all integers in the contract are held exactly by floats. -/
inductive HasSmallBounds : Contract → Prop
  | object {fields : List (String × Presence × Contract)} {names : List String}
      (inside : ∀ field ∈ fields, HasSmallBounds field.2.2) :
      HasSmallBounds (.object fields names)
  | array {minItems : Nat} {maxItems : Option Nat} {contract : Contract}
      (inside : HasSmallBounds contract) : HasSmallBounds (.array minItems maxItems contract)
  | string {contract : StringContract} : HasSmallBounds (.string contract)
  | integer {minimum maximum : Option Int64}
      (least : ∀ limit ∈ minimum, limit.toInt.natAbs < 2 ^ 53)
      (most : ∀ limit ∈ maximum, limit.toInt.natAbs < 2 ^ 53) :
      HasSmallBounds (.integer minimum maximum)
  | const {text : String} : HasSmallBounds (.const text)

def Decides (contract : Contract) : Prop :=
  ∀ document, contract.Accepts document ↔ contract.Describes document

theorem object_decides {fields : List (String × Presence × Contract)} (names : List String)
    (each : ∀ field ∈ fields, field.2.2.Decides) : (Contract.object fields names).Decides := by
  intro document
  rw [accepts_object_iff]
  constructor
  · rintro ⟨held, rfl, present, closed, inside, nonEmpty⟩
    refine .object present closed (fun field listed value found => ?_) nonEmpty
    exact (each field listed value).mp (inside field listed value found)
  · intro described
    cases described with
    | object present closed inside nonEmpty =>
        refine ⟨_, rfl, present, closed, fun field listed value found => ?_, nonEmpty⟩
        exact (each field listed value).mpr (inside field listed value found)

theorem array_decides (minItems : Nat) (maxItems : Option Nat) {contract : Contract}
    (each : contract.Decides) : (Contract.array minItems maxItems contract).Decides := by
  intro document
  rw [accepts_array_iff]
  constructor
  · rintro ⟨items, rfl, long, short, inside⟩
    exact .array long short fun item member => (each item).mp (inside item member)
  · intro described
    cases described with
    | array long short inside =>
        exact ⟨_, rfl, long, short, fun item member => (each item).mpr (inside item member)⟩

theorem string_decides (contract : StringContract) : (Contract.string contract).Decides := by
  intro document
  rw [accepts_string_iff]
  constructor
  · rintro ⟨text, rfl, described⟩
    exact .string described
  · intro described
    cases described with
    | string described => exact ⟨_, rfl, described⟩

theorem integer_decides {minimum maximum : Option Int64}
    (least : ∀ limit ∈ minimum, limit.toInt.natAbs < 2 ^ 53)
    (most : ∀ limit ∈ maximum, limit.toInt.natAbs < 2 ^ 53) :
    (Contract.integer minimum maximum).Decides := by
  intro document
  rw [accepts_integer_iff least most]
  constructor
  · rintro ⟨number, whole, rfl, integral, low, high⟩
    exact .integer integral low high
  · intro described
    cases described with
    | integer integral low high => exact ⟨_, _, rfl, integral, low, high⟩

theorem const_decides (expected : String) : (Contract.const expected).Decides := by
  intro document
  rw [accepts_const_iff]
  constructor
  · rintro rfl
    exact .const
  · intro described
    cases described with
    | const => rfl

/-- Nothing is found wrong with a document if, and only if, the contract describes it. -/
theorem check_decides (contract : Contract) (small : contract.HasSmallBounds) (document : Json) :
    contract.check document = [] ↔ contract.Describes document := by
  suffices decides : contract.Decides from decides document
  induction small with
  | object _ each => exact object_decides _ each
  | array _ inside => exact array_decides _ _ inside
  | string => exact string_decides _
  | integer least most => exact integer_decides least most
  | const => exact const_decides _

def sampleContract : Contract :=
  .listOf 1 2 <| .object
    [required "kind" (.const "a"), required "count" (.between 0 2),
      optional "tags" (.listOf 0 2 (.text 1 3))]
    ["tags"]

def sampleItem (count : Number) (tags : List String) : Json :=
  .object [("count", .number count), ("kind", .string "a"), ("tags", .strings tags)]

theorem check_decides_sampleContract :
    sampleContract.HasSmallBounds ∧
      sampleContract.Describes
        (.array [sampleItem (.integer ⟨2, by decide⟩) ["x"],
          sampleItem (.float ⟨2, by decide +kernel⟩) ["y"]]) ∧
      ¬sampleContract.Describes (.array [sampleItem (.integer ⟨2, by decide⟩) []]) := by
  have count : (Contract.between 0 2).HasSmallBounds := by
    refine .integer ?_ ?_
    · rintro limit ⟨⟩
      decide
    · rintro limit ⟨⟩
      decide
  have small : sampleContract.HasSmallBounds := by
    refine .array (.object ?_)
    simp only [List.forall_mem_cons]
    exact ⟨.const, count, .array .string, List.forall_mem_nil _⟩
  refine ⟨small, (check_decides _ small _).mp (by decide +kernel), fun described => ?_⟩
  exact absurd ((check_decides _ small _).mpr described) (by decide +kernel)

end Authoring.Contract
