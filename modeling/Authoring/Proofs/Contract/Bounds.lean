import Mathlib
import Authoring.Proofs.Contract.Accepts
import Authoring.Proofs.Decimal.Neighbours

/-! Integers and their bounds. What is reported of an integer is that it is beyond a bound. This is
left out only where one float is the nearest to both the integer and the bound. -/

namespace Authoring

theorem WideInt.natAbs_lt (whole : WideInt) : whole.value.natAbs < 2 ^ 64 := by
  have range := whole.inRange
  omega

theorem natAbs_toInt_le (word : Int64) : word.toInt.natAbs ≤ 2 ^ 63 := by
  have least := word.le_toInt
  have greatest := word.toInt_lt
  omega

namespace Contract

open Decimal (SameFloat IsHeld)

inductive IsBeyond (minimum maximum : Option Int64) (whole : ℤ) : Int64 → Problem → Prop
  | below {limit : Int64} (bound : minimum = some limit) (less : whole < limit.toInt) :
      IsBeyond minimum maximum whole limit (.belowMinimum limit)
  | above {limit : Int64} (bound : maximum = some limit) (more : limit.toInt < whole) :
      IsBeyond minimum maximum whole limit (.aboveMaximum limit)

variable {minimum maximum : Option Int64} {whole : WideInt} {limit : Int64}
  {violation : Violation}

theorem toFloat_lt_limit_iff : (Number.integer whole).toFloat < Float.ofInt limit.toInt ↔
    whole.value < limit.toInt ∧ ¬SameFloat whole.value limit.toInt := by
  have wide := whole.natAbs_lt
  have bounded := natAbs_toInt_le limit
  exact Decimal.ofInt_lt_iff (by omega) (by omega)

theorem limit_lt_toFloat_iff : Float.ofInt limit.toInt < (Number.integer whole).toFloat ↔
    limit.toInt < whole.value ∧ ¬SameFloat whole.value limit.toInt := by
  have wide := whole.natAbs_lt
  have bounded := natAbs_toInt_le limit
  refine (Decimal.ofInt_lt_iff (by omega) (by omega)).trans ?_
  exact and_congr_right fun _ => not_congr ⟨SameFloat.symm, SameFloat.symm⟩

theorem check_integer_eq : check (.integer minimum maximum) (.number (.integer whole)) =
    (minimum.toList.flatMap fun limit =>
      when ((Number.integer whole).toFloat < Float.ofInt limit.toInt) (.belowMinimum limit)) ++
    maximum.toList.flatMap fun limit =>
      when (Float.ofInt limit.toInt < (Number.integer whole).toFloat) (.aboveMaximum limit) := by
  have isWhole : Decimal.isWhole (Number.integer whole).toFloat = true :=
    Number.exists_isInteger_iff.mp ⟨whole.value, rfl⟩
  simp only [check, checkInteger, isWhole, if_true]
  cases minimum <;> cases maximum <;> simp

theorem mem_check_integer_iff :
    violation ∈ check (.integer minimum maximum) (.number (.integer whole)) ↔
      ∃ limit problem, IsBeyond minimum maximum whole.value limit problem ∧
        ¬SameFloat whole.value limit.toInt ∧ violation = .here problem := by
  simp only [check_integer_eq, List.mem_append, List.mem_flatMap, Option.mem_toList, mem_when_iff,
    decide_eq_true_eq, toFloat_lt_limit_iff, limit_lt_toFloat_iff]
  constructor
  · rintro (⟨limit, bound, ⟨less, apart⟩, rfl⟩ | ⟨limit, bound, ⟨more, apart⟩, rfl⟩)
    · exact ⟨limit, _, .below bound less, apart, rfl⟩
    · exact ⟨limit, _, .above bound more, apart, rfl⟩
  · rintro ⟨limit, _, ⟨bound, less⟩ | ⟨bound, more⟩, apart, rfl⟩
    · exact .inl ⟨limit, bound, ⟨less, apart⟩, rfl⟩
    · exact .inr ⟨limit, bound, ⟨more, apart⟩, rfl⟩

theorem sameFloat_apart (same : SameFloat whole.value limit.toInt)
    (different : whole.value ≠ limit.toInt) :
    2 ^ 53 ≤ |whole.value| ∧ 2 ^ 53 ≤ |limit.toInt| ∧
      ¬(IsHeld whole.value ∧ IsHeld limit.toInt) ∧ |whole.value - limit.toInt| ≤ 1536 := by
  have wholeLarge : ¬whole.value.natAbs < 2 ^ 53 := fun small => different (same.eq_of_small small)
  have limitLarge : ¬limit.toInt.natAbs < 2 ^ 53 := fun small =>
    different (same.symm.eq_of_small small).symm
  refine ⟨?_, ?_, fun ⟨held, limitHeld⟩ => different (same.eq_of_isHeld held limitHeld),
    same.near whole.natAbs_lt (natAbs_toInt_le limit)⟩
  · rw [Int.abs_eq_natAbs]
    omega
  · rw [Int.abs_eq_natAbs]
    omega

/-- Nothing is reported of an integer but that it is beyond a bound, and that is reported unless one
float is the nearest to both. Then both have more than 53 binary digits, floats do not hold both of
them, and they are at most 1536 apart. -/
theorem bounds_reported (minimum maximum : Option Int64) (whole : WideInt) :
    (∀ violation, violation ∈ check (.integer minimum maximum) (.number (.integer whole)) ↔
      ∃ limit problem, IsBeyond minimum maximum whole.value limit problem ∧
        ¬SameFloat whole.value limit.toInt ∧ violation = .here problem) ∧
    ∀ limit problem, IsBeyond minimum maximum whole.value limit problem →
      SameFloat whole.value limit.toInt →
        2 ^ 53 ≤ |whole.value| ∧ 2 ^ 53 ≤ |limit.toInt| ∧
        ¬(IsHeld whole.value ∧ IsHeld limit.toInt) ∧ |whole.value - limit.toInt| ≤ 1536 := by
  refine ⟨fun _ => mem_check_integer_iff, fun limit problem beyond same => ?_⟩
  refine sameFloat_apart same ?_
  cases beyond with
  | below bound less => exact less.ne
  | above bound more => exact more.ne'

/-- The float between this bound and the first integer is the nearest to both, although they are 1536
apart. The next integer has another nearest float. -/
def sampleMaximum : Int64 :=
  9223372036854775296

def sampleUnseen : WideInt :=
  ⟨9223372036854776832, by decide⟩

def sampleSeen : WideInt :=
  ⟨9223372036854776833, by decide⟩

theorem bounds_reported_of_samples :
    IsBeyond none (some sampleMaximum) sampleUnseen.value sampleMaximum
        (.aboveMaximum sampleMaximum) ∧
      SameFloat sampleUnseen.value sampleMaximum.toInt ∧
      (2 ^ 53 ≤ |sampleUnseen.value| ∧ 2 ^ 53 ≤ |sampleMaximum.toInt| ∧
        ¬(IsHeld sampleUnseen.value ∧ IsHeld sampleMaximum.toInt) ∧
        |sampleUnseen.value - sampleMaximum.toInt| ≤ 1536) ∧
      .here (.aboveMaximum sampleMaximum) ∈
        check (.integer none (some sampleMaximum)) (.number (.integer sampleSeen)) := by
  have beyond : IsBeyond none (some sampleMaximum) sampleUnseen.value sampleMaximum
      (.aboveMaximum sampleMaximum) := .above rfl (by decide)
  have same : SameFloat sampleUnseen.value sampleMaximum.toInt := by
    unfold SameFloat
    decide +kernel
  have apart : ¬SameFloat sampleSeen.value sampleMaximum.toInt := by
    unfold SameFloat
    decide +kernel
  exact ⟨beyond, same, (bounds_reported none (some sampleMaximum) sampleUnseen).2 _ _ beyond same,
    ((bounds_reported none (some sampleMaximum) sampleSeen).1 _).mpr
      ⟨_, _, .above rfl (by decide), apart, rfl⟩⟩

def sampleMinimum : Int64 :=
  9007199254740993

def sampleBelow : WideInt :=
  ⟨9007199254740992, by decide⟩

theorem check_passes_sampleBelow :
    IsBeyond (some sampleMinimum) none sampleBelow.value sampleMinimum
        (.belowMinimum sampleMinimum) ∧
      check (.integer (some sampleMinimum) none) (.number (.integer sampleBelow)) = [] :=
  ⟨.below rfl (by decide), by decide +kernel⟩

end Contract

end Authoring
