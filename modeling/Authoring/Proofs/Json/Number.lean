import Mathlib
import Authoring.Json.Basic
import Authoring.Proofs.Decimal.Whole

/-! Numbers of documents and the floats that stand for them. -/

namespace Authoring

def Number.value? : Number → Option ℚ
  | .integer whole => some whole.value
  | .float exact => Decimal.rational? exact.value

def Number.IsInteger (number : Number) (whole : Int) : Prop :=
  number.value? = some (whole : ℚ)

namespace Number

variable {number : Number} {whole limit : Int}

theorem IsInteger.unique {other : Int} (integral : number.IsInteger whole)
    (otherIntegral : number.IsInteger other) : whole = other := by
  have same := integral.symm.trans otherIntegral
  simpa using same

theorem exists_near (integral : number.IsInteger whole) :
    ∃ near : Int, Decimal.rational? number.toFloat = some (near : ℚ) ∧
      ∀ limit : Int, limit.natAbs < 2 ^ 53 →
        (limit ≤ near ↔ limit ≤ whole) ∧ (near ≤ limit ↔ whole ≤ limit) := by
  cases number with
  | float exact => exact ⟨whole, integral, fun _ _ => ⟨Iff.rfl, Iff.rfl⟩⟩
  | integer held =>
      have same : held.value = whole := by simpa [IsInteger, value?] using integral
      have range := held.inRange
      rw [← same]
      exact Decimal.exists_near (by omega)

theorem exists_isInteger_iff :
    (∃ whole, number.IsInteger whole) ↔ Decimal.isWhole number.toFloat = true := by
  rw [Decimal.isWhole_iff]
  constructor
  · rintro ⟨whole, integral⟩
    obtain ⟨near, found, _⟩ := exists_near integral
    exact ⟨near, found⟩
  · intro found
    cases number with
    | float exact => exact found
    | integer held => exact ⟨held.value, rfl⟩

theorem toFloat_lt_iff (integral : number.IsInteger whole) (small : limit.natAbs < 2 ^ 53) :
    number.toFloat < Float.ofInt limit ↔ whole < limit := by
  obtain ⟨near, found, close⟩ := exists_near integral
  rw [Decimal.lt_iff found (Decimal.rational?_ofInt small), Int.cast_lt, ← not_le,
    (close limit small).1, not_le]

theorem lt_toFloat_iff (integral : number.IsInteger whole) (small : limit.natAbs < 2 ^ 53) :
    Float.ofInt limit < number.toFloat ↔ limit < whole := by
  obtain ⟨near, found, close⟩ := exists_near integral
  rw [Decimal.lt_iff (Decimal.rational?_ofInt small) found, Int.cast_lt, ← not_le,
    (close limit small).2, not_le]

theorem toFloat_isFinite (number : Number) : number.toFloat.isFinite = true := by
  cases number with
  | float exact => exact exact.isFinite
  | integer held =>
      obtain ⟨near, found, _⟩ := @exists_near (.integer held) held.value rfl
      exact Decimal.isFinite_of_rational found

end Number

end Authoring
