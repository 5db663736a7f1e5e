import Mathlib
import Authoring.Proofs.Score.Counts

/-! Weights of which none is negative, and the means that they make of components. -/

namespace Authoring

open Decimal

namespace PerComponent

structure Weighs (weights : PerComponent) : Prop where
  nonneg : ∀ weight ∈ weights.toList, 0 ≤ weight
  finite : weights.total.isFinite = true
  positive : 0 < weights.total

theorem total_eq_sumOf (weights : PerComponent) : weights.total = sumOf weights.toList :=
  rfl

namespace Weighs

variable {weights components first second : PerComponent}

theorem total_exactly (weighs : weights.Weighs) :
    rational? weights.total = some (exactly weights.total) ∧ 0 < exactly weights.total := by
  obtain ⟨total, found⟩ := exists_of_isFinite weighs.finite
  rw [exactly_eq found]
  exact ⟨found, (lt_iff rational?_zero_literal found).mp weighs.positive⟩

theorem each (weighs : weights.Weighs) : ∀ weight ∈ weights.toList, AtMost weight weight := by
  intro weight member
  have total := weighs.total_exactly.1
  rw [total_eq_sumOf] at total
  obtain ⟨value, found⟩ := exists_of_sumOf total weight member
  exact .refl found ((le_iff rational?_zero_literal found).mp (weighs.nonneg weight member))

theorem weightedMean_eq (weighs : weights.Weighs) : components.weightedMean weights =
    sumOf (products weights.toList components.toList) / weights.total := by
  obtain ⟨found, positive⟩ := weighs.total_exactly
  have above : ¬weights.total ≤ 0 := by
    rw [le_iff found rational?_zero_literal]
    exact positive.not_ge
  rw [weightedMean, if_neg above]
  rfl

theorem sum_le_total (weighs : weights.Weighs)
    (bounded : ∀ component ∈ components.toList, AtMost component 1) :
    AtMost (sumOf (products weights.toList components.toList)) weights.total := by
  have total := weighs.total_exactly.1
  rw [total_eq_sumOf] at total ⊢
  exact .sumOf (products_le weighs.each bounded rfl) total

theorem total_ne_zero (weighs : weights.Weighs) : rational? weights.total ≠ some 0 := by
  obtain ⟨found, positive⟩ := weighs.total_exactly
  rw [found, ne_eq, Option.some.injEq]
  exact positive.ne'

theorem weightedMean_le_one (weighs : weights.Weighs)
    (bounded : ∀ component ∈ components.toList, AtMost component 1) :
    AtMost (components.weightedMean weights) 1 := by
  rw [weighs.weightedMean_eq]
  exact (weighs.sum_le_total bounded).div_le_one weighs.total_ne_zero

theorem weightedMean_mono (weighs : weights.Weighs)
    (alike : List.Forall₂ AtMost first.toList second.toList)
    (bounded : ∀ component ∈ second.toList, AtMost component 1) :
    AtMost (first.weightedMean weights) (second.weightedMean weights) := by
  have most := weighs.sum_le_total bounded
  obtain ⟨found, positive⟩ := weighs.total_exactly
  have parts := AtMost.sumOf (products_mono weighs.each alike bounded) most.rational_exactly
  rw [weighs.weightedMean_eq, weighs.weightedMean_eq]
  exact parts.div (.refl found positive.le) most weighs.total_ne_zero

end Weighs

end PerComponent

end Authoring
