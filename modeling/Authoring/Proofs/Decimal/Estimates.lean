import Mathlib
import Authoring.Proofs.Decimal.Whole

/-! How floats that are at least zero compare after an operation: sums, products and quotients keep
their order, and none of them is larger than a float that the exact result does not exceed. -/

namespace Authoring

namespace Decimal

variable {a b c d x y z : Float} {left right value : ℚ}

theorem rounded?_of_rational (exact : rational? x = some value) :
    rounded? value = some value := by
  obtain ⟨number, found, rfl⟩ := Option.map_eq_some_iff.mp exact
  exact rounded?_value (Dyadic.ofFloat?_fits found)

theorem rational?_zero_literal : rational? 0 = some 0 := by
  have found := rational?_ofNat (by norm_num : 0 < 2 ^ 53)
  rwa [Nat.cast_zero] at found

theorem rational?_one : rational? 1 = some 1 := by
  have found := rational?_ofNat (by norm_num : 1 < 2 ^ 53)
  rwa [Nat.cast_one] at found

/-- Both floats are finite, neither is negative, and the first is at most the second. -/
def AtMost (x y : Float) : Prop :=
  ∃ small great : ℚ, rational? x = some small ∧ rational? y = some great ∧
    0 ≤ small ∧ small ≤ great

namespace AtMost

theorem le (most : AtMost x y) : x ≤ y := by
  obtain ⟨small, great, first, second, -, order⟩ := most
  exact (le_iff first second).mpr order

theorem of_le (least : 0 ≤ x) (le : x ≤ y) (first : x.isFinite = true)
    (second : y.isFinite = true) : AtMost x y := by
  obtain ⟨small, found⟩ := exists_of_isFinite first
  obtain ⟨great, greatFound⟩ := exists_of_isFinite second
  exact ⟨small, great, found, greatFound, (le_iff rational?_zero_literal found).mp least,
    (le_iff found greatFound).mp le⟩

theorem bne_iff_lt (most : AtMost x y) : (x != y) = true ↔ x < y := by
  obtain ⟨small, great, found, greatFound, -, order⟩ := most
  rw [bne, Bool.not_eq_true', ← Bool.not_eq_true, beq_iff found greatFound,
    lt_iff found greatFound, order.lt_iff_ne]

theorem refl (exact : rational? x = some value) (nonneg : 0 ≤ value) : AtMost x x :=
  ⟨value, value, exact, exact, nonneg, le_rfl⟩

theorem trans (first : AtMost x y) (second : AtMost y z) : AtMost x z := by
  obtain ⟨small, great, smallFound, greatFound, nonneg, order⟩ := first
  obtain ⟨middle, greatest, middleFound, greatestFound, -, next⟩ := second
  obtain rfl := Option.some.inj (greatFound.symm.trans middleFound)
  exact ⟨small, greatest, smallFound, greatestFound, nonneg, order.trans next⟩

theorem of_rounded {small great limit : ℚ} (first : rational? x = rounded? small)
    (second : rational? y = rounded? great) (nonneg : 0 ≤ small) (le : small ≤ great)
    (finite : rational? y = some limit) : AtMost x y := by
  obtain ⟨near, found, least, order⟩ := rounded?_below nonneg le (second.symm.trans finite)
  exact ⟨near, limit, first.trans found, finite, least, order⟩

theorem of_bound {small limit : ℚ} (first : rational? x = rounded? small)
    (bound : rational? y = some limit) (nonneg : 0 ≤ small) (le : small ≤ limit) : AtMost x y :=
  of_rounded first (bound.trans (rounded?_of_rational bound).symm) nonneg le bound

theorem add {total : ℚ} (first : AtMost a c) (second : AtMost b d)
    (finite : rational? (c + d) = some total) : AtMost (a + b) (c + d) := by
  obtain ⟨left, leftGreat, leftFound, leftGreatFound, leftNonneg, leftOrder⟩ := first
  obtain ⟨right, rightGreat, rightFound, rightGreatFound, rightNonneg, rightOrder⟩ := second
  exact of_rounded (rational?_add leftFound rightFound)
    (rational?_add leftGreatFound rightGreatFound) (add_nonneg leftNonneg rightNonneg)
    (add_le_add leftOrder rightOrder) finite

theorem mul {product : ℚ} (first : AtMost a c) (second : AtMost b d)
    (finite : rational? (c * d) = some product) : AtMost (a * b) (c * d) := by
  obtain ⟨left, leftGreat, leftFound, leftGreatFound, leftNonneg, leftOrder⟩ := first
  obtain ⟨right, rightGreat, rightFound, rightGreatFound, rightNonneg, rightOrder⟩ := second
  exact of_rounded (rational?_mul leftFound rightFound)
    (rational?_mul leftGreatFound rightGreatFound) (mul_nonneg leftNonneg rightNonneg)
    (mul_le_mul leftOrder rightOrder rightNonneg (leftNonneg.trans leftOrder)) finite

theorem mul_le (first : AtMost a a) (second : AtMost b 1) : AtMost (a * b) a := by
  obtain ⟨left, -, leftFound, -, leftNonneg, -⟩ := first
  obtain ⟨right, one, rightFound, oneFound, rightNonneg, order⟩ := second
  obtain rfl := Option.some.inj (oneFound.symm.trans rational?_one)
  exact of_bound (rational?_mul leftFound rightFound) leftFound (mul_nonneg leftNonneg rightNonneg)
    (mul_le_of_le_one_right leftNonneg order)

theorem div_le_one (first : AtMost a b) (nonzero : rational? b ≠ some 0) : AtMost (a / b) 1 := by
  obtain ⟨left, right, leftFound, rightFound, nonneg, order⟩ := first
  have positive : 0 < right := by
    refine (nonneg.trans order).lt_of_ne' ?_
    rintro rfl
    exact nonzero rightFound
  exact of_bound (rational?_div leftFound rightFound positive.ne') rational?_one
    (div_nonneg nonneg positive.le) ((div_le_one₀ positive).mpr order)

theorem div (above : AtMost a c) (below : AtMost d b) (part : AtMost c d)
    (nonzero : rational? d ≠ some 0) : AtMost (a / b) (c / d) := by
  obtain ⟨_, -, found, -⟩ := part.div_le_one nonzero
  obtain ⟨small, great, smallFound, greatFound, smallNonneg, smallOrder⟩ := above
  obtain ⟨least, most, leastFound, mostFound, leastNonneg, leastOrder⟩ := below
  have positive : 0 < least := by
    refine leastNonneg.lt_of_ne' ?_
    rintro rfl
    exact nonzero leastFound
  exact of_rounded (rational?_div smallFound mostFound (positive.trans_le leastOrder).ne')
    (rational?_div greatFound leastFound positive.ne')
    (div_nonneg smallNonneg (positive.le.trans leastOrder))
    (div_le_div₀ (smallNonneg.trans smallOrder) smallOrder positive leastOrder) found

theorem one_sub_le (part : AtMost a 1) : AtMost (1 - a) 1 := by
  obtain ⟨small, one, found, oneFound, nonneg, order⟩ := part
  obtain rfl := Option.some.inj (oneFound.symm.trans rational?_one)
  exact of_bound (rational?_sub rational?_one found) rational?_one (sub_nonneg.mpr order)
    (sub_le_self 1 nonneg)

theorem one_sub (first : AtMost a b) (second : AtMost b 1) : AtMost (1 - b) (1 - a) := by
  obtain ⟨_, -, rest, -⟩ := (first.trans second).one_sub_le
  obtain ⟨small, great, smallFound, greatFound, nonneg, order⟩ := first
  obtain ⟨most, one, mostFound, oneFound, -, bound⟩ := second
  obtain rfl := Option.some.inj (greatFound.symm.trans mostFound)
  obtain rfl := Option.some.inj (oneFound.symm.trans rational?_one)
  exact of_rounded (rational?_sub rational?_one greatFound) (rational?_sub rational?_one smallFound)
    (sub_nonneg.mpr bound) (sub_le_sub_left order 1) rest

theorem hundredfold (alike : AtMost x y) (bound : AtMost y 1) : AtMost (x * 100) (y * 100) := by
  have hundred := rational?_ofNat (by norm_num : 100 < 2 ^ 53)
  obtain ⟨great, one, found, oneFound, nonneg, order⟩ := bound
  obtain rfl := Option.some.inj (oneFound.symm.trans rational?_one)
  have below : AtMost (y * 100) 100 := of_bound (rational?_mul found hundred) hundred
    (mul_nonneg nonneg (Nat.cast_nonneg _)) (mul_le_of_le_one_left (Nat.cast_nonneg _) order)
  obtain ⟨_, -, product, -⟩ := below
  exact alike.mul (.refl hundred (Nat.cast_nonneg _)) product

end AtMost

/-! Percentages -/

theorem roundSize_eq (number : Dyadic) : (number.roundSize : ℤ) = ⌊number.size + 1 / 2⌋ := by
  have quotient : number.size + (1 / 2 : ℚ) =
      (2 * (number.significand <<< number.exponent.toNat) + 1 <<< (-number.exponent).toNat : ℕ) /
        (2 <<< (-number.exponent).toNat : ℕ) := by
    simp only [Dyadic.size_eq_div, Nat.shiftLeft_eq]
    push_cast
    field_simp
  rw [quotient, Rat.floor_natCast_div_natCast]
  rfl

theorem toPercent_eq (exact : rational? x = some value) (nonneg : 0 ≤ value) :
    ((toPercent x).toNat : ℤ) = min 100 ⌊value + 1 / 2⌋ := by
  obtain ⟨number, found, rfl⟩ := Option.map_eq_some_iff.mp exact
  simp only [toPercent, found]
  unfold Dyadic.value at nonneg ⊢
  split
  next negative =>
    -- Of the negative numbers, only the negative zero has a value that is not below zero.
    rw [if_pos negative] at nonneg
    have zero : number.size = 0 := by linarith [number.size_nonneg]
    rw [zero]
    norm_num
  next =>
    rw [← roundSize_eq, UInt8.toNat_ofNat']
    omega

theorem AtMost.toPercent_le (alike : AtMost x y) : toPercent x ≤ toPercent y := by
  obtain ⟨small, great, smallFound, greatFound, nonneg, order⟩ := alike
  have floors : ⌊small + 1 / 2⌋ ≤ ⌊great + 1 / 2⌋ := by gcongr
  have first := toPercent_eq smallFound nonneg
  have second := toPercent_eq greatFound (nonneg.trans order)
  rw [UInt8.le_iff_toNat_le]
  omega

end Decimal

end Authoring
