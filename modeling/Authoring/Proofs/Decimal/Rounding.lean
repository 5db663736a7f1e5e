import Mathlib

/-! Rounding to the nearest float. A float that is the result of an operation depends on the exact
result alone: it is the exact result rounded, to the even neighbour when two are equally near.
Rounding keeps the order of numbers, leaves floats as they are, and errs by a small share of the
number. -/

namespace Authoring

namespace Decimal

def halfEven (x : ℚ) : ℤ :=
  if x < ⌊x⌋ + 1 / 2 then ⌊x⌋
  else if ⌊x⌋ + 1 / 2 < x then ⌊x⌋ + 1
  else ⌊x⌋ + ⌊x⌋ % 2

theorem halfEven_intCast (whole : ℤ) : halfEven whole = whole := by
  simp [halfEven]

theorem floor_le_halfEven (x : ℚ) : ⌊x⌋ ≤ halfEven x := by
  unfold halfEven
  split_ifs <;> omega

theorem halfEven_le_floor_succ (x : ℚ) : halfEven x ≤ ⌊x⌋ + 1 := by
  unfold halfEven
  split_ifs <;> omega

theorem halfEven_mono {x y : ℚ} (le : x ≤ y) : halfEven x ≤ halfEven y := by
  rcases (Int.floor_mono le).lt_or_eq with less | same
  · have upper := halfEven_le_floor_succ x
    have lower := floor_le_halfEven y
    omega
  · unfold halfEven
    rw [same]
    split_ifs <;> first | omega | linarith

theorem halfEven_neg (x : ℚ) : halfEven (-x) = -halfEven x := by
  by_cases whole : (⌊x⌋ : ℚ) = x
  · rw [← whole, ← Int.cast_neg, halfEven_intCast, halfEven_intCast]
  · have less := lt_of_le_of_ne (Int.floor_le x) whole
    have more := Int.lt_floor_add_one x
    have floor : ⌊-x⌋ = -⌊x⌋ - 1 := by
      rw [Int.floor_eq_iff]
      push_cast
      constructor <;> linarith
    unfold halfEven
    rw [floor]
    push_cast
    split_ifs <;> first | omega | linarith

theorem halfEven_near (x : ℚ) : |halfEven x - x| ≤ 1 / 2 := by
  have lower := Int.floor_le x
  have upper := Int.lt_floor_add_one x
  unfold halfEven
  rw [abs_le]
  split_ifs with below above
  · constructor <;> linarith
  · push_cast
    constructor <;> linarith
  · have half : x = ⌊x⌋ + 1 / 2 := by linarith
    rcases Int.emod_two_eq_zero_or_one ⌊x⌋ with even | odd
    · rw [even]
      push_cast
      constructor <;> linarith
    · rw [odd]
      push_cast
      constructor <;> linarith

/-! The grid of floats -/

theorem pow_mul_zpow (count : ℕ) (exponent : ℤ) :
    (2 : ℚ) ^ count * 2 ^ exponent = 2 ^ (count + exponent) := by
  rw [zpow_add₀ (by norm_num), zpow_natCast]

/-- Near `x` the floats are the multiples of two to this power. -/
def place (x : ℚ) : ℤ :=
  max (Int.log 2 |x| - 52) (-1074)

/-- The float nearest to `x`, as if there were floats of any size. -/
def rounded (x : ℚ) : ℚ :=
  halfEven (x / 2 ^ place x) * 2 ^ place x

def rounded? (x : ℚ) : Option ℚ :=
  if |rounded x| < 2 ^ (1024 : ℤ) then some (rounded x) else none

theorem place_neg (x : ℚ) : place (-x) = place x := by
  rw [place, place, abs_neg]

theorem rounded_neg (x : ℚ) : rounded (-x) = -rounded x := by
  rw [rounded, place_neg, neg_div, halfEven_neg]
  push_cast
  rw [neg_mul]
  rfl

theorem rounded_zero : rounded 0 = 0 := by
  have zero := halfEven_intCast 0
  rw [Int.cast_zero] at zero
  rw [rounded, zero_div, zero, Int.cast_zero, zero_mul]

theorem rounded_of_multiple {x : ℚ} {count exponent : ℤ} (multiple : x = count * 2 ^ exponent)
    (coarse : place x ≤ exponent) : rounded x = x := by
  obtain ⟨shift, split⟩ := Int.le.dest coarse
  have quotient : x / 2 ^ place x = (count * 2 ^ shift : ℤ) := by
    rw [div_eq_iff (by positivity)]
    conv_lhs => rw [multiple, ← split, zpow_add₀ (by norm_num), zpow_natCast]
    push_cast
    ring
  rw [rounded, quotient, halfEven_intCast, ← quotient, div_mul_cancel₀ x (by positivity)]

section Places

variable {x y : ℚ}

theorem abs_lt_of_place (x : ℚ) : |x| < 2 ^ 53 * 2 ^ place x := by
  have log := Int.lt_zpow_succ_log_self (b := 2) (by norm_num) |x|
  calc
    |x| < 2 ^ (Int.log 2 |x| + 1) := by exact_mod_cast log
    _ ≤ 2 ^ 53 * 2 ^ place x := by
      rw [pow_mul_zpow]
      apply zpow_le_zpow_right₀ (by norm_num)
      unfold place
      omega

theorem le_abs_of_place (nonzero : x ≠ 0) (normal : -1074 < place x) :
    2 ^ 52 * 2 ^ place x ≤ |x| := by
  have log := Int.zpow_log_le_self (b := 2) (by norm_num) (abs_pos.mpr nonzero)
  calc
    (2 : ℚ) ^ 52 * 2 ^ place x ≤ 2 ^ Int.log 2 |x| := by
      rw [pow_mul_zpow]
      apply zpow_le_zpow_right₀ (by norm_num)
      unfold place at normal ⊢
      omega
    _ ≤ |x| := by exact_mod_cast log

theorem place_mono (positive : 0 < x) (le : x ≤ y) : place x ≤ place y := by
  have log := Int.log_mono_right (b := 2) positive le
  rw [place, place, abs_of_pos positive, abs_of_pos (positive.trans_le le)]
  omega

theorem place_le_of_lt {exponent : ℤ} (nonzero : x ≠ 0) (small : |x| < 2 ^ 53 * 2 ^ exponent)
    (least : -1074 ≤ exponent) : place x ≤ exponent := by
  by_contra coarse
  have full := le_abs_of_place nonzero (by omega)
  have less : (2 : ℚ) ^ 53 * 2 ^ exponent ≤ 2 ^ 52 * 2 ^ place x := by
    rw [pow_mul_zpow, pow_mul_zpow]
    apply zpow_le_zpow_right₀ (by norm_num)
    omega
  linarith

theorem rounded_of_digits {count exponent : ℤ} (multiple : x = count * 2 ^ exponent)
    (small : |x| < 2 ^ 53 * 2 ^ exponent) (least : -1074 ≤ exponent) : rounded x = x := by
  rcases eq_or_ne x 0 with rfl | nonzero
  · exact rounded_zero
  · exact rounded_of_multiple multiple (place_le_of_lt nonzero small least)

theorem rounded?_of_digits {count exponent : ℤ} (multiple : x = count * 2 ^ exponent)
    (small : |x| < 2 ^ 53 * 2 ^ exponent) (least : -1074 ≤ exponent) (most : exponent ≤ 971) :
    rounded? x = some x := by
  have bounded : (2 : ℚ) ^ 53 * 2 ^ exponent ≤ 2 ^ (1024 : ℤ) := by
    rw [pow_mul_zpow]
    apply zpow_le_zpow_right₀ (by norm_num)
    omega
  rw [rounded?, rounded_of_digits multiple small least, if_pos (small.trans_le bounded)]

theorem rounded?_natCast {count : ℕ} (small : count < 2 ^ 53) :
    rounded? count = some (count : ℚ) := by
  have multiple : (count : ℚ) = (count : ℤ) * 2 ^ (0 : ℤ) := by simp
  refine rounded?_of_digits multiple ?_ (by norm_num) (by norm_num)
  rw [abs_of_nonneg (Nat.cast_nonneg _), zpow_zero, mul_one]
  exact_mod_cast small

theorem rounded?_fraction {count : ℕ} (small : count < 2 ^ 53) :
    rounded? (count / 2 ^ 53) = some ((count : ℚ) / 2 ^ 53) := by
  have multiple : (count : ℚ) / 2 ^ 53 = (count : ℤ) * 2 ^ (-53 : ℤ) := by
    rw [zpow_neg, ← div_eq_mul_inv]
    rfl
  refine rounded?_of_digits multiple ?_ (by norm_num) (by norm_num)
  rw [abs_of_nonneg (by positivity), multiple, Int.cast_natCast]
  gcongr
  exact_mod_cast small

theorem exists_whole_rounded (large : 2 ^ 52 ≤ x) : ∃ whole : ℤ, rounded x = whole := by
  have positive : 0 < x := lt_of_lt_of_le (by norm_num) large
  have log := (Int.zpow_le_iff_le_log (b := 2) (x := 52) (by norm_num) positive).mp
    (by exact_mod_cast large)
  have coarse : 0 ≤ place x := by
    rw [place, abs_of_pos positive]
    omega
  refine ⟨halfEven (x / 2 ^ place x) * 2 ^ (place x).toNat, ?_⟩
  rw [Int.cast_mul, Int.cast_pow, Int.cast_ofNat, ← zpow_natCast, Int.toNat_of_nonneg coarse]
  rfl

theorem rounded_nonneg (nonneg : 0 ≤ x) : 0 ≤ rounded x := by
  have floor : 0 ≤ ⌊x / 2 ^ place x⌋ := Int.floor_nonneg.mpr (by positivity)
  have count : (0 : ℚ) ≤ halfEven (x / 2 ^ place x) := by
    exact_mod_cast floor.trans (floor_le_halfEven _)
  unfold rounded
  positivity

theorem halfEven_place_le (nonneg : 0 ≤ x) : halfEven (x / 2 ^ place x) ≤ 2 ^ 53 := by
  have small := abs_lt_of_place x
  rw [abs_of_nonneg nonneg, ← div_lt_iff₀ (by positivity)] at small
  have below := halfEven_mono small.le
  rwa [show (2 : ℚ) ^ 53 = (2 ^ 53 : ℤ) by norm_num, halfEven_intCast] at below

theorem le_halfEven_place (positive : 0 < x) (normal : -1074 < place x) :
    2 ^ 52 ≤ halfEven (x / 2 ^ place x) := by
  have full := le_abs_of_place positive.ne' normal
  rw [abs_of_pos positive, ← le_div_iff₀ (by positivity)] at full
  have above := halfEven_mono full
  rwa [show (2 : ℚ) ^ 52 = (2 ^ 52 : ℤ) by norm_num, halfEven_intCast] at above

theorem rounded_mono (nonneg : 0 ≤ x) (le : x ≤ y) : rounded x ≤ rounded y := by
  rcases nonneg.eq_or_lt with rfl | positive
  · rw [rounded_zero]
    exact rounded_nonneg le
  rcases (place_mono positive le).lt_or_eq with finer | same
  · -- A coarser grid starts where a finer one ends.
    have below := halfEven_place_le nonneg
    have above := le_halfEven_place (positive.trans_le le) (by unfold place at *; omega)
    calc
      rounded x ≤ (2 ^ 53 : ℤ) * 2 ^ place x := by
        unfold rounded
        gcongr
      _ ≤ (2 ^ 52 : ℤ) * 2 ^ place y := by
        rw [Int.cast_pow, Int.cast_pow, Int.cast_ofNat, pow_mul_zpow, pow_mul_zpow]
        apply zpow_le_zpow_right₀ (by norm_num)
        omega
      _ ≤ rounded y := by
        unfold rounded
        gcongr
  · unfold rounded
    rw [same]
    have counts := halfEven_mono (x := x / 2 ^ place y) (y := y / 2 ^ place y) (by gcongr)
    gcongr

theorem rounded?_below {small great limit : ℚ} (nonneg : 0 ≤ small) (le : small ≤ great)
    (found : rounded? great = some limit) :
    ∃ near, rounded? small = some near ∧ 0 ≤ near ∧ near ≤ limit := by
  have least := rounded_nonneg nonneg
  have order := rounded_mono nonneg le
  unfold rounded? at found ⊢
  rw [abs_of_nonneg (least.trans order)] at found
  rw [abs_of_nonneg least]
  split at found
  next bounded =>
    obtain rfl := Option.some.inj found
    exact ⟨_, if_pos (order.trans_lt bounded), least, order⟩
  next => cases found

theorem rounded_near (x : ℚ) : |rounded x - x| ≤ 2 ^ place x / 2 := by
  have near := halfEven_near (x / 2 ^ place x)
  have positive : (0 : ℚ) < 2 ^ place x := by positivity
  calc
    |rounded x - x| = |(halfEven (x / 2 ^ place x) - x / 2 ^ place x) * 2 ^ place x| := by
      rw [sub_mul, div_mul_cancel₀ x positive.ne', rounded]
    _ = |halfEven (x / 2 ^ place x) - x / 2 ^ place x| * 2 ^ place x := by
      rw [abs_mul, abs_of_pos positive]
    _ ≤ 1 / 2 * 2 ^ place x := by gcongr
    _ = 2 ^ place x / 2 := by ring

/-- The share of a number that rounding may miss it by. -/
def unit : ℚ :=
  1 / 2 ^ 53

/-- What rounding may miss the very smallest numbers by. -/
def dust : ℚ :=
  2 ^ (-1075 : ℤ)

theorem rounded_near_of_normal (nonzero : x ≠ 0) (normal : -1074 < place x) :
    |rounded x - x| ≤ unit * |x| := by
  have near := rounded_near x
  have full := le_abs_of_place nonzero normal
  unfold unit
  linarith

theorem rounded_error (x : ℚ) : |rounded x - x| ≤ unit * |x| + dust := by
  have positive : 0 ≤ unit * |x| := by unfold unit; positivity
  have positiveDust : 0 < dust := by unfold dust; positivity
  rcases eq_or_ne x 0 with rfl | nonzero
  · rw [rounded_zero, sub_zero, abs_zero]
    linarith [abs_zero (α := ℚ)]
  by_cases normal : -1074 < place x
  · linarith [rounded_near_of_normal nonzero normal]
  · have least : place x = -1074 := by unfold place at *; omega
    have near := rounded_near x
    rw [least] at near
    have half : (2 : ℚ) ^ (-1074 : ℤ) / 2 = dust := by
      rw [dust, show (-1075 : ℤ) = -1074 - 1 by norm_num, zpow_sub_one₀ (by norm_num)]
      rfl
    linarith

theorem rounded_error_of_multiple {count : ℤ} (multiple : x = count * 2 ^ (-1074 : ℤ)) :
    |rounded x - x| ≤ unit * |x| := by
  by_cases normal : -1074 < place x
  · rcases eq_or_ne x 0 with rfl | nonzero
    · simp [rounded_zero]
    · exact rounded_near_of_normal nonzero normal
  · rw [rounded_of_multiple multiple (by omega), sub_self, abs_zero]
    unfold unit
    positivity

end Places

end Decimal

end Authoring
