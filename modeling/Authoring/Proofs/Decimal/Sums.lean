import Mathlib
import Authoring.Proofs.Decimal.Estimates

/-! Sums of floats and of products of floats. A sum is finite only if all its parts are, it keeps
the order of its parts, and it is near the exact sum. -/

namespace Authoring

namespace Decimal

variable {a b : Float} {value : ℚ} {parts rest smaller greater weights factors : List Float}

def sumOf : List Float → Float
  | [] => 0
  | first :: rest => rest.foldl (· + ·) first

theorem exists_of_foldl (found : rational? (rest.foldl (· + ·) a) = some value) :
    (∃ start, rational? a = some start) ∧ ∀ part ∈ rest, ∃ exact, rational? part = some exact := by
  induction rest generalizing a with
  | nil => exact ⟨⟨value, found⟩, by simp⟩
  | cons first rest ih =>
      obtain ⟨⟨_, sum⟩, later⟩ := ih found
      obtain ⟨start, next⟩ := exists_of_add sum
      exact ⟨start, List.forall_mem_cons.mpr ⟨next, later⟩⟩

theorem exists_of_sumOf (found : rational? (sumOf parts) = some value) :
    ∀ part ∈ parts, ∃ exact, rational? part = some exact := by
  cases parts with
  | nil => simp
  | cons first rest => exact List.forall_mem_cons.mpr (exists_of_foldl found)

namespace AtMost

theorem foldl (alike : List.Forall₂ AtMost smaller greater) (first : AtMost a b)
    (found : rational? (greater.foldl (· + ·) b) = some value) :
    AtMost (smaller.foldl (· + ·) a) (greater.foldl (· + ·) b) := by
  induction alike generalizing a b with
  | nil => exact first
  | @cons _ right _ _ next _ ih =>
      obtain ⟨⟨_, sum⟩, -⟩ := exists_of_foldl (a := b + right) found
      exact ih (first.add next sum) found

theorem sumOf (alike : List.Forall₂ AtMost smaller greater)
    (found : rational? (sumOf greater) = some value) :
    AtMost (Decimal.sumOf smaller) (Decimal.sumOf greater) := by
  cases alike with
  | nil => exact .refl rational?_zero_literal le_rfl
  | cons first rest => exact first.foldl rest found

end AtMost

/-! Weighted sums -/

def products (weights factors : List Float) : List Float :=
  List.zipWith (· * ·) weights factors

theorem products_mono (weighs : ∀ weight ∈ weights, AtMost weight weight)
    (alike : List.Forall₂ AtMost smaller greater) (bounded : ∀ factor ∈ greater, AtMost factor 1) :
    List.Forall₂ AtMost (products weights smaller) (products weights greater) := by
  induction alike generalizing weights with
  | nil => simp [products]
  | cons first _ ih =>
      obtain ⟨bound, bounds⟩ := List.forall_mem_cons.mp bounded
      cases weights with
      | nil => simp [products]
      | cons weight weights =>
          obtain ⟨weighed, later⟩ := List.forall_mem_cons.mp weighs
          obtain ⟨_, -, product, -⟩ := weighed.mul_le bound
          exact .cons (weighed.mul first product) (ih later bounds)

theorem products_le (weighs : ∀ weight ∈ weights, AtMost weight weight)
    (bounded : ∀ factor ∈ factors, AtMost factor 1) (length : factors.length = weights.length) :
    List.Forall₂ AtMost (products weights factors) weights := by
  induction weights generalizing factors with
  | nil => simp [products]
  | cons weight weights ih =>
      obtain ⟨weighed, later⟩ := List.forall_mem_cons.mp weighs
      cases factors with
      | nil => simp at length
      | cons factor factors =>
          obtain ⟨bound, bounds⟩ := List.forall_mem_cons.mp bounded
          exact .cons (weighed.mul_le bound) (ih later bounds (Nat.succ.inj length))

/-! How near sums and products are to the exact ones -/

def exactly (x : Float) : ℚ :=
  (rational? x).getD 0

theorem exactly_eq (found : rational? a = some value) : exactly a = value := by
  rw [exactly, found, Option.getD_some]

theorem AtMost.exactly_nonneg (most : AtMost a b) : 0 ≤ exactly a := by
  obtain ⟨small, great, found, -, nonneg, -⟩ := most
  rwa [exactly_eq found]

theorem AtMost.rational_exactly (most : AtMost a b) : rational? a = some (exactly a) := by
  obtain ⟨small, great, found, -⟩ := most
  rw [exactly_eq found, found]

theorem AtMost.exactly_le_one (most : AtMost a 1) : exactly a ≤ 1 := by
  obtain ⟨small, one, found, oneFound, -, order⟩ := most
  obtain rfl := Option.some.inj (oneFound.symm.trans rational?_one)
  rwa [exactly_eq found]

theorem AtMost.self (most : AtMost a b) : AtMost a a :=
  .refl most.rational_exactly most.exactly_nonneg

theorem AtMost.each_self (alike : List.Forall₂ AtMost smaller greater) :
    ∀ part ∈ smaller, AtMost part part :=
  ((List.forall₂_and_left _ _).mp (alike.imp fun _ _ most => ⟨most.self, most⟩)).1

theorem exists_multiple (exact : rational? a = some value) :
    ∃ count : ℤ, value = count * 2 ^ (-1074 : ℤ) := by
  obtain ⟨number, found, rfl⟩ := Option.map_eq_some_iff.mp exact
  obtain ⟨shift, split⟩ := Int.le.dest (Dyadic.ofFloat?_fits found).least
  obtain ⟨count, multiple⟩ := number.exists_multiple
  refine ⟨count * 2 ^ shift, ?_⟩
  rw [multiple, Int.cast_mul, Int.cast_pow, Int.cast_ofNat, mul_assoc, pow_mul_zpow, add_comm,
    split]

theorem eq_rounded_of_rounds {exact near : ℚ} (rounds : rational? a = rounded? exact)
    (found : rational? a = some near) : near = rounded exact := by
  rw [rounds, rounded?] at found
  split at found
  · exact (Option.some.inj found).symm
  · cases found

theorem near_of_rounds {exact near : ℚ} (rounds : rational? a = rounded? exact)
    (found : rational? a = some near) (nonneg : 0 ≤ exact) :
    (1 - unit) * exact - dust ≤ near ∧ near ≤ (1 + unit) * exact + dust := by
  have error := rounded_error exact
  rw [← eq_rounded_of_rounds rounds found, abs_of_nonneg nonneg, abs_le] at error
  constructor <;> linarith

theorem add_near {total : ℚ} (first : AtMost a a) (second : AtMost b b)
    (found : rational? (a + b) = some total) :
    (1 - unit) * (exactly a + exactly b) ≤ total ∧
      total ≤ (1 + unit) * (exactly a + exactly b) := by
  have left := first.rational_exactly
  have right := second.rational_exactly
  obtain ⟨leftCount, leftMultiple⟩ := exists_multiple left
  obtain ⟨rightCount, rightMultiple⟩ := exists_multiple right
  have multiple : exactly a + exactly b = (leftCount + rightCount : ℤ) * 2 ^ (-1074 : ℤ) := by
    rw [leftMultiple, rightMultiple, Int.cast_add, add_mul]
  have error := rounded_error_of_multiple multiple
  rw [← eq_rounded_of_rounds (rational?_add left right) found,
    abs_of_nonneg (add_nonneg first.exactly_nonneg second.exactly_nonneg), abs_le] at error
  constructor <;> linarith

theorem unit_pos : 0 < unit := by
  norm_num [unit]

theorem unit_lt_one : unit < 1 := by
  norm_num [unit]

theorem sum_nonneg (nonneg : ∀ part ∈ parts, AtMost part part) : 0 ≤ (parts.map exactly).sum := by
  apply List.sum_nonneg
  intro exact member
  obtain ⟨part, listed, rfl⟩ := List.mem_map.mp member
  exact (nonneg part listed).exactly_nonneg

theorem foldl_near {total : ℚ} (parts : ∀ part ∈ rest, AtMost part part) (first : AtMost a a)
    (found : rational? (rest.foldl (· + ·) a) = some total) :
    (1 - unit) ^ rest.length * (exactly a + (rest.map exactly).sum) ≤ total ∧
      total ≤ (1 + unit) ^ rest.length * (exactly a + (rest.map exactly).sum) := by
  induction rest generalizing a with
  | nil =>
      have same : exactly a = total := exactly_eq found
      simp [same]
  | cons part rest ih =>
      obtain ⟨next, later⟩ := List.forall_mem_cons.mp parts
      obtain ⟨⟨sum, added⟩, -⟩ := exists_of_foldl (a := a + part) found
      -- Every step errs by a share of what is added so far; the later parts are not negative.
      obtain ⟨lower, upper⟩ := add_near first next added
      have started := first.add next added
      obtain ⟨below, above⟩ := ih later started found
      have positive := unit_pos
      have sums := sum_nonneg later
      have least : 0 ≤ (1 - unit) ^ rest.length := pow_nonneg (by linarith [unit_lt_one]) _
      rw [exactly_eq added] at below above
      rw [List.length_cons, List.map_cons, List.sum_cons, pow_succ, pow_succ]
      constructor
      · calc
          (1 - unit) ^ rest.length * (1 - unit) *
              (exactly a + (exactly part + (rest.map exactly).sum)) =
              (1 - unit) ^ rest.length * ((1 - unit) * (exactly a + exactly part) +
                (1 - unit) * (rest.map exactly).sum) := by ring
          _ ≤ (1 - unit) ^ rest.length * (sum + (rest.map exactly).sum) := by
            gcongr
            nlinarith
          _ ≤ total := below
      · calc
          total ≤ (1 + unit) ^ rest.length * (sum + (rest.map exactly).sum) := above
          _ ≤ (1 + unit) ^ rest.length * ((1 + unit) * (exactly a + exactly part) +
              (1 + unit) * (rest.map exactly).sum) := by
            gcongr
            nlinarith
          _ = (1 + unit) ^ rest.length * (1 + unit) *
              (exactly a + (exactly part + (rest.map exactly).sum)) := by ring

theorem sumOf_near {total : ℚ} (nonneg : ∀ part ∈ parts, AtMost part part)
    (found : rational? (sumOf parts) = some total) :
    (1 - unit) ^ (parts.length - 1) * (parts.map exactly).sum ≤ total ∧
      total ≤ (1 + unit) ^ (parts.length - 1) * (parts.map exactly).sum := by
  cases parts with
  | nil =>
      obtain rfl := Option.some.inj (found.symm.trans rational?_zero_literal)
      simp
  | cons first rest =>
      obtain ⟨start, later⟩ := List.forall_mem_cons.mp nonneg
      exact foldl_near later start found

theorem products_near {low high : ℚ} (weighs : ∀ weight ∈ weights, AtMost weight weight)
    (between : ∀ factor ∈ factors, AtMost factor 1 ∧ low ≤ exactly factor ∧ exactly factor ≤ high)
    (length : factors.length = weights.length) :
    (1 - unit) * low * (weights.map exactly).sum - weights.length * dust ≤
        ((products weights factors).map exactly).sum ∧
      ((products weights factors).map exactly).sum ≤
        (1 + unit) * high * (weights.map exactly).sum + weights.length * dust := by
  induction weights generalizing factors with
  | nil => simp [products]
  | cons weight weights ih =>
      obtain ⟨weighed, later⟩ := List.forall_mem_cons.mp weighs
      cases factors with
      | nil => simp at length
      | cons factor factors =>
          obtain ⟨⟨bound, least, most⟩, bounds⟩ := List.forall_mem_cons.mp between
          obtain ⟨lower, upper⟩ := ih later bounds (Nat.succ.inj length)
          have heavy := weighed.exactly_nonneg
          obtain ⟨below, above⟩ := near_of_rounds
            (rational?_mul weighed.rational_exactly bound.rational_exactly)
            (weighed.mul_le bound).rational_exactly (mul_nonneg heavy bound.exactly_nonneg)
          have positive := unit_pos
          have small := unit_lt_one
          have bottom : (1 - unit) * low * exactly weight ≤
              (1 - unit) * (exactly weight * exactly factor) := by
            rw [mul_assoc, mul_comm low]
            gcongr
          have top : (1 + unit) * (exactly weight * exactly factor) ≤
              (1 + unit) * high * exactly weight := by
            rw [mul_assoc, mul_comm high]
            gcongr
          change _ ≤ exactly (weight * factor) + ((products weights factors).map exactly).sum ∧
            exactly (weight * factor) + ((products weights factors).map exactly).sum ≤ _
          rw [List.map_cons, List.sum_cons, List.length_cons]
          push_cast
          constructor <;> linarith

end Decimal

end Authoring
