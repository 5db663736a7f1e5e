import Mathlib
import Authoring.Proofs.Outcomes
import Authoring.Proofs.Score.Weights
import Authoring.Settings

/-! Weighted means of components. Weights that are not negative make the score a mean, but for the
rounding of sums, products and quotients; settings are accepted for the total of the weights alone,
so weights with a negative one among them take the score out of the range of the components. -/

namespace Authoring

open Decimal

namespace Score

/-! The room that rounding takes -/

/-- How far rounding may take a weighted mean out of the range of what it is the mean of. The second
part counts only when the total of the weights is near the smallest floats. -/
def slack (total : ℚ) : ℚ :=
  16 * unit + 8 * dust / total

theorem slack_nonneg {total : ℚ} (positive : 0 < total) : 0 ≤ slack total := by
  unfold slack unit dust
  positivity

theorem dust_pos : 0 < dust := by
  unfold dust
  positivity

theorem two_mul_dust_le_unit : 2 * dust ≤ unit := by
  have fine : dust ≤ 2 ^ (-54 : ℤ) := zpow_le_zpow_right₀ (by norm_num) (by norm_num)
  have half : 2 * (2 : ℚ) ^ (-54 : ℤ) = unit := by norm_num [unit]
  linarith

variable {low high exact parts sum total quotient percent : ℚ}

theorem sum_le (nonneg : 0 ≤ high) (exactNonneg : 0 ≤ exact)
    (products : parts ≤ (1 + unit) * high * exact + 6 * dust)
    (added : sum ≤ (1 + unit) ^ 5 * parts) (totaled : (1 - unit) ^ 5 * exact ≤ total) :
    sum ≤ (1 + 12 * unit) * high * total + 7 * dust := by
  have positive := unit_pos
  have fine := dust_pos
  have powers : (1 + unit) ^ 6 ≤ (1 + 12 * unit) * (1 - unit) ^ 5 := by norm_num [unit]
  have sixfold : (1 + unit) ^ 5 * 6 ≤ 7 := by norm_num [unit]
  calc
    sum ≤ (1 + unit) ^ 5 * parts := added
    _ ≤ (1 + unit) ^ 5 * ((1 + unit) * high * exact + 6 * dust) := by gcongr
    _ = (1 + unit) ^ 6 * (high * exact) + (1 + unit) ^ 5 * 6 * dust := by ring
    _ ≤ (1 + 12 * unit) * (1 - unit) ^ 5 * (high * exact) + 7 * dust := by gcongr
    _ = (1 + 12 * unit) * high * ((1 - unit) ^ 5 * exact) + 7 * dust := by ring
    _ ≤ (1 + 12 * unit) * high * total + 7 * dust := by gcongr

theorem le_sum (nonneg : 0 ≤ low) (exactNonneg : 0 ≤ exact)
    (products : (1 - unit) * low * exact - 6 * dust ≤ parts)
    (added : (1 - unit) ^ 5 * parts ≤ sum) (totaled : total ≤ (1 + unit) ^ 5 * exact) :
    (1 - 12 * unit) * low * total - 6 * dust ≤ sum := by
  have fine := dust_pos
  have most : 0 ≤ 1 - 12 * unit := by norm_num [unit]
  have rest : 0 ≤ 1 - unit := by norm_num [unit]
  have powers : (1 - 12 * unit) * (1 + unit) ^ 5 ≤ (1 - unit) ^ 6 := by norm_num [unit]
  have part : (1 - unit) ^ 5 * (6 * dust) ≤ 6 * dust :=
    mul_le_of_le_one_left (by linarith) (pow_le_one₀ rest (by linarith [unit_pos]))
  calc
    (1 - 12 * unit) * low * total - 6 * dust ≤
        (1 - 12 * unit) * low * ((1 + unit) ^ 5 * exact) - 6 * dust := by gcongr
    _ = (1 - 12 * unit) * (1 + unit) ^ 5 * (low * exact) - 6 * dust := by ring
    _ ≤ (1 - unit) ^ 6 * (low * exact) - (1 - unit) ^ 5 * (6 * dust) := by gcongr
    _ = (1 - unit) ^ 5 * ((1 - unit) * low * exact - 6 * dust) := by ring
    _ ≤ (1 - unit) ^ 5 * parts := by gcongr
    _ ≤ sum := added

theorem percent_le (nonneg : 0 ≤ high) (bounded : high ≤ 1) (positive : 0 < total)
    (summed : sum ≤ (1 + 12 * unit) * high * total + 7 * dust)
    (divided : quotient ≤ (1 + unit) * (sum / total) + dust)
    (scaled : percent ≤ (1 + unit) * (quotient * 100) + dust) :
    percent ≤ 100 * (high + slack total) := by
  have small := unit_pos
  have fine := dust_pos
  have finest := two_mul_dust_le_unit
  have share : 0 ≤ dust / total := by positivity
  have mean : sum / total ≤ (1 + 12 * unit) * high + 7 * (dust / total) := by
    rw [div_le_iff₀ positive, add_mul, mul_assoc 7, div_mul_cancel₀ _ positive.ne']
    exact summed
  have growth : (1 + unit) ^ 2 * (1 + 12 * unit) ≤ 1 + 15 * unit := by norm_num [unit]
  have sevenfold : (1 + unit) ^ 2 * 7 ≤ 8 := by norm_num [unit]
  have hundredfold : 100 * (1 + unit) + 1 ≤ 200 := by norm_num [unit]
  have part : unit * high ≤ unit := mul_le_of_le_one_right small.le bounded
  calc
    percent ≤ (1 + unit) * (((1 + unit) * ((1 + 12 * unit) * high + 7 * (dust / total)) + dust) *
        100) + dust := by
      refine scaled.trans ?_
      gcongr
      refine divided.trans ?_
      gcongr
    _ = 100 * ((1 + unit) ^ 2 * (1 + 12 * unit) * high + (1 + unit) ^ 2 * 7 * (dust / total)) +
        (100 * (1 + unit) + 1) * dust := by ring
    _ ≤ 100 * ((1 + 15 * unit) * high + 8 * (dust / total)) + 200 * dust := by gcongr
    _ ≤ 100 * (high + slack total) := by
      rw [slack, mul_div_assoc]
      linarith

theorem le_percent (nonneg : 0 ≤ low) (bounded : low ≤ 1) (positive : 0 < total)
    (summed : (1 - 12 * unit) * low * total - 6 * dust ≤ sum)
    (divided : (1 - unit) * (sum / total) - dust ≤ quotient)
    (scaled : (1 - unit) * (quotient * 100) - dust ≤ percent) :
    100 * (low - slack total) ≤ percent := by
  have small := unit_pos
  have fine := dust_pos
  have finest := two_mul_dust_le_unit
  have share : 0 ≤ dust / total := by positivity
  have mean : (1 - 12 * unit) * low - 6 * (dust / total) ≤ sum / total := by
    rw [le_div_iff₀ positive, sub_mul, mul_assoc 6, div_mul_cancel₀ _ positive.ne']
    exact summed
  have rest : 0 ≤ 1 - unit := by norm_num [unit]
  have growth : 1 - 15 * unit ≤ (1 - unit) ^ 2 * (1 - 12 * unit) := by norm_num [unit]
  have sixfold : (1 - unit) ^ 2 * 6 ≤ 8 := by norm_num [unit]
  have hundredfold : 100 * (1 - unit) + 1 ≤ 200 := by norm_num [unit]
  have part : unit * low ≤ unit := mul_le_of_le_one_right small.le bounded
  calc
    100 * (low - slack total) ≤
        100 * ((1 - 15 * unit) * low - 8 * (dust / total)) - 200 * dust := by
      rw [slack, mul_div_assoc]
      linarith
    _ ≤ 100 * ((1 - unit) ^ 2 * (1 - 12 * unit) * low - (1 - unit) ^ 2 * 6 * (dust / total)) -
        (100 * (1 - unit) + 1) * dust := by gcongr
    _ = (1 - unit) * (((1 - unit) * ((1 - 12 * unit) * low - 6 * (dust / total)) - dust) *
        100) - dust := by ring
    _ ≤ percent := by
      refine le_trans ?_ scaled
      gcongr
      refine le_trans ?_ divided
      gcongr

end Score

theorem PerComponent.Weighs.percent_between {weights components : PerComponent}
    (weighs : weights.Weighs) {low high : ℚ}
    (between : ∀ component ∈ components.toList,
      AtMost component 1 ∧ low ≤ exactly component ∧ exactly component ≤ high)
    (lowNonneg : 0 ≤ low) (highBounded : high ≤ 1) :
    ∃ percent, rational? (components.weightedMean weights * 100) = some percent ∧ 0 ≤ percent ∧
      100 * (low - Score.slack (exactly weights.total)) ≤ percent ∧
      percent ≤ 100 * (high + Score.slack (exactly weights.total)) := by
  have bounded : ∀ component ∈ components.toList, AtMost component 1 := fun component member =>
    (between component member).1
  have most := weighs.sum_le_total bounded
  have mean := weighs.weightedMean_le_one bounded
  have percent := mean.self.hundredfold mean
  obtain ⟨part, least, greatest⟩ := between components.goalMatch List.mem_cons_self
  have nonneg : 0 ≤ high := part.exactly_nonneg.trans greatest
  have lowBounded : low ≤ 1 := (least.trans greatest).trans highBounded
  have exact := sum_nonneg weighs.each
  rw [weighs.weightedMean_eq] at mean percent ⊢
  obtain ⟨totaled, positive⟩ := weighs.total_exactly
  have summed := totaled
  rw [total_eq_sumOf] at summed
  obtain ⟨sumLower, sumUpper⟩ := sumOf_near
    (AtMost.each_self (products_le weighs.each bounded rfl)) most.rational_exactly
  obtain ⟨totalLower, totalUpper⟩ := sumOf_near weighs.each summed
  obtain ⟨productsLower, productsUpper⟩ := products_near weighs.each between rfl
  obtain ⟨quotientLower, quotientUpper⟩ := near_of_rounds
    (rational?_div most.rational_exactly totaled positive.ne') mean.rational_exactly
    (div_nonneg most.exactly_nonneg positive.le)
  have hundred := rational?_ofNat (by norm_num : 100 < 2 ^ 53)
  obtain ⟨percentLower, percentUpper⟩ := near_of_rounds
    (rational?_mul mean.rational_exactly hundred) percent.rational_exactly
    (mul_nonneg mean.exactly_nonneg (Nat.cast_nonneg _))
  refine ⟨_, percent.rational_exactly, percent.exactly_nonneg, ?_, ?_⟩
  · have below := Score.le_sum lowNonneg exact productsLower sumLower totalUpper
    exact Score.le_percent lowNonneg lowBounded positive below quotientLower percentLower
  · have above := Score.sum_le nonneg exact productsUpper sumUpper totalLower
    exact Score.percent_le nonneg highBounded positive above quotientUpper percentUpper

/-! Accepted settings -/

namespace Settings

def Accepted (settings : Settings) : Prop :=
  (∃ lookup, ofVariables lookup = .ok settings) ∨ ∃ text, ofText text = .ok settings

variable {settings accepted : Settings}

theorem validated_cases (validated : settings.validated = .ok accepted) :
    accepted = settings ∧ settings.scoring.total.isFinite = true ∧ 0 < settings.scoring.total := by
  unfold Settings.validated at validated
  split at validated
  · cases validated
  · split at validated
    next sound =>
      obtain ⟨finite, positive⟩ := Bool.and_eq_true_iff.mp sound
      cases validated
      exact ⟨rfl, finite, of_decide_eq_true positive⟩
    next => cases validated

theorem Accepted.total (accepts : settings.Accepted) :
    settings.scoring.total.isFinite = true ∧ 0 < settings.scoring.total := by
  have accepted : ∃ read : Settings, read.validated = .ok settings := by
    rcases accepts with ⟨lookup, done⟩ | ⟨text, done⟩
    · simp only [ofVariables, bind_eq_ok_iff] at done
      obtain ⟨_, -, _, -, _, -, _, -, validated⟩ := done
      exact ⟨_, validated⟩
    · unfold ofText ofDocument at done
      split at done
      · cases done
      next read _ =>
        cases validated : read.validated with
        | ok other =>
            rw [validated] at done
            cases done
            exact ⟨read, validated⟩
        | error refusal =>
            rw [validated] at done
            cases done
  obtain ⟨read, validated⟩ := accepted
  obtain ⟨rfl, sound⟩ := validated_cases validated
  exact sound

theorem Accepted.weighs (accepts : settings.Accepted)
    (nonneg : ∀ weight ∈ settings.scoring.toList, 0 ≤ weight) : settings.scoring.Weighs :=
  ⟨nonneg, accepts.total.1, accepts.total.2⟩

end Settings

namespace Score

/-- The score is no less than the smallest component and no more than the largest one, each as a
rounded percentage. -/
def InRange (weights : PerComponent) (graph : Graph) : Prop :=
  (∃ component ∈ (components graph).toList,
    toPercent (component * 100) ≤ (score weights graph).score) ∧
  ∃ component ∈ (components graph).toList,
    (score weights graph).score ≤ toPercent (component * 100)

instance (weights : PerComponent) (graph : Graph) : Decidable (InRange weights graph) :=
  inferInstanceAs (Decidable (_ ∧ _))

def weighing (weights : PerComponent) : Settings :=
  { Settings.default with scoring := weights }

def weightsIn (text name : String) : Option String :=
  if name = Settings.weightsVariable then some text else none

def sampleFlaws : Graph where
  nodes := [⟨"c", .constraint, "", []⟩, ⟨"t", .test, "", []⟩, ⟨"d", .deliverable, "", []⟩]
  edges := [⟨"c", "x", .requires⟩]
  schema := none

def sampleTests : Graph where
  nodes := List.replicate 3 ⟨"t", .test, "", [("pass", .bool true)]⟩ ++
    List.replicate 5 ⟨"t", .test, "", []⟩
  edges := []
  schema := none

/-- A negative weight takes the score out of the range of the components, and so does rounding: when
it makes one of the smallest floats of a product, or a percentage fall below a half. -/
theorem accepted_out_of_range :
    (∃ settings, Settings.ofVariables (weightsIn "2,0,0,0,0,-1") = .ok settings ∧
      ¬InRange settings.scoring .empty) ∧
    (∃ settings, Settings.ofVariables (weightsIn "5e-324,0,0,0,0,0") = .ok settings ∧
      ¬InRange settings.scoring sampleFlaws) ∧
    ∃ settings, Settings.ofVariables (weightsIn "0,0,0.7,0,0,0") = .ok settings ∧
      ¬InRange settings.scoring sampleTests := by
  refine ⟨⟨weighing ⟨2, 0, 0, 0, 0, -1⟩, ?_⟩, ⟨weighing ⟨5e-324, 0, 0, 0, 0, 0⟩, ?_⟩,
    ⟨weighing ⟨0, 0, 0.7, 0, 0, 0⟩, ?_⟩⟩ <;> decide +kernel

/-- The score is no less than the smallest component and no more than the largest one, each as a
rounded percentage, when rounding is given room. -/
def NearRange (weights : PerComponent) (graph : Graph) : Prop :=
  ∃ smallest ∈ (components graph).toList, ∃ largest ∈ (components graph).toList,
    (∀ component ∈ (components graph).toList, smallest ≤ component ∧ component ≤ largest) ∧
    ∃ low high total : ℚ, rational? smallest = some low ∧ rational? largest = some high ∧
      rational? weights.total = some total ∧ 0 < total ∧
      ⌊100 * (low - slack total) + 1 / 2⌋ ≤ (score weights graph).score.toNat ∧
      (score weights graph).score.toNat ≤ ⌊100 * (high + slack total) + 1 / 2⌋

theorem score_near_range {settings : Settings} (accepts : settings.Accepted)
    (nonneg : ∀ weight ∈ settings.scoring.toList, 0 ≤ weight) {graph : Graph}
    (nodes : graph.nodes.length < 2 ^ 64) (edges : graph.edges.length < 2 ^ 64) :
    NearRange settings.scoring graph := by
  have weighs := accepts.weighs nonneg
  have bounded := components_le_one nodes edges
  obtain ⟨totaled, positive⟩ := weighs.total_exactly
  have finite := (components graph).toList.finite_toSet
  obtain ⟨smallest, smallestMember, least⟩ := Set.exists_min_image _ exactly finite
    ⟨_, List.mem_cons_self⟩
  obtain ⟨largest, largestMember, greatest⟩ := Set.exists_max_image _ exactly finite
    ⟨_, List.mem_cons_self⟩
  have low := bounded smallest smallestMember
  have high := bounded largest largestMember
  refine ⟨smallest, smallestMember, largest, largestMember, ?_, _, _, _, low.rational_exactly,
    high.rational_exactly, totaled, positive, ?_⟩
  · intro component member
    have found := (bounded component member).rational_exactly
    rw [le_iff low.rational_exactly found, le_iff found high.rational_exactly]
    exact ⟨least component member, greatest component member⟩
  · have between : ∀ component ∈ (components graph).toList, AtMost component 1 ∧
        exactly smallest ≤ exactly component ∧ exactly component ≤ exactly largest :=
      fun component member =>
        ⟨bounded component member, least component member, greatest component member⟩
    obtain ⟨percent, found, percentNonneg, lower, upper⟩ :=
      weighs.percent_between between low.exactly_nonneg high.exactly_le_one
    have percentage := toPercent_eq found percentNonneg
    have below := Int.floor_mono (add_le_add_left lower (1 / 2))
    have above := Int.floor_mono (add_le_add_left upper (1 / 2))
    have hundred : ⌊100 * (exactly smallest - slack (exactly settings.scoring.total)) + 1 / 2⌋ ≤
        100 := by
      rw [← Int.lt_add_one_iff, Int.floor_lt]
      push_cast
      linarith [low.exactly_le_one, slack_nonneg positive]
    change _ ≤ ((toPercent _).toNat : ℤ) ∧ ((toPercent _).toNat : ℤ) ≤ _
    rw [percentage]
    omega

theorem score_near_range_of_sampleTests :
    (weighing ⟨0, 0, 0.7, 0, 0, 0⟩).Accepted ∧
      (∀ weight ∈ (weighing ⟨0, 0, 0.7, 0, 0, 0⟩).scoring.toList, 0 ≤ weight) ∧
      sampleTests.nodes.length < 2 ^ 64 ∧ sampleTests.edges.length < 2 ^ 64 ∧
      NearRange (weighing ⟨0, 0, 0.7, 0, 0, 0⟩).scoring sampleTests := by
  have accepts : (weighing ⟨0, 0, 0.7, 0, 0, 0⟩).Accepted :=
    .inl ⟨weightsIn "0,0,0.7,0,0,0", by decide +kernel⟩
  have nonneg : ∀ weight ∈ (weighing ⟨0, 0, 0.7, 0, 0, 0⟩).scoring.toList, 0 ≤ weight := by
    decide +kernel
  have nodes : sampleTests.nodes.length < 2 ^ 64 := by decide
  have edges : sampleTests.edges.length < 2 ^ 64 := by decide
  exact ⟨accepts, nonneg, nodes, edges, score_near_range accepts nonneg nodes edges⟩

end Score

end Authoring
