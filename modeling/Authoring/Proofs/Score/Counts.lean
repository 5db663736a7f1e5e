import Mathlib
import Authoring.Proofs.Decimal.Sums
import Authoring.Score.Basic

/-! The counts behind a score. A share is a float from 0 to 1 as long as a machine word can count
the whole, as it does for every list in memory. When floats hold the counts exactly, a share is 1
only if nothing is missing. -/

namespace Authoring

open Decimal

def Node.passes (node : Node) (key : String) (expected : Bool) : Bool :=
  match (node.get? key).bind Value.bool? with
  | some value => value == expected
  | none => false

theorem Node.passes_iff {node : Node} {key : String} {expected : Bool} :
    node.passes key expected = true ↔ node.get? key = some (.bool expected) := by
  unfold Node.passes
  rcases node.get? key with _ | value
  · simp
  · cases value <;> simp [Value.bool?]

namespace Graph

variable {graph : Graph} {type : NodeType}

theorem hasNode_iff {id : String} :
    graph.hasNode id = true ↔ ∃ node ∈ graph.nodes, node.id = id := by
  simp [hasNode]

theorem hasNode_of_mem (graph : Graph) {node : Node} (member : node ∈ graph.nodes) :
    graph.hasNode node.id = true :=
  hasNode_iff.mpr ⟨node, member, rfl⟩

theorem mem_nodesOf {node : Node} :
    node ∈ graph.nodesOf type ↔ node ∈ graph.nodes ∧ node.type = type := by
  simp [nodesOf]

def passing (graph : Graph) (type : NodeType) (key : String) (expected : Bool) : ℕ :=
  (graph.nodesOf type).countP fun node => node.passes key expected

theorem nodesOf_length : (graph.nodesOf type).length =
    graph.nodes.countP fun node => node.type == type :=
  List.countP_eq_length_filter.symm

theorem passing_eq {key : String} {expected : Bool} : graph.passing type key expected =
    graph.nodes.countP fun node => node.passes key expected && node.type == type :=
  List.countP_filter

theorem danglingEdges_length : graph.danglingEdges.length = graph.edges.countP graph.isDangling :=
  List.countP_eq_length_filter.symm

theorem edgesOf_length {type : EdgeType} : (graph.edgesOf type).length =
    graph.edges.countP fun edge => edge.type == type :=
  List.countP_eq_length_filter.symm

theorem nodesOf_length_le (graph : Graph) (type : NodeType) :
    (graph.nodesOf type).length ≤ graph.nodes.length :=
  List.length_filter_le _ _

theorem danglingEdges_length_le (graph : Graph) :
    graph.danglingEdges.length ≤ graph.edges.length :=
  List.length_filter_le _ _

end Graph

namespace Score

def share (part whole : ℕ) : Float :=
  Float.ofNat part / Float.ofNat whole

theorem passRatio_eq (nodes : List Node) (key : String) (expected : Bool) :
    passRatio nodes key expected = if nodes.length = 0 then 1
      else share (nodes.countP fun node => node.passes key expected) nodes.length := by
  simp only [← List.isEmpty_iff_length_eq_zero]
  rfl

theorem structureCompleteness_eq (graph : Graph) :
    structureCompleteness graph = if graph.edges.length = 0 then 1
      else 1 - share graph.danglingEdges.length graph.edges.length := by
  simp only [← List.isEmpty_iff_length_eq_zero]
  rfl

theorem ofNat_atMost {small great : ℕ} (le : small ≤ great) (counted : great < 2 ^ 64) :
    AtMost (Float.ofNat small) (Float.ofNat great) := by
  obtain ⟨near, found, -⟩ := exists_near_ofNat (by omega : great < 2 ^ 65)
  exact .of_rounded (rational?_ofNat_rounded small) (rational?_ofNat_rounded great)
    (Nat.cast_nonneg _) (by exact_mod_cast le) found

theorem ofNat_ne_zero {count : ℕ} (positive : 0 < count) (counted : count < 2 ^ 64) :
    rational? (Float.ofNat count) ≠ some 0 := by
  obtain ⟨near, found, close⟩ := exists_near_ofNat (by omega : count < 2 ^ 65)
  rw [found]
  intro zero
  have none : near = 0 := by exact_mod_cast Option.some.inj zero
  omega

section Shares

variable {part whole lesser smaller : ℕ}

theorem share_le_one (fits : part ≤ whole) (positive : 0 < whole) (counted : whole < 2 ^ 64) :
    AtMost (share part whole) 1 :=
  (ofNat_atMost fits counted).div_le_one (ofNat_ne_zero positive counted)

theorem share_mono (parts : lesser ≤ part) (wholes : smaller ≤ whole) (fits : part ≤ smaller)
    (positive : 0 < smaller) (counted : whole < 2 ^ 64) :
    AtMost (share lesser whole) (share part smaller) := by
  have below : smaller < 2 ^ 64 := by omega
  exact (ofNat_atMost parts (by omega)).div (ofNat_atMost wholes counted)
    (ofNat_atMost fits below) (ofNat_ne_zero positive below)

theorem rational?_share_zero (positive : 0 < whole) (counted : whole < 2 ^ 64) :
    rational? (share 0 whole) = some 0 := by
  have nothing := rational?_ofNat (by norm_num : 0 < 2 ^ 53)
  obtain ⟨near, found, -⟩ := exists_near_ofNat (by omega : whole < 2 ^ 65)
  have nonzero : (near : ℚ) ≠ 0 := by
    intro zero
    exact ofNat_ne_zero positive counted (found.trans (congrArg some zero))
  rw [share, rational?_div nothing found nonzero, Nat.cast_zero, zero_div, rounded?_zero]

theorem rational?_one_sub_share_zero (positive : 0 < whole) (counted : whole < 2 ^ 64) :
    rational? (1 - share 0 whole) = some 1 := by
  rw [rational?_sub rational?_one (rational?_share_zero positive counted), sub_zero,
    rounded?_of_rational rational?_one]

/-! Shares of numbers that floats hold exactly -/

theorem rounded?_unit : rounded? unit = some unit := by
  have exact := rounded?_fraction (by norm_num : 1 < 2 ^ 53)
  rwa [Nat.cast_one] at exact

theorem rounded?_one_sub_unit : rounded? (1 - unit) = some (1 - unit) := by
  have exact := rounded?_fraction (by norm_num : 2 ^ 53 - 1 < 2 ^ 53)
  have same : ((2 ^ 53 - 1 : ℕ) : ℚ) / 2 ^ 53 = 1 - unit := by norm_num [unit]
  rwa [same] at exact

theorem share_rounds (positive : 0 < whole) (fits : part ≤ whole) (few : whole < 2 ^ 53) :
    rational? (share part whole) = rounded? (part / whole) := by
  have nonzero : (whole : ℚ) ≠ 0 := by exact_mod_cast positive.ne'
  exact rational?_div (rational?_ofNat (by omega)) (rational?_ofNat few) nonzero

theorem unit_le_one_div (positive : 0 < whole) (few : whole < 2 ^ 53) : unit ≤ 1 / (whole : ℚ) := by
  unfold unit
  gcongr
  exact_mod_cast few.le

theorem share_lt_one_iff (fits : part ≤ whole) (positive : 0 < whole) (few : whole < 2 ^ 53) :
    share part whole < 1 ↔ part < whole := by
  have rounds := share_rounds positive fits few
  have divided : (0 : ℚ) < whole := by exact_mod_cast positive
  rcases fits.lt_or_eq with less | rfl
  · have most : (part : ℚ) / whole ≤ 1 - unit := by
      have step : (part : ℚ) + 1 ≤ whole := by exact_mod_cast less
      have least := unit_le_one_div positive few
      calc
        (part : ℚ) / whole ≤ (whole - 1) / whole := by
          gcongr
          linarith
        _ = 1 - 1 / whole := by
          rw [sub_div, div_self divided.ne']
        _ ≤ 1 - unit := by linarith
    obtain ⟨near, found, -, order⟩ := rounded?_below (by positivity) most rounded?_one_sub_unit
    rw [lt_iff (rounds.trans found) rational?_one]
    have positive := unit_pos
    exact iff_of_true (by linarith) less
  · rw [div_self divided.ne', rounded?_of_rational rational?_one] at rounds
    rw [lt_iff rounds rational?_one]
    simp

theorem one_sub_share_lt_one_iff (fits : part ≤ whole) (positive : 0 < whole)
    (few : whole < 2 ^ 53) : 1 - share part whole < 1 ↔ 0 < part := by
  rcases part.eq_zero_or_pos with rfl | some
  · rw [lt_iff (rational?_one_sub_share_zero positive (by omega)) rational?_one]
    simp
  · have rounds := share_rounds positive fits few
    have least : unit ≤ part / (whole : ℚ) := by
      have step : (1 : ℚ) ≤ part := by exact_mod_cast some
      refine (unit_le_one_div positive few).trans ?_
      gcongr
    obtain ⟨near, one, found, oneFound, -, order⟩ :=
      share_le_one fits positive (by omega : whole < 2 ^ 64)
    obtain rfl := Option.some.inj (oneFound.symm.trans rational?_one)
    obtain ⟨bottom, same, -, least⟩ := rounded?_below unit_pos.le least (rounds.symm.trans found)
    obtain rfl := Option.some.inj (same.symm.trans rounded?_unit)
    obtain ⟨rest, left, -, most⟩ := rounded?_below (sub_nonneg.mpr order)
      (sub_le_sub_left least 1) rounded?_one_sub_unit
    rw [lt_iff ((rational?_sub rational?_one found).trans left) rational?_one]
    exact iff_of_true (by linarith [unit_pos]) some

end Shares

/-! Components -/

variable {nodes left right : List Node} {key : String} {expected : Bool}
variable {graph before after : Graph}

theorem passRatio_le_one (counted : nodes.length < 2 ^ 64) :
    AtMost (passRatio nodes key expected) 1 := by
  rw [passRatio_eq]
  split
  · exact .refl rational?_one zero_le_one
  · exact share_le_one List.countP_le_length (by omega) counted

theorem structureCompleteness_le_one (counted : graph.edges.length < 2 ^ 64) :
    AtMost (structureCompleteness graph) 1 := by
  rw [structureCompleteness_eq]
  split
  · exact .refl rational?_one zero_le_one
  · exact (share_le_one graph.danglingEdges_length_le (by omega) counted).one_sub_le

theorem passRatio_mono (same : left.length = right.length)
    (more : left.countP (fun node => node.passes key expected) ≤
      right.countP fun node => node.passes key expected)
    (counted : right.length < 2 ^ 64) :
    AtMost (passRatio left key expected) (passRatio right key expected) := by
  rw [passRatio_eq, passRatio_eq, same]
  split
  · exact .refl rational?_one zero_le_one
  · exact share_mono more le_rfl List.countP_le_length (by omega) counted

theorem structureCompleteness_mono
    (fewer : after.danglingEdges.length ≤ before.danglingEdges.length)
    (more : before.edges.length ≤ after.edges.length) (counted : after.edges.length < 2 ^ 64) :
    AtMost (structureCompleteness before) (structureCompleteness after) := by
  have part := before.danglingEdges_length_le
  rw [structureCompleteness_eq before, structureCompleteness_eq after]
  by_cases none : before.edges.length = 0
  · -- Where there were no edges, those that have come since do not dangle.
    have zero : after.danglingEdges.length = 0 := by omega
    rw [if_pos none, zero]
    split
    · exact .refl rational?_one zero_le_one
    · have whole := rational?_one_sub_share_zero (by omega) counted
      exact ⟨1, 1, rational?_one, whole, zero_le_one, le_rfl⟩
  · have positive : 0 < before.edges.length := by omega
    rw [if_neg none, if_neg (by omega)]
    exact (share_mono fewer more part positive counted).one_sub
      (share_le_one part positive (by omega))

theorem passRatio_lt_one_iff (few : nodes.length < 2 ^ 53) :
    passRatio nodes key expected < 1 ↔ ∃ node ∈ nodes, node.get? key ≠ some (.bool expected) := by
  have all := List.countP_eq_length (p := fun node => node.passes key expected) (l := nodes)
  have part := List.countP_le_length (p := fun node => node.passes key expected) (l := nodes)
  rw [passRatio_eq]
  split
  next none =>
    rw [lt_iff rational?_one rational?_one, List.length_eq_zero_iff.mp none]
    simp
  next =>
    rw [share_lt_one_iff part (by omega) few, part.lt_iff_ne, ne_eq, all]
    simp only [Node.passes_iff, not_forall, exists_prop, ne_eq]

theorem structureCompleteness_lt_one_iff (few : graph.edges.length < 2 ^ 53) :
    structureCompleteness graph < 1 ↔ ∃ edge ∈ graph.edges, graph.isDangling edge = true := by
  rw [structureCompleteness_eq]
  split
  next none =>
    rw [lt_iff rational?_one rational?_one, List.length_eq_zero_iff.mp none]
    simp
  next =>
    rw [one_sub_share_lt_one_iff graph.danglingEdges_length_le (by omega) few,
      Graph.danglingEdges_length, List.countP_pos_iff]

theorem constants_le_one : AtMost goalMatch 1 ∧ AtMost humanity 1 := by
  constructor <;> apply AtMost.of_le <;> decide +kernel

theorem components_le_one (nodes : graph.nodes.length < 2 ^ 64)
    (edges : graph.edges.length < 2 ^ 64) :
    ∀ component ∈ (components graph).toList, AtMost component 1 := by
  have few (type : NodeType) := (graph.nodesOf_length_le type).trans_lt nodes
  obtain ⟨goalMatch, humanity⟩ := constants_le_one
  have evidence : AtMost (components graph).evidence 1 := by
    unfold components
    split
    · exact .refl rational?_one zero_le_one
    · exact ⟨0, 1, rational?_zero_literal, rational?_one, le_rfl, zero_le_one⟩
  simp only [PerComponent.toList, List.forall_mem_cons, List.not_mem_nil, false_implies,
    implies_true, and_true]
  exact ⟨goalMatch, passRatio_le_one (few .constraint), passRatio_le_one (few .test),
    structureCompleteness_le_one edges, evidence, humanity⟩

end Score

end Authoring
