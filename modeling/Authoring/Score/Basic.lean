import Authoring.Decimal.Dyadic
import Authoring.Graph.Basic

/-! The health of a graph: six components between 0 and 1, their weighted mean as a percentage, and
a hint for each problem. -/

namespace Authoring

structure PerComponent where
  goalMatch : Float
  constraintPass : Float
  testPass : Float
  structureCompleteness : Float
  evidence : Float
  humanity : Float
deriving DecidableEq

namespace PerComponent

def toList (numbers : PerComponent) : List Float :=
  [numbers.goalMatch, numbers.constraintPass, numbers.testPass, numbers.structureCompleteness,
    numbers.evidence, numbers.humanity]

def ones : PerComponent :=
  ⟨1, 1, 1, 1, 1, 1⟩

def total (weights : PerComponent) : Float :=
  weights.goalMatch + weights.constraintPass + weights.testPass + weights.structureCompleteness +
    weights.evidence + weights.humanity

def weightedMean (components weights : PerComponent) : Float :=
  if weights.total ≤ 0 then 0
  else
    (weights.goalMatch * components.goalMatch +
      weights.constraintPass * components.constraintPass +
      weights.testPass * components.testPass +
      weights.structureCompleteness * components.structureCompleteness +
      weights.evidence * components.evidence +
      weights.humanity * components.humanity) / weights.total

end PerComponent

inductive Hint where
  | dangling
  | missingCitation
  | unmetConstraints
  | failingTests
deriving DecidableEq

def Hint.text : Hint → String
  | dangling => "Fix dangling edges or missing nodes."
  | missingCitation => "Add at least one citation (cites edge) for deliverables."
  | unmetConstraints => "Some constraints marked required are unmet."
  | failingTests => "Some tests are failing or unspecified."

structure ScoreReport where
  score : UInt8
  components : PerComponent
  diffs : List String

namespace Score

/-- Stands in until goals can be matched; it does not look at the graph. -/
def goalMatch : Float :=
  0.7

/-- Stands in until humanity can be measured; it does not look at the graph. -/
def humanity : Float :=
  0.8

def passRatio (nodes : List Node) (key : String) (expected : Bool) : Float :=
  if nodes.isEmpty then 1
  else
    let passing := nodes.countP fun node =>
      match (node.get? key).bind Value.bool? with
      | some value => value == expected
      | none => false
    Float.ofNat passing / Float.ofNat nodes.length

def structureCompleteness (graph : Graph) : Float :=
  if graph.edges.isEmpty then 1
  else 1 - Float.ofNat graph.danglingEdges.length / Float.ofNat graph.edges.length

def hasDeliverable (graph : Graph) : Bool :=
  !(graph.nodesOf .deliverable).isEmpty

def hasCitation (graph : Graph) : Bool :=
  !(graph.edgesOf .cites).isEmpty

/-- A constraint passes when it says that it is not required. -/
def constraintPass (graph : Graph) : Float :=
  passRatio (graph.nodesOf .constraint) "required" false

def testPass (graph : Graph) : Float :=
  passRatio (graph.nodesOf .test) "pass" true

def components (graph : Graph) : PerComponent where
  goalMatch := goalMatch
  constraintPass := constraintPass graph
  testPass := testPass graph
  structureCompleteness := structureCompleteness graph
  evidence := if !hasDeliverable graph || hasCitation graph then 1 else 0
  humanity := humanity

def hints (graph : Graph) : List Hint :=
  (if structureCompleteness graph < 1 then [.dangling] else []) ++
    (if hasDeliverable graph && !hasCitation graph then [.missingCitation] else []) ++
    (if !(graph.nodesOf .constraint).isEmpty && constraintPass graph < 1 then
      [.unmetConstraints] else []) ++
    (if !(graph.nodesOf .test).isEmpty && testPass graph < 1 then [.failingTests] else [])

end Score

def score (weights : PerComponent) (graph : Graph) : ScoreReport where
  score := Decimal.toPercent (((Score.components graph).weightedMean weights) * 100)
  components := Score.components graph
  diffs := (Score.hints graph).map Hint.text

end Authoring
