import Authoring.Json.Record
import Authoring.Score.Basic

/-! The JSON form of scores and of their weights. -/

namespace Authoring

namespace PerComponent

def names : List String :=
  ["goalMatch", "constraintPass", "testPass", "structureCompleteness", "evidence", "humanity"]

def toJson (numbers : PerComponent) : Json :=
  .object (names.zip (numbers.toList.map Json.ofFloat))

def decoder : Decoder PerComponent :=
  ((Record.of PerComponent.mk).required "goalMatch" .float
    |>.required "constraintPass" .float
    |>.required "testPass" .float
    |>.required "structureCompleteness" .float
    |>.required "evidence" .float
    |>.required "humanity" .float).decoder "ScoreComponents"

def weightsDecoder : Decoder PerComponent :=
  ((Record.of PerComponent.mk).optional "goalMatch" .float 1
    |>.optional "constraintPass" .float 1
    |>.optional "testPass" .float 1
    |>.optional "structureCompleteness" .float 1
    |>.optional "evidence" .float 1
    |>.optional "humanity" .float 1).decoder "ScoreWeights"

end PerComponent

namespace ScoreReport

def decoder : Decoder ScoreReport :=
  ((Record.of ScoreReport.mk).required "score" .uint8
    |>.required "components" PerComponent.decoder
    |>.required "diffs" (.list .string)).decoder "ScoreReport"

def toJson (report : ScoreReport) : Json :=
  .object
    [("score", .ofNat report.score.toNat), ("components", report.components.toJson),
      ("diffs", .strings report.diffs)]

end ScoreReport

end Authoring
