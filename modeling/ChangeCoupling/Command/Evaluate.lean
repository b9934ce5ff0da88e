import ChangeCoupling.Command.Format
import ChangeCoupling.Command.Input
import ChangeCoupling.Curve

/-! The command that scores rules against the ground truth and writes the precision-recall curve. -/

namespace ChangeCoupling.Evaluate

structure Options where
  groundTruth? : Option String := none
  curve? : Option String := none
  /-- Whether every rule has to have a score. -/
  strict : Bool := false

structure Summary where
  evaluation : Evaluation
  title : String
  curvePath : String

namespace Summary

def ruleLabel (rule : Rule) : String := rule.antecedent ++ " -> " ++ " ".intercalate rule.consequent

def resultText (result : RuleResult) : String :=
  Text.alignLeft 40 (ruleLabel result.rule) ++ " " ++ match result.score? with
    | some score => Text.alignRight 9 (Number.fixed 3 score.precision) ++ " " ++
      Text.alignRight 9 (Number.fixed 3 score.recalled)
    | none => "unscored (" ++ result.reason?.getD "no score" ++ ")"

/-- How many rules have a score, and the means of the scores if there are any. -/
def meansLine (evaluation : Evaluation) : String :=
  match evaluation.meanPrecision?, evaluation.meanRecall? with
  | some precision, some recalled =>
    "Scored " ++ evaluation.scores.length.repr ++ " of " ++ evaluation.results.length.repr ++
      " rules: mean precision " ++ Number.fixed 3 precision ++ ", mean recall " ++ Number.fixed 3 recalled
  | _, _ => "Scored 0 of " ++ evaluation.results.length.repr ++ " rules"

def text (summary : Summary) : String :=
  Text.unlines ((Text.alignLeft 40 "Rule" ++ " " ++ Text.alignRight 9 "Precision" ++ " " ++
      Text.alignRight 9 "Recall") ::
    summary.evaluation.results.map resultText ++
    ["", meansLine summary.evaluation, "curve: " ++ summary.curvePath])

def scoreJson (score : Score) : Text.Json :=
  .object [("precision", .number score.precision), ("recall", .number score.recalled)]

def resultJson (result : RuleResult) : Text.Json :=
  .object ([("rule", result.rule.json), ("best", .ofOption scoreJson result.score?)] ++
    match result.reason? with
    | none => []
    | some reason => [("reason", .string reason)])

def json (summary : Summary) : Text.Json :=
  .object [("rules", .ofList resultJson summary.evaluation.results),
    ("unscored", .ofList .string summary.evaluation.unscored),
    ("meanPrecision", .ofOption .number summary.evaluation.meanPrecision?),
    ("meanRecall", .ofOption .number summary.evaluation.meanRecall?), ("curve", .string summary.curvePath)]

def resultMarkdown (result : RuleResult) : String :=
  "| `" ++ result.rule.antecedent ++ "` | " ++ " ".intercalate result.rule.consequent ++ match result.score? with
    | some score => " | " ++ Number.fixed 3 score.precision ++ " | " ++ Number.fixed 3 score.recalled ++ " |"
    | none => " | - | - |"

def markdown (summary : Summary) : String :=
  Text.unlines (["## " ++ summary.title, "", "| Antecedent | Consequent | Precision | Recall |",
      "|---|---|---:|---:|"] ++
    summary.evaluation.results.map resultMarkdown ++ ["", meansLine summary.evaluation])

def report (summary : Summary) : Format → String
  | .text => summary.text
  | .json => summary.json.pretty ++ "\n"
  | .markdown => summary.markdown

end Summary

/-- Writes the curve of an evaluation, and reports the scores. -/
def output (rulesPath curvePath : String) (format : Format) (evaluation : Evaluation) : Script String := do
  let title := "Precision/recall for " ++ (Path.fileName? rulesPath).getD rulesPath
  Script.ensureParent curvePath
  Script.write curvePath (Curve.ofEvaluation title evaluation).toCsv
  return ({ evaluation, title, curvePath } : Summary).report format

def script (settings : Settings) (rulesPath : String) (options : Options) (format : Format) : Script String := do
  let (rules, _) ← Script.readRules rulesPath
  let (truth, _) ← Script.readTruth (options.groundTruth?.getD settings.paths.groundTruth)
  let (evaluation, _) := Evaluation.ofRules truth rules
  if options.strict && !evaluation.unscored.isEmpty then
    Script.fail (.unscored evaluation.unscored evaluation.results.length)
  else
    output rulesPath (options.curve?.getD (Path.join settings.paths.outputDir "precision-recall.csv")) format evaluation

end ChangeCoupling.Evaluate
