import ChangeCoupling.Scoring.Best

/-! The evaluation of a list of rules. Each rule has either a score or a reason why it has none. -/

namespace ChangeCoupling

structure RuleResult where
  rule : Rule
  score? : Option Score
  reason? : Option String

/-- The results of all rules in their order, and the antecedents of those without a score. -/
structure Evaluation where
  results : List RuleResult
  unscored : List String

namespace Evaluation

/-- Takes up one rule after the others. A rule without a score is also listed by its antecedent, and there is a
warning for it. -/
def addRule (truth : GroundTruth) (state : Evaluation × List Warning) (rule : Rule) : Evaluation × List Warning :=
  let (evaluation, warnings) := state
  match Scoring.scoreRule truth rule with
  | .ok score => ({ evaluation with results := evaluation.results ++ [⟨rule, some score, none⟩] }, warnings)
  | .error failure =>
    ({ results := evaluation.results ++ [⟨rule, none, some failure.message⟩]
       unscored := evaluation.unscored ++ [rule.antecedent] },
      warnings ++ [.unscoredRule rule.antecedent failure.message])

/-- The evaluation of some rules, with a warning for each that has no score. -/
def ofRules (truth : GroundTruth) (rules : List Rule) : Evaluation × List Warning :=
  rules.foldl (addRule truth) (⟨[], []⟩, [])

def scores (evaluation : Evaluation) : List Score := evaluation.results.filterMap (·.score?)

/-- The mean of some numbers, if there are any. -/
def mean? (values : List Double) : Option Double :=
  if values.isEmpty then none else some (values.foldl (· + ·) Double.zero / Double.ofNat values.length)

def meanPrecision? (evaluation : Evaluation) : Option Double := mean? (evaluation.scores.map (·.precision))

def meanRecall? (evaluation : Evaluation) : Option Double := mean? (evaluation.scores.map (·.recalled))

end Evaluation

end ChangeCoupling
