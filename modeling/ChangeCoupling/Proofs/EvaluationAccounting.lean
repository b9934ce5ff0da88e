import ChangeCoupling.Evaluation
import ChangeCoupling.Proofs.RuleScore

/-! The evaluation of a list of rules accounts for each of them. What is recorded about a rule, in its result, among the
antecedents without a score and in a warning, depends on this rule alone, so that evaluations of two lists add up. -/

namespace ChangeCoupling

theorem Scoring.scoreRule_of_unknown {known : List (String × List String)} {rule : Rule}
    (unknown : rule.antecedent ∉ known.map Prod.fst) :
    scoreRule (GroundTruth.ofRules known) rule = .error (.noGroundTruth rule.antecedent) := by
  have none : (GroundTruth.ofRules known).references rule.antecedent = [] := by
    rw [references_eq_nil_iff]
    exact fun entry member same => unknown (List.mem_map.mpr ⟨entry, member, same⟩)
  rw [scoreRule, none]

theorem Scoring.exists_score {known : List (String × List String)} {rule : Rule}
    (occurs : rule.antecedent ∈ known.map Prod.fst) :
    ∃ score, scoreRule (GroundTruth.ofRules known) rule = .ok score := by
  obtain ⟨entry, member, same⟩ := List.mem_map.mp occurs
  refine ⟨_, scoreRule_eq_ok_iff.mpr ⟨fun none => ?_, rfl⟩⟩
  exact (references_eq_nil_iff known rule.antecedent).mp none entry member same

namespace Evaluation

def reason (antecedent : String) : String := "no ground truth for antecedent " ++ antecedent

/-- What the result of a rule may be: its score and nothing else if the ground truth has its antecedent, and otherwise a
reason that names the antecedent. -/
inductive Answered (known : List (String × List String)) (rule : Rule) : RuleResult → Prop
  | scored {score : Score} (occurs : rule.antecedent ∈ known.map Prod.fst)
    (isScore : Scoring.scoreRule (GroundTruth.ofRules known) rule = .ok score) :
    Answered known rule ⟨rule, some score, none⟩
  | unscored (unknown : rule.antecedent ∉ known.map Prod.fst) :
    Answered known rule ⟨rule, none, some (reason rule.antecedent)⟩

instance : Append Evaluation :=
  ⟨fun first second => ⟨first.results ++ second.results, first.unscored ++ second.unscored⟩⟩

def ofRule (truth : GroundTruth) (rule : Rule) : RuleResult :=
  match Scoring.scoreRule truth rule with
  | .ok score => ⟨rule, some score, none⟩
  | .error failure => ⟨rule, none, some failure.message⟩

/-- The three records of the rules that were taken up agree: who is listed without a score and who has a warning can be
told from the results. -/
structure Recorded (answers : List RuleResult) (state : Evaluation × List Warning) : Prop where
  results : state.1.results = answers
  unscored : state.1.unscored = (answers.filter (·.score?.isNone)).map (·.rule.antecedent)
  warnings : state.2 = answers.filterMap fun result => result.reason?.map (.unscoredRule result.rule.antecedent)

theorem Recorded.addRule {truth : GroundTruth} {answers : List RuleResult} {state : Evaluation × List Warning}
    (recorded : Recorded answers state) (rule : Rule) :
    Recorded (answers ++ [ofRule truth rule]) (addRule truth state rule) := by
  obtain ⟨results, unscored, warnings⟩ := recorded
  cases scored : Scoring.scoreRule truth rule with
  | ok score => constructor <;> simp [Evaluation.addRule, ofRule, scored, results, unscored, warnings]
  | error failure => constructor <;> simp [Evaluation.addRule, ofRule, scored, results, unscored, warnings]

theorem recorded_ofRules (truth : GroundTruth) (rules : List Rule) :
    Recorded (rules.map (ofRule truth)) (ofRules truth rules) := by
  have taken (done : List Rule) (state : Evaluation × List Warning)
      (recorded : Recorded (done.map (ofRule truth)) state) :
      Recorded ((done ++ rules).map (ofRule truth)) (rules.foldl (addRule truth) state) := by
    induction rules generalizing done state with
    | nil => simpa using recorded
    | cons rule rest ih =>
      have next := ih (done ++ [rule]) (addRule truth state rule) (by simpa using recorded.addRule rule)
      simpa using next
  exact taken [] _ ⟨rfl, rfl, rfl⟩

theorem ofRules_eq (truth : GroundTruth) (rules : List Rule) :
    ofRules truth rules =
      (⟨rules.map (ofRule truth), ((rules.map (ofRule truth)).filter (·.score?.isNone)).map (·.rule.antecedent)⟩,
        (rules.map (ofRule truth)).filterMap fun result =>
          result.reason?.map (.unscoredRule result.rule.antecedent)) := by
  obtain ⟨results, unscored, warnings⟩ := recorded_ofRules truth rules
  rw [← unscored, ← warnings, ← results]

section
variable (known : List (String × List String)) (rules : List Rule)

theorem answered_ofRule (rule : Rule) : Answered known rule (ofRule (GroundTruth.ofRules known) rule) := by
  by_cases occurs : rule.antecedent ∈ known.map Prod.fst
  · obtain ⟨score, isScore⟩ := Scoring.exists_score occurs
    rw [ofRule, isScore]
    exact .scored occurs isScore
  · rw [ofRule, Scoring.scoreRule_of_unknown occurs]
    exact .unscored occurs

theorem forall₂_ofRules :
    List.Forall₂ (Answered known) rules (ofRules (GroundTruth.ofRules known) rules).1.results := by
  rw [ofRules_eq, List.forall₂_map_right_iff, List.forall₂_same]
  exact fun rule _ => answered_ofRule known rule

end

section
variable {known : List (String × List String)} {rules : List Rule} {results : List RuleResult}

theorem antecedents_without_score (answered : List.Forall₂ (Answered known) rules results) :
    (results.filter (·.score?.isNone)).map (·.rule.antecedent) =
      (rules.filter (·.antecedent ∉ known.map Prod.fst)).map (·.antecedent) := by
  induction answered with
  | nil => rfl
  | cons first _ ih =>
    cases first with
    | scored occurs => simpa [occurs] using ih
    | unscored unknown => simpa [unknown] using ih

theorem warnings_of_results (answered : List.Forall₂ (Answered known) rules results) :
    (results.filterMap fun result => result.reason?.map (Warning.unscoredRule result.rule.antecedent)) =
      ((results.filter (·.score?.isNone)).map (·.rule.antecedent)).map
        fun antecedent => .unscoredRule antecedent (reason antecedent) := by
  induction answered with
  | nil => rfl
  | cons first _ ih =>
    cases first with
    | scored => simpa using ih
    | unscored => simpa using ih

end

theorem mean?_eq_none_iff {values : List Double} : mean? values = none ↔ values = [] := by
  cases values <;> simp [mean?]

theorem ofRules_append (truth : GroundTruth) (rules others : List Rule) : ofRules truth (rules ++ others) =
    ((ofRules truth rules).1 ++ (ofRules truth others).1, (ofRules truth rules).2 ++ (ofRules truth others).2) := by
  simp only [ofRules_eq, List.map_append, List.filter_append, List.filterMap_append]
  rfl

theorem length_scores_add (truth : GroundTruth) (rules : List Rule) :
    (ofRules truth rules).1.scores.length + (ofRules truth rules).1.unscored.length = rules.length := by
  have divided : (rules.map (ofRule truth)).length = _ := List.length_eq_countP_add_countP (·.score?.isSome)
  simp only [decide_not, Bool.decide_eq_true, Option.not_isSome, List.length_map] at divided
  simp only [ofRules_eq, scores, List.length_filterMap_eq_countP, List.length_map, ← List.countP_eq_length_filter]
  exact divided.symm

/-- Each rule has one result, in the order of the rules. The rules without a score are those whose antecedent the ground
truth does not have; there is a warning for each of them, and they make up the number of rules together with the scores.
There are means if there is a score, and the evaluations of two lists of rules add up to that of both. -/
theorem ofRules_accounts (known : List (String × List String)) (rules others : List Rule) :
    let truth := GroundTruth.ofRules known
    let evaluation := (ofRules truth rules).1
    List.Forall₂ (Answered known) rules evaluation.results ∧
      evaluation.unscored = (rules.filter (·.antecedent ∉ known.map Prod.fst)).map (·.antecedent) ∧
      (ofRules truth rules).2 =
        evaluation.unscored.map (fun antecedent => .unscoredRule antecedent (reason antecedent)) ∧
      evaluation.scores.length + evaluation.unscored.length = rules.length ∧
      (evaluation.meanPrecision? = none ↔ evaluation.scores.length = 0) ∧
      (evaluation.meanRecall? = none ↔ evaluation.scores.length = 0) ∧
      ofRules truth (rules ++ others) =
        (evaluation ++ (ofRules truth others).1, (ofRules truth rules).2 ++ (ofRules truth others).2) := by
  have answered := forall₂_ofRules known rules
  obtain ⟨results, unscored, warnings⟩ := recorded_ofRules (GroundTruth.ofRules known) rules
  rw [← results] at unscored warnings
  refine ⟨answered, unscored.trans (antecedents_without_score answered), ?_, length_scores_add _ rules, ?_, ?_,
    ofRules_append _ rules others⟩
  · rw [unscored]
    exact warnings.trans (warnings_of_results answered)
  · simp [meanPrecision?, mean?_eq_none_iff]
  · simp [meanRecall?, mean?_eq_none_iff]

end Evaluation

end ChangeCoupling
