import ChangeCoupling.CommandLine.Run
import ChangeCoupling.Proofs.EvaluationAccounting

/-! What has to be there for a command to get as far as its effects. A script may do anything in any order, but the
parts that commands are made of either only ask or only do. A part that only asks leaves the files as they are, so a
command stops before its first effect exactly if something that it asks for is not found or does not fit. -/

namespace ChangeCoupling

theorem mapError_eq_ok {result : Except ε α} {change : ε → ε'} {value : α} :
    result.mapError change = .ok value ↔ result = .ok value := by
  cases result with
  | error cause =>
    constructor
    · intro impossible
      cases impossible
    · intro impossible
      cases impossible
  | ok found =>
    change Except.ok found = Except.ok value ↔ _
    rw [Except.ok.injEq, Except.ok.injEq]

namespace Script

variable {history : HistoryReader} {files final : FileSystem} {script : Script α} {rest : α → Script β}

/-- The effects that a run of a script comes to, in their order. All of them take place, except that the last one may
turn out not to be possible. -/
def attempts (history : HistoryReader) : FileSystem → Script α → List Effect
  | _, done _ => []
  | _, fail _ => []
  | files, read path next => attempts history files (next (files.read path))
  | files, probe path next => attempts history files (next (files.occupied path))
  | files, .history path branch? maxFiles? next => attempts history files (next (history files path branch? maxFiles?))
  | files, perform effect next =>
    effect :: if (effect.perform files).2.isNone then attempts history (effect.perform files).1 next else []

theorem run_bind_eq_ok {result : β} : (script >>= rest).run history files = (final, .ok result) ↔
    ∃ after value, script.run history files = (after, .ok value) ∧
      (rest value).run history after = (final, .ok result) := by
  induction script generalizing files with
  | done value =>
    change (rest value).run history files = _ ↔ ∃ after other, (files, Except.ok value) = (after, .ok other) ∧ _
    simp
  | fail problem =>
    change (files, Except.error problem) = (final, .ok result) ↔ ∃ after other, (files, Except.error problem) = _ ∧ _
    simp
  | read path next ih => exact ih _
  | probe path next ih => exact ih _
  | history path branch? maxFiles? next ih => exact ih _
  | perform effect next ih =>
    change (perform effect (next >>= rest)).run history files = _ ↔ _
    rw [run, run]
    cases effect.perform files with
    | mk after problem? =>
      cases problem? with
      | none => exact ih
      | some problem => simp

/-- The run of a script ends in a problem before it has come to any effect. -/
def Stops (history : HistoryReader) (files : FileSystem) (script : Script α) : Prop :=
  script.attempts history files = [] ∧ ∃ problem, script.run history files = (files, .error problem)

/-- Scripts without effects. -/
inductive Inquiring : Script α → Prop where
  | done (value : α) : Inquiring (done value)
  | fail (problem : Problem) : Inquiring (fail problem)
  | read {path : String} {next : Except FileFault String → Script α} (onward : ∀ answer, Inquiring (next answer)) :
    Inquiring (read path next)
  | probe {path : String} {next : Bool → Script α} (onward : ∀ answer, Inquiring (next answer)) :
    Inquiring (probe path next)
  | history {path : String} {branch? : Option String} {maxFiles? : Option Nat}
    {next : Except RepositoryFault (List Commit) → Script α} (onward : ∀ answer, Inquiring (next answer)) :
    Inquiring (.history path branch? maxFiles? next)

namespace Inquiring

theorem bind (first : Inquiring script) (second : ∀ value, Inquiring (rest value)) : Inquiring (script >>= rest) := by
  induction first with
  | done value => exact second value
  | fail problem => exact .fail problem
  | read _ ih => exact .read ih
  | probe _ ih => exact .probe ih
  | history _ ih => exact .history ih

theorem ofExcept (result : Except Failure α) : Inquiring (ofExcept result) := by
  cases result with
  | ok value => exact .done value
  | error failure => exact .fail _

theorem run_eq (inquiring : Inquiring script) : ∃ answer, script.run history files = (files, answer) := by
  induction inquiring with
  | done value => exact ⟨.ok value, rfl⟩
  | fail problem => exact ⟨.error problem, rfl⟩
  | read _ ih => exact ih _
  | probe _ ih => exact ih _
  | history _ ih => exact ih _

theorem bind_of_ok (inquiring : Inquiring script) {value : α}
    (found : script.run history files = (files, .ok value)) :
    (script >>= rest).run history files = (rest value).run history files ∧
      (script >>= rest).attempts history files = (rest value).attempts history files := by
  induction inquiring with
  | done other =>
    cases found
    exact ⟨rfl, rfl⟩
  | fail problem => cases found
  | read _ ih => exact ih _ found
  | probe _ ih => exact ih _ found
  | history _ ih => exact ih _ found

theorem stops_bind_of_error (inquiring : Inquiring script) {problem : Problem}
    (failed : script.run history files = (files, .error problem)) : Stops history files (script >>= rest) := by
  induction inquiring with
  | done other => cases failed
  | fail cause => exact ⟨rfl, cause, rfl⟩
  | read _ ih => exact ih _ failed
  | probe _ ih => exact ih _ failed
  | history _ ih => exact ih _ failed

end Inquiring

/-- Scripts of effects only. -/
inductive Committed : Script α → Prop where
  | done (value : α) : Committed (done value)
  | perform {effect : Effect} {next : Script α} (onward : Committed next) : Committed (perform effect next)

namespace Committed

theorem bind (first : Committed script) (second : ∀ value, Committed (rest value)) : Committed (script >>= rest) := by
  induction first with
  | done value => exact second value
  | perform _ ih => exact .perform ih

theorem ensureDirectory (path : String) : Committed (ensureDirectory path) := by
  rw [Script.ensureDirectory]
  split
  · exact .done ()
  · exact .perform (.done ())

theorem ensureParent (path : String) : Committed (ensureParent path) := by
  rw [Script.ensureParent]
  split
  · exact .done ()
  · exact ensureDirectory _

theorem write (path text : String) : Committed (write path text) := .perform (.done ())

theorem writeAll (entries : List (String × String)) : Committed (writeAll entries) := by
  induction entries with
  | nil => exact .done ()
  | cons entry rest ih => exact .perform ih

theorem not_stops (committed : Committed script) : ¬ Stops history files script := by
  intro ⟨nothing, problem, ended⟩
  cases committed with
  | done value => cases ended
  | perform onward => cases nothing

end Committed

/-- A script that only asks, and the values that it comes to: those that are found. -/
structure Asks (script : Script α) (found : HistoryReader → FileSystem → α → Prop) : Prop where
  inquiring : Inquiring script
  run_iff : ∀ history files value, script.run history files = (files, .ok value) ↔ found history files value

namespace Asks

variable {found : HistoryReader → FileSystem → α → Prop}

/-- Whether a script stops depends on what stands behind the part that only asks, as it is for the value found. -/
theorem stops_bind (asks : Asks script found) :
    Stops history files (script >>= rest) ↔ ∀ value, found history files value → Stops history files (rest value) := by
  simp only [← asks.run_iff]
  obtain ⟨answer, ended⟩ : ∃ answer, script.run history files = (files, answer) := asks.inquiring.run_eq
  cases answer with
  | error problem =>
    refine iff_of_true (asks.inquiring.stops_bind_of_error ended) ?_
    intro value found
    cases ended.symm.trans found
  | ok value =>
    obtain ⟨runs, attempted⟩ : (script >>= rest).run history files = _ ∧ (script >>= rest).attempts history files = _ :=
      asks.inquiring.bind_of_ok ended
    rw [Stops, runs, attempted, ← Stops]
    constructor
    · intro stops other found
      cases ended.symm.trans found
      exact stops
    · intro stops
      exact stops value ended

theorem run_bind_eq_ok (asks : Asks script found) {result : β} :
    (script >>= rest).run history files = (final, .ok result) ↔
      ∃ value, found history files value ∧ (rest value).run history files = (final, .ok result) := by
  simp only [Script.run_bind_eq_ok, ← asks.run_iff]
  constructor
  · intro ⟨after, value, ended, onward⟩
    obtain ⟨answer, unchanged⟩ : ∃ answer, script.run history files = (files, answer) := asks.inquiring.run_eq
    cases unchanged.symm.trans ended
    exact ⟨value, ended, onward⟩
  · intro ⟨value, ended, onward⟩
    exact ⟨files, value, ended, onward⟩

theorem bind (first : Asks script found) {further : α → HistoryReader → FileSystem → β → Prop}
    (second : ∀ value, Asks (rest value) (further value)) :
    Asks (script >>= rest) fun history files result =>
      ∃ value, found history files value ∧ further value history files result := by
  refine ⟨first.inquiring.bind fun value => (second value).inquiring, ?_⟩
  intro history files result
  rw [first.run_bind_eq_ok]
  exact exists_congr fun value => and_congr_right fun _ => (second value).run_iff history files result

theorem pure (value : α) : Asks (Pure.pure value : Script α) fun _ _ result => value = result := by
  refine ⟨.done value, ?_⟩
  intro history files result
  change (files, Except.ok value) = (files, .ok result) ↔ _
  simp

theorem ofExcept (result : Except Failure α) : Asks (ofExcept result) fun _ _ value => result = .ok value := by
  refine ⟨.ofExcept result, ?_⟩
  intro history files value
  cases result <;> simp [Script.ofExcept, run]

theorem readText (path : String) : Asks (readText path) fun _ files text => files.read path = .ok text := by
  refine ⟨.read fun answer => .ofExcept _, ?_⟩
  intro history files text
  exact ((ofExcept _).run_iff history files text).trans mapError_eq_ok

theorem readHistory (path : String) (branch? : Option String) (maxFiles? : Option Nat) :
    Asks (readHistory path branch? maxFiles?) fun history files commits =>
      history files path branch? maxFiles? = .ok commits := by
  refine ⟨.history fun answer => .ofExcept _, ?_⟩
  intro history files commits
  exact ((ofExcept _).run_iff history files commits).trans mapError_eq_ok

theorem readSettings (reader : SettingsReader) (path : String) :
    Asks (readSettings reader path) fun _ files settings =>
      ∃ text, files.read path = .ok text ∧ reader text = .ok settings :=
  (readText path).bind fun text => ofExcept (reader text)

theorem readTransactions (path : String) :
    Asks (readTransactions path) fun _ files transactions =>
      ∃ text, files.read path = .ok text ∧ Transaction.readLog text = transactions :=
  (readText path).bind fun text => pure (Transaction.readLog text)

theorem readStats (path : String) :
    Asks (readStats path) fun _ files table =>
      ∃ text, files.read path = .ok text ∧ StatsTable.readCsv path text = .ok table :=
  (readText path).bind fun text => ofExcept (StatsTable.readCsv path text)

theorem readRules (path : String) :
    Asks (readRules path) fun _ files rules =>
      ∃ text, files.read path = .ok text ∧ Rule.readAll path text = rules :=
  (readText path).bind fun text => pure (Rule.readAll path text)

theorem readTruth (path : String) :
    Asks (readTruth path) fun _ files truth =>
      ∃ text, files.read path = .ok text ∧ GroundTruth.read path text = truth :=
  (readText path).bind fun text => pure (GroundTruth.read path text)

end Asks

/-- The file that the settings of a run are read from, if there is one. -/
def settingsFile? (files : FileSystem) : Option String → Option String
  | some path => some path
  | none => if files.occupied Settings.fileName then some Settings.fileName else none

/-- The settings of a run: the defaults, or what its file says. -/
inductive Loads (reader : SettingsReader) (files : FileSystem) (source? : Option String) : Settings → Prop where
  | defaults (source : settingsFile? files source? = none) : Loads reader files source? {}
  | file {path text : String} {settings : Settings} (source : settingsFile? files source? = some path)
    (found : files.read path = .ok text) (usable : reader text = .ok settings) : Loads reader files source? settings

theorem Loads.unique {reader : SettingsReader} {source? : Option String} {settings others : Settings}
    (loaded : Loads reader files source? settings) (again : Loads reader files source? others) : settings = others := by
  cases loaded with
  | defaults source =>
    cases again with
    | defaults => rfl
    | file source' => cases source.symm.trans source'
  | file source found usable =>
    cases again with
    | defaults source' => cases source.symm.trans source'
    | file source' found' usable' =>
      cases source.symm.trans source'
      cases found.symm.trans found'
      exact Except.ok.inj (usable.symm.trans usable')

theorem run_loadSettings (reader : SettingsReader) (source? : Option String) :
    (loadSettings reader source?).run history files =
      (settingsFile? files source?).elim (files, .ok {}) fun path => (readSettings reader path).run history files := by
  cases source? with
  | some path => rfl
  | none =>
    change (if files.occupied Settings.fileName then _ else _ : Script Settings).run history files = _
    rw [settingsFile?]
    split <;> rfl

theorem Asks.loadSettings (reader : SettingsReader) (source? : Option String) :
    Asks (loadSettings reader source?) fun _ files settings => Loads reader files source? settings := by
  constructor
  · cases source? with
    | some path => exact (Asks.readSettings reader path).inquiring
    | none =>
      refine .probe fun given => ?_
      split
      · exact (Asks.readSettings reader _).inquiring
      · exact .done _
  · intro history files settings
    rw [run_loadSettings]
    cases source : settingsFile? files source? with
    | none =>
      rw [Option.elim_none, Prod.mk.injEq, Except.ok.injEq]
      constructor
      · intro same
        exact same.2 ▸ .defaults source
      · intro loads
        cases loads with
        | defaults => exact ⟨rfl, rfl⟩
        | file other => cases source.symm.trans other
    | some path =>
      rw [Option.elim_some, (Asks.readSettings reader path).run_iff]
      constructor
      · intro ⟨text, found, usable⟩
        exact .file source found usable
      · intro loads
        cases loads with
        | defaults other => cases source.symm.trans other
        | file other found usable =>
          cases source.symm.trans other
          exact ⟨_, found, usable⟩

end Script

theorem Settings.validate_eq_ok {settings : Settings} :
    settings.validate = .ok () ↔
      (∃ options, settings.options = .ok options) ∧ ∃ thresholds, settings.thresholds = .ok thresholds := by
  rw [validate]
  cases settings.options with
  | error fault => simp
  | ok options =>
    cases settings.thresholds with
    | error fault => simp
    | ok thresholds => simp

section
open Script

variable {history : HistoryReader} {files final : FileSystem} {settings : Settings} {format : Format} {result : String}

namespace Extract

theorem committed_output (bugFix : BugFix) (transactionsPath statsPath : String) (format : Format)
    (commits : List Commit) : Committed (output bugFix transactionsPath statsPath format commits) :=
  (Committed.ensureParent _).bind fun _ => (Committed.ensureParent _).bind fun _ =>
    (Committed.write _ _).bind fun _ => (Committed.write _ _).bind fun _ => .done _

theorem stops_script {options : Options} : Stops history files (script settings options format) ↔
    ¬ ((options.apply settings).validate = .ok () ∧
      ∃ commits, history files (options.repository?.getD ".") (options.apply settings).history.branch?
        (options.apply settings).history.maxFiles? = .ok commits) := by
  simp only [script, (Asks.ofExcept _).stops_bind, (Asks.readHistory _ _ _).stops_bind,
    (committed_output _ _ _ _ _).not_stops]
  constructor
  · intro stops ⟨valid, commits, found⟩
    exact stops () valid commits found
  · intro missing _ valid commits found
    exact missing ⟨valid, commits, found⟩

end Extract

namespace Mine

/-- What is mined, and how. -/
structure Inputs where
  mining : Mining.Options
  thresholds : Band.Thresholds
  transactions : List Transaction
  stats : StatsTable

/-- The settings, the options of the command and the files that they name give these inputs. -/
structure Inputs.Given (inputs : Inputs) (files : FileSystem) (settings : Settings) (options : Options) : Prop where
  mining : (options.apply settings).options = .ok inputs.mining
  thresholds : (options.apply settings).thresholds = .ok inputs.thresholds
  transactions : ∃ text, files.read (options.transactions?.getD settings.paths.transactions) = .ok text ∧
    Transaction.readLog text = inputs.transactions
  stats : ∃ text, files.read (options.stats?.getD settings.paths.fileStats) = .ok text ∧
    ∃ warnings, StatsTable.readCsv (options.stats?.getD settings.paths.fileStats) text = .ok (inputs.stats, warnings)

/-- What is left to do once the inputs are known. -/
def Inputs.output (inputs : Inputs) (directory : String) (format : Format) : Script String :=
  Mine.output inputs.mining inputs.thresholds directory format inputs.transactions inputs.stats

theorem committed_output (mining : Mining.Options) (thresholds : Band.Thresholds) (directory : String) (format : Format)
    (transactions : List Transaction) (stats : StatsTable) :
    Committed (output mining thresholds directory format transactions stats) :=
  (Committed.ensureDirectory _).bind fun _ => (Committed.writeAll _).bind fun _ =>
    (Committed.writeAll _).bind fun _ => .done _

theorem Inputs.Given.unique {inputs others : Inputs} {options : Options} (given : inputs.Given files settings options)
    (again : others.Given files settings options) : inputs = others := by
  obtain ⟨mining, thresholds, ⟨log, logFound, transactions⟩, text, found, warnings, table⟩ := given
  obtain ⟨mining', thresholds', ⟨log', logFound', transactions'⟩, text', found', warnings', table'⟩ := again
  cases logFound.symm.trans logFound'
  cases found.symm.trans found'
  cases inputs
  cases others
  congr
  · exact Except.ok.inj (mining.symm.trans mining')
  · exact Except.ok.inj (thresholds.symm.trans thresholds')
  · exact transactions.symm.trans transactions'
  · exact congrArg Prod.fst (Except.ok.inj (table.symm.trans table'))

theorem Inputs.Given.validate {inputs : Inputs} {options : Options} (given : inputs.Given files settings options) :
    (options.apply settings).validate = .ok () :=
  Settings.validate_eq_ok.mpr ⟨⟨_, given.mining⟩, ⟨_, given.thresholds⟩⟩

theorem stops_script {options : Options} : Stops history files (script settings options format) ↔
    ¬ ∃ inputs : Inputs, inputs.Given files settings options := by
  simp only [script, (Asks.ofExcept _).stops_bind, (Asks.readTransactions _).stops_bind, (Asks.readStats _).stops_bind,
    mapError_eq_ok]
  constructor
  · intro stops ⟨inputs, given⟩
    obtain ⟨text, found, warnings, table⟩ := given.stats
    have ended := stops () given.validate _ given.mining _ given.thresholds _ given.transactions _ ⟨text, found, table⟩
    exact (committed_output _ _ _ _ _ _).not_stops ended
  · intro missing _ _ mining isMining thresholds areThresholds transactions log ⟨stats, warnings⟩ ⟨text, found, table⟩
    exact absurd ⟨⟨mining, thresholds, transactions, stats⟩,
      ⟨isMining, areThresholds, log, text, found, warnings, table⟩⟩ missing

end Mine

theorem Evaluation.unscored_eq_nil_iff {truth : GroundTruth} {rules : List Rule} :
    (ofRules truth rules).1.unscored = [] ↔ ∀ rule ∈ rules, truth.references rule.antecedent ≠ [] := by
  have unscored (rule : Rule) : (ofRule truth rule).score? = none ↔ truth.references rule.antecedent = [] := by
    rw [ofRule, Scoring.scoreRule]
    cases truth.references rule.antecedent with
    | nil => simp
    | cons reference others => simp
  simp [ofRules_eq, List.filter_eq_nil_iff, unscored]

namespace Evaluate

theorem committed_output (rulesPath curvePath : String) (format : Format) (evaluation : Evaluation) :
    Committed (output rulesPath curvePath format evaluation) :=
  (Committed.ensureParent _).bind fun _ => (Committed.write _ _).bind fun _ => .done _

theorem stops_script {rulesPath : String} {options : Options} :
    Stops history files (script settings rulesPath options format) ↔
      ¬ ∃ rulesText truthText, files.read rulesPath = .ok rulesText ∧
        files.read (options.groundTruth?.getD settings.paths.groundTruth) = .ok truthText ∧
        (options.strict = true → ∀ rule ∈ (Rule.readAll rulesPath rulesText).1,
          (GroundTruth.read (options.groundTruth?.getD settings.paths.groundTruth) truthText).1.references
            rule.antecedent ≠ []) := by
  simp only [script, (Asks.readRules _).stops_bind, (Asks.readTruth _).stops_bind, ← Evaluation.unscored_eq_nil_iff]
  constructor
  · intro stops ⟨rules, truth, rulesFound, truthFound, scored⟩
    have ended := stops _ ⟨rules, rulesFound, rfl⟩ _ ⟨truth, truthFound, rfl⟩
    rw [if_neg] at ended
    · exact (committed_output _ _ _ _).not_stops ended
    · intro fails
      obtain ⟨strict, unscored⟩ := Bool.and_eq_true_iff.mp fails
      simp [scored strict] at unscored
  · intro missing _ ⟨rules, rulesFound, sameRules⟩ _ ⟨truth, truthFound, sameTruth⟩
    subst sameRules sameTruth
    split
    next => exact ⟨rfl, _, rfl⟩
    next scored =>
      refine absurd ⟨rules, truth, rulesFound, truthFound, fun strict => ?_⟩ missing
      simpa [strict] using scored

end Evaluate

namespace Init

theorem stops_script : Stops history files script ↔ files.occupied Settings.fileName = true := by
  rw [script, Stops, attempts, run]
  cases files.occupied Settings.fileName with
  | true => exact iff_of_true ⟨rfl, _, rfl⟩ rfl
  | false => exact iff_of_false (Committed.perform (.done _)).not_stops Bool.false_ne_true

end Init

end

namespace CommandLine

variable {readers : Readers} {files final : FileSystem} {request : Request}

theorem execute_eq_problem {problem : Problem} : request.execute readers files = (final, .problem problem) ↔
    (request.script readers.settings).run readers.history files = (final, .error problem) := by
  rw [Request.execute]
  rcases (request.script readers.settings).run readers.history files with ⟨after, cause | output⟩
  all_goals simp [Status.ofResult]

end CommandLine

end ChangeCoupling
