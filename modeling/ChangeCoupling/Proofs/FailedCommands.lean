import ChangeCoupling.Proofs.CommandInputs
import ChangeCoupling.Proofs.FileEffects

/-! Commands that fail. Nothing in the form of a script keeps it from doing something first and failing afterwards. The
scripts of all commands check first: whatever they ask for and refuse comes before their first effect, so if something
is missing or does not fit, the files stay as they are. What remains are the effects themselves. -/

namespace ChangeCoupling

/-- The files after some effects, and the problem with the first one that is not possible. -/
def Effect.performAll : FileSystem → List Effect → FileSystem × Option Problem
  | files, [] => (files, none)
  | files, effect :: rest =>
    if (effect.perform files).2.isNone then performAll (effect.perform files).1 rest else effect.perform files

namespace Script

variable {history : HistoryReader} {files final : FileSystem} {script : Script α} {rest : α → Script β}
  {problem : Problem}

/-- Scripts that ask and refuse as long as they have done nothing, and from then on do nothing but effects. -/
inductive ChecksFirst : Script α → Prop where
  | fail (problem : Problem) : ChecksFirst (fail problem)
  | read {path : String} {next : Except FileFault String → Script α} (onward : ∀ answer, ChecksFirst (next answer)) :
    ChecksFirst (read path next)
  | probe {path : String} {next : Bool → Script α} (onward : ∀ answer, ChecksFirst (next answer)) :
    ChecksFirst (probe path next)
  | history {path : String} {branch? : Option String} {maxFiles? : Option Nat}
    {next : Except RepositoryFault (List Commit) → Script α} (onward : ∀ answer, ChecksFirst (next answer)) :
    ChecksFirst (.history path branch? maxFiles? next)
  | commit {script : Script α} (committed : Committed script) : ChecksFirst script

theorem ChecksFirst.bind (inquiring : Inquiring script) (onward : ∀ value, ChecksFirst (rest value)) :
    ChecksFirst (script >>= rest) := by
  induction inquiring with
  | done value => exact onward value
  | fail problem => exact .fail problem
  | read _ ih => exact .read ih
  | probe _ ih => exact .probe ih
  | history _ ih => exact .history ih

/-- The run of a script ends with an effect that is not possible. Those before it have taken place. -/
def Aborts (history : HistoryReader) (files : FileSystem) (script : Script α) (final : FileSystem)
    (problem : Problem) : Prop :=
  ∃ done effect before, script.attempts history files = done ++ [effect] ∧
    Effect.performAll files done = (before, none) ∧ effect.perform before = (final, some problem)

theorem Committed.aborts (committed : Committed script) (ended : script.run history files = (final, .error problem)) :
    Aborts history files script final problem := by
  induction committed generalizing files with
  | done value => cases ended
  | @perform effect next _ ih =>
    rw [run] at ended
    cases performed : effect.perform files with
    | mk after problem? =>
      rw [performed] at ended
      cases problem? with
      | none =>
        obtain ⟨done, last, before, attempted, earlier, failed⟩ := ih ended
        refine ⟨effect :: done, last, before, ?_, ?_, failed⟩
        · simp [attempts, performed, attempted]
        · simp [Effect.performAll, performed, earlier]
      | some cause =>
        cases ended
        refine ⟨[], effect, files, ?_, rfl, performed⟩
        simp [attempts, performed]

theorem ChecksFirst.stops_or_aborts (checksFirst : ChecksFirst script)
    (ended : script.run history files = (final, .error problem)) :
    Stops history files script ∨ Aborts history files script final problem := by
  induction checksFirst with
  | fail cause => exact .inl ⟨rfl, cause, rfl⟩
  | read _ ih => exact ih _ ended
  | probe _ ih => exact ih _ ended
  | history _ ih => exact ih _ ended
  | commit committed => exact .inr (committed.aborts ended)

end Script

namespace CommandLine
open Script

/-- What keeps a command from getting as far as its effects once the settings are known. Each of these is enough,
whatever else is the case. -/
inductive Command.Obstacle (history : HistoryReader) (files : FileSystem) (settings : Settings) : Command → Prop where
  | extractRange {options : Extract.Options} {failure : Failure}
      (outside : (options.apply settings).validate = .error failure) :
      Obstacle history files settings (.extract options)
  | noHistory {options : Extract.Options} {fault : RepositoryFault}
      (missing : history files (options.repository?.getD ".") (options.apply settings).history.branch?
        (options.apply settings).history.maxFiles? = .error fault) : Obstacle history files settings (.extract options)
  | mineRange {options : Mine.Options} {failure : Failure}
      (outside : (options.apply settings).validate = .error failure) : Obstacle history files settings (.mine options)
  | transactionsUnread {options : Mine.Options} {fault : FileFault}
      (unread : files.read (options.transactions?.getD settings.paths.transactions) = .error fault) :
      Obstacle history files settings (.mine options)
  | statsUnread {options : Mine.Options} {fault : FileFault}
      (unread : files.read (options.stats?.getD settings.paths.fileStats) = .error fault) :
      Obstacle history files settings (.mine options)
  /-- Rows are left out if need be, so that only the header can be at fault. -/
  | statsHeader {options : Mine.Options} {text : String} {failure : Failure}
      (found : files.read (options.stats?.getD settings.paths.fileStats) = .ok text)
      (malformed : StatsTable.readCsv (options.stats?.getD settings.paths.fileStats) text = .error failure) :
      Obstacle history files settings (.mine options)
  | rulesUnread {rulesPath : String} {options : Evaluate.Options} {fault : FileFault}
      (unread : files.read rulesPath = .error fault) : Obstacle history files settings (.evaluate rulesPath options)
  | truthUnread {rulesPath : String} {options : Evaluate.Options} {fault : FileFault}
      (unread : files.read (options.groundTruth?.getD settings.paths.groundTruth) = .error fault) :
      Obstacle history files settings (.evaluate rulesPath options)
  | unscored {rulesPath : String} {options : Evaluate.Options} {rulesText truthText : String} {rule : Rule}
      (strict : options.strict = true) (rulesFound : files.read rulesPath = .ok rulesText)
      (truthFound : files.read (options.groundTruth?.getD settings.paths.groundTruth) = .ok truthText)
      (member : rule ∈ (Rule.readAll rulesPath rulesText).1)
      (unknown : (GroundTruth.read (options.groundTruth?.getD settings.paths.groundTruth) truthText).1.references
        rule.antecedent = []) : Obstacle history files settings (.evaluate rulesPath options)
  | settingsExist (occupied : files.occupied Settings.fileName = true) : Obstacle history files settings .init

/-- What keeps a run from getting as far as the effects of its command. -/
inductive Obstacle (readers : Readers) (files : FileSystem) (globals : Globals) (command : Command) : Prop where
  | settingsUnread {path : String} {fault : FileFault} (source : settingsFile? files globals.settings? = some path)
      (unread : files.read path = .error fault)
  | settingsUnusable {path text : String} {failure : Failure}
      (source : settingsFile? files globals.settings? = some path) (found : files.read path = .ok text)
      (unusable : readers.settings text = .error failure)
  | ofCommand {settings : Settings} (loaded : Loads readers.settings files globals.settings? settings)
      (obstacle : command.Obstacle readers.history files settings)

variable {history : HistoryReader} {files : FileSystem} {settings : Settings} {format : Format}

theorem stops_extract_iff {options : Extract.Options} :
    Stops history files (Extract.script settings options format) ↔
      (Command.extract options).Obstacle history files settings := by
  rw [Extract.stops_script]
  constructor
  · intro missing
    cases valid : (options.apply settings).validate with
    | error failure => exact .extractRange valid
    | ok _ =>
      cases found : history files (options.repository?.getD ".") (options.apply settings).history.branch?
          (options.apply settings).history.maxFiles? with
      | error fault => exact .noHistory found
      | ok commits => exact absurd ⟨valid, commits, found⟩ missing
  · intro obstacle ⟨valid, commits, found⟩
    cases obstacle with
    | extractRange outside => cases outside.symm.trans valid
    | noHistory missing => cases missing.symm.trans found

theorem stops_mine_iff {options : Mine.Options} :
    Stops history files (Mine.script settings options format) ↔
      (Command.mine options).Obstacle history files settings := by
  rw [Mine.stops_script]
  constructor
  · intro missing
    cases valid : (options.apply settings).validate with
    | error failure => exact .mineRange valid
    | ok _ =>
      obtain ⟨⟨mining, isMining⟩, thresholds, areThresholds⟩ := Settings.validate_eq_ok.mp valid
      cases logFound : files.read (options.transactions?.getD settings.paths.transactions) with
      | error fault => exact .transactionsUnread logFound
      | ok log =>
        cases found : files.read (options.stats?.getD settings.paths.fileStats) with
        | error fault => exact .statsUnread found
        | ok text =>
          cases table : StatsTable.readCsv (options.stats?.getD settings.paths.fileStats) text with
          | error failure => exact .statsHeader found table
          | ok result =>
            exact absurd ⟨⟨mining, thresholds, Transaction.readLog log, result.1⟩,
              ⟨isMining, areThresholds, ⟨log, logFound, rfl⟩, ⟨text, found, result.2, table⟩⟩⟩ missing
  · intro obstacle ⟨inputs, given⟩
    cases obstacle with
    | mineRange outside => cases outside.symm.trans given.validate
    | transactionsUnread unread =>
      obtain ⟨text, found, _⟩ := given.transactions
      cases unread.symm.trans found
    | statsUnread unread =>
      obtain ⟨text, found, _⟩ := given.stats
      cases unread.symm.trans found
    | statsHeader found malformed =>
      obtain ⟨text, found', warnings, table⟩ := given.stats
      cases found.symm.trans found'
      cases malformed.symm.trans table

theorem stops_evaluate_iff {rulesPath : String} {options : Evaluate.Options} :
    Stops history files (Evaluate.script settings rulesPath options format) ↔
      (Command.evaluate rulesPath options).Obstacle history files settings := by
  rw [Evaluate.stops_script]
  constructor
  · intro missing
    cases rulesFound : files.read rulesPath with
    | error fault => exact .rulesUnread rulesFound
    | ok rules =>
      cases truthFound : files.read (options.groundTruth?.getD settings.paths.groundTruth) with
      | error fault => exact .truthUnread truthFound
      | ok truth =>
        by_contra clear
        refine missing ⟨rules, truth, rulesFound, truthFound, ?_⟩
        intro strict rule member unknown
        exact clear (.unscored strict rulesFound truthFound member unknown)
  · intro obstacle ⟨rules, truth, rulesFound, truthFound, scored⟩
    cases obstacle with
    | rulesUnread unread => cases unread.symm.trans rulesFound
    | truthUnread unread => cases unread.symm.trans truthFound
    | unscored strict rulesFound' truthFound' member unknown =>
      cases rulesFound.symm.trans rulesFound'
      cases truthFound.symm.trans truthFound'
      exact scored strict _ member unknown

/-- A command stops before its first effect exactly if it meets an obstacle. -/
theorem Command.stops_iff_obstacle (command : Command) :
    Stops history files (command.script settings format) ↔ command.Obstacle history files settings := by
  cases command with
  | extract options => exact stops_extract_iff
  | mine options => exact stops_mine_iff
  | evaluate rulesPath options => exact stops_evaluate_iff
  | init =>
    refine Init.stops_script.trans ⟨.settingsExist, ?_⟩
    intro obstacle
    cases obstacle with
    | settingsExist occupied => exact occupied
  | completions shell =>
    refine iff_of_false (Committed.done _).not_stops ?_
    intro obstacle
    cases obstacle

theorem Command.checksFirst_script (settings : Settings) (format : Format) (command : Command) :
    ChecksFirst (command.script settings format) := by
  cases command with
  | extract options =>
    refine .bind (.ofExcept _) fun _ => .bind (Asks.readHistory _ _ _).inquiring fun _ => ?_
    exact .commit (Extract.committed_output _ _ _ _ _)
  | mine options =>
    refine .bind (.ofExcept _) fun _ => .bind (.ofExcept _) fun _ => .bind (.ofExcept _) fun _ => ?_
    refine .bind (Asks.readTransactions _).inquiring fun _ => .bind (Asks.readStats _).inquiring fun _ => ?_
    exact .commit (Mine.committed_output _ _ _ _ _ _)
  | evaluate rulesPath options =>
    refine .bind (Asks.readRules _).inquiring fun _ => .bind (Asks.readTruth _).inquiring fun _ => ?_
    dsimp only
    split
    · exact .fail _
    · exact .commit (Evaluate.committed_output _ _ _ _)
  | init =>
    refine .probe fun given => ?_
    split
    · exact .fail _
    · exact .commit (.perform (.done _))
  | completions shell => exact .commit (.done _)

section
variable {readers : Readers} {globals : Globals} {command : Command}

theorem checksFirst_script (reader : SettingsReader) (globals : Globals) (command : Command) :
    ChecksFirst ((Request.run globals (some command)).script reader) :=
  .bind (Asks.loadSettings reader globals.settings?).inquiring fun settings => command.checksFirst_script settings _

theorem stops_iff_obstacle :
    Stops readers.history files ((Request.run globals (some command)).script readers.settings) ↔
      Obstacle readers files globals command := by
  refine (Asks.loadSettings readers.settings globals.settings?).stops_bind.trans ?_
  simp only [Command.stops_iff_obstacle]
  constructor
  · intro met
    by_contra clear
    have missing {settings : Settings} (loaded : Loads readers.settings files globals.settings? settings) : False :=
      clear (.ofCommand loaded (met settings loaded))
    cases source : settingsFile? files globals.settings? with
    | none => exact missing (.defaults source)
    | some path =>
      cases found : files.read path with
      | error fault => exact clear (.settingsUnread source found)
      | ok text =>
        cases usable : readers.settings text with
        | error failure => exact clear (.settingsUnusable source found usable)
        | ok settings => exact missing (.file source found usable)
  · intro obstacle settings loaded
    cases obstacle with
    | settingsUnread source unread =>
      cases loaded with
      | defaults other => cases source.symm.trans other
      | file other found =>
        cases source.symm.trans other
        cases unread.symm.trans found
    | settingsUnusable source found unusable =>
      cases loaded with
      | defaults other => cases source.symm.trans other
      | file other found' usable =>
        cases source.symm.trans other
        cases found.symm.trans found'
        cases unusable.symm.trans usable
    | ofCommand loaded' obstacle =>
      cases loaded.unique loaded'
      exact obstacle

/-- A command that meets an obstacle fails before its first effect and leaves the files as they are. If it fails without
any, then an effect was not possible: a directory could not be made, or a file not be written. -/
theorem execute_of_obstacle (readers : Readers) (files : FileSystem) (globals : Globals) (command : Command) :
    (Obstacle readers files globals command →
      ((Request.run globals (some command)).script readers.settings).attempts readers.history files = [] ∧
      ∃ problem, (Request.run globals (some command)).execute readers files = (files, .problem problem)) ∧
    ∀ final problem, (Request.run globals (some command)).execute readers files = (final, .problem problem) →
      ¬ Obstacle readers files globals command →
      ∃ done effect before,
        ((Request.run globals (some command)).script readers.settings).attempts readers.history files =
          done ++ [effect] ∧
        Effect.performAll files done = (before, none) ∧ effect.perform before = (final, some problem) := by
  constructor
  · intro obstacle
    obtain ⟨nothing, problem, ended⟩ := stops_iff_obstacle.mpr obstacle
    exact ⟨nothing, problem, execute_eq_problem.mpr ended⟩
  · intro final problem failed clear
    have ended := execute_eq_problem.mp failed
    cases (checksFirst_script readers.settings globals command).stops_or_aborts ended with
    | inl stops => exact absurd (stops_iff_obstacle.mp stops) clear
    | inr aborts => exact aborts

end

/-- The statistics are there but may not be read: mining fails, and the directory for its output is not made. -/
theorem execute_of_obstacle_unreadable :
    let files := (({} : FileSystem).create ["commit-transactions.txt"] { content := "core docs\n".toUTF8 }).create
      ["file-stats.csv"] { content := ⟨#[]⟩, access := { readFault? := some .permissionDenied } }
    let readers : Readers := ⟨Settings.read, fun _ _ _ _ => .error .notOpened⟩
    let request := Request.run {} (some (.mine { outputDir? := some "mined/pairs" }))
    (request.script readers.settings).attempts readers.history files = [] ∧
      ∃ problem, request.execute readers files = (files, .problem problem) := by
  intro files readers request
  have atRoot : files.AtRoot := ⟨rfl, rfl⟩
  have noSettings : files.occupied Settings.fileName = false := by
    refine atRoot.occupied (by decide +kernel) ?_
    rw [FileSystem.node?_create_of_ne (by decide), FileSystem.node?_create_of_ne (by decide),
      FileSystem.node?_empty (by decide)]
  have unread : files.read "file-stats.csv" = .error .permissionDenied := by
    have found : files.fileAt "file-stats.csv" = .ok 1 :=
      atRoot.fileAt (by decide +kernel) (FileSystem.node?_create_self (by decide) _)
    rw [FileSystem.read, found]
    rfl
  have loaded : Loads readers.settings files none {} := .defaults (by rw [settingsFile?, noSettings]; rfl)
  exact (execute_of_obstacle readers files {} _).1 (.ofCommand loaded (.statsUnread unread))

end CommandLine

end ChangeCoupling
