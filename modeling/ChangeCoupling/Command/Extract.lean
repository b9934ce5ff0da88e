import ChangeCoupling.Command.Format
import ChangeCoupling.Command.Input
import ChangeCoupling.Text.Json

/-! The command that turns the history of a repository into a transaction log and a table of statistics. -/

namespace ChangeCoupling.Extract

structure Options where
  repository? : Option String := none
  branch? : Option String := none
  transactions? : Option String := none
  stats? : Option String := none
  maxFiles? : Option Nat := none

/-- What was found, and where it was written. -/
structure Summary where
  commits : Nat
  transactions : Nat
  files : Nat
  bugFixes : Nat
  transactionsPath : String
  statsPath : String

namespace Summary

def text (summary : Summary) : String :=
  Text.unlines
    ["Extracted " ++ summary.commits.repr ++ " commits (" ++ summary.bugFixes.repr ++ " bug-fix) touching " ++
      summary.files.repr ++ " files",
    "  transactions: " ++ summary.transactionsPath,
    "  statistics:   " ++ summary.statsPath]

def json (summary : Summary) : Text.Json :=
  .object [("commits", .count summary.commits), ("transactions", .count summary.transactions),
    ("files", .count summary.files), ("bugFixCommits", .count summary.bugFixes),
    ("transactionsPath", .string summary.transactionsPath), ("statsPath", .string summary.statsPath)]

def markdown (summary : Summary) : String :=
  Text.unlines ["## History extraction", "", "| | |", "|---|---|",
    "| Commits | " ++ summary.commits.repr ++ " |",
    "| Bug-fix commits | " ++ summary.bugFixes.repr ++ " |",
    "| Files | " ++ summary.files.repr ++ " |",
    "| Transaction log | `" ++ summary.transactionsPath ++ "` |",
    "| File statistics | `" ++ summary.statsPath ++ "` |"]

def report (summary : Summary) : Format → String
  | .text => summary.text
  | .json => summary.json.pretty ++ "\n"
  | .markdown => summary.markdown

end Summary

/-- The settings with those that the options replace. -/
def Options.apply (options : Options) (settings : Settings) : Settings :=
  { settings with history := { settings.history with
      branch? := options.branch? <|> settings.history.branch?
      maxFiles? := options.maxFiles? <|> settings.history.maxFiles? } }

/-- Writes the log and the table of some commits, and reports what was found. -/
def output (bugFix : BugFix) (transactionsPath statsPath : String) (format : Format) (commits : List Commit) :
    Script String := do
  let transactions := Commit.transactions commits
  let stats := Commit.stats bugFix commits
  Script.ensureParent transactionsPath
  Script.ensureParent statsPath
  Script.write transactionsPath (Transaction.writeLog transactions)
  Script.write statsPath stats.toCsv
  let summary : Summary :=
    { commits := commits.length
      transactions := transactions.length
      files := stats.size
      bugFixes := (commits.filter fun commit => bugFix.marks commit.message).length
      transactionsPath, statsPath }
  return summary.report format

def script (settings : Settings) (options : Options) (format : Format) : Script String := do
  let settings := options.apply settings
  Script.ofExcept settings.validate
  let commits ← Script.readHistory (options.repository?.getD ".") settings.history.branch? settings.history.maxFiles?
  output (.ofKeywords settings.history.keywords) (options.transactions?.getD settings.paths.transactions)
    (options.stats?.getD settings.paths.fileStats) format commits

end ChangeCoupling.Extract
