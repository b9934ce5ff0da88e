import ChangeCoupling.Band.Table
import ChangeCoupling.Command.Script
import ChangeCoupling.GroundTruth
import ChangeCoupling.Rule
import ChangeCoupling.Settings
import ChangeCoupling.StatsTable.Csv

/-! The files that commands read. A file is named in messages by its path as it was given. -/

namespace ChangeCoupling

/-- How settings are read off a text. -/
abbrev SettingsReader := String → Except Failure Settings

namespace Script

def readTransactions (path : String) : Script (List Transaction) := do
  return Transaction.readLog (← readText path)

def readStats (path : String) : Script (StatsTable × List Warning) := do
  ofExcept (StatsTable.readCsv path (← readText path))

def readBand (band : Band) (path : String) : Script (BandTable × List Warning) := do
  ofExcept (BandTable.readCsv band (← readText path))

def readRules (path : String) : Script (List Rule × List Warning) := do
  return Rule.readAll path (← readText path)

def readTruth (path : String) : Script (GroundTruth × List Warning) := do
  return GroundTruth.read path (← readText path)

def readSettings (reader : SettingsReader) (path : String) : Script Settings := do
  ofExcept (reader (← readText path))

/-- The settings in the file at the given path, or else those of the project, if it has any. -/
def loadSettings (reader : SettingsReader) : Option String → Script Settings
  | some path => readSettings reader path
  | none => probe Settings.fileName fun given =>
    if given then readSettings reader Settings.fileName else done {}

end Script

end ChangeCoupling
