import ChangeCoupling.Band.Report
import ChangeCoupling.Command.Format
import ChangeCoupling.Command.Input
import ChangeCoupling.Mining.Miner
import ChangeCoupling.SizeGroup
import ChangeCoupling.Text.Align

/-! The command that mines a transaction log. It writes a table for each band and a file for each size of
itemsets. -/

namespace ChangeCoupling

/-- The files of a report in a directory: one for each band. -/
def BandReport.files (report : BandReport) (directory : String) : List (String × String) :=
  report.tables.map fun table => (Path.join directory table.band.fileName, table.toCsv)

/-- The files of some groups in a directory, with the size that each is for. -/
def SizeGroups.files (groups : SizeGroups) (directory : String) (minSupport : Double) :
    List (Nat × String × String) :=
  groups.toList.map fun (size, group) => (size, Path.join directory (fileName minSupport size), text group)

namespace Mine

structure Options where
  transactions? : Option String := none
  stats? : Option String := none
  minSupport? : Option Double := none
  partitions? : Option Nat := none
  low? : Option Nat := none
  high? : Option Nat := none
  outputDir? : Option String := none

/-- A file for one size of itemsets. -/
structure SizeSummary where
  size : Nat
  itemsets : Nat
  path : String

structure Summary where
  transactions : Nat
  minSupport : Double
  minCount : Nat
  itemsets : Nat
  skipped : Nat
  bands : List BandSummary
  bandFiles : List String
  sizes : List SizeSummary

namespace Summary

/-- What was mined, in one sentence. -/
def headline (summary : Summary) : String :=
  summary.itemsets.repr ++ " itemsets from " ++ summary.transactions.repr ++ " transactions (min support " ++
    Number.plain summary.minSupport ++ ", min count " ++ summary.minCount.repr ++ ")"

def text (summary : Summary) : String :=
  Text.unlines (["Mined " ++ summary.headline, ""] ++ summary.bands.map (·.text) ++
    (summary.sizes.map fun group => "size " ++ Text.alignRight 2 group.size.repr ++ ": " ++
      Text.alignRight 6 group.itemsets.repr ++ " itemsets  " ++ group.path) ++
    summary.bandFiles.map ("wrote " ++ ·))

def json (summary : Summary) : Text.Json :=
  .object [("transactions", .count summary.transactions), ("minSupport", .number summary.minSupport),
    ("minCount", .count summary.minCount), ("itemsets", .count summary.itemsets),
    ("skippedSingletons", .count summary.skipped), ("bands", .ofList BandSummary.json summary.bands),
    ("bandFiles", .ofList .string summary.bandFiles),
    ("sizeGroups", .ofList (fun group => .object [("size", .count group.size), ("itemsets", .count group.itemsets),
      ("path", .string group.path)]) summary.sizes)]

def bandMarkdown (band : BandSummary) : List String :=
  ["### " ++ band.band.title ++ " (" ++ band.itemsets.repr ++ " itemsets)", "", "| Statistic | Average |",
    "|---|---:|"] ++
  (band.labelled.map fun (label, mean) => "| " ++ label ++ " | " ++ Number.fixed 2 mean ++ " |") ++ [""]

def sizesMarkdown (sizes : List SizeSummary) : List String :=
  if sizes.isEmpty then []
  else ["| Size | Itemsets | File |", "|---:|---:|---|"] ++ sizes.map fun group =>
    "| " ++ group.size.repr ++ " | " ++ group.itemsets.repr ++ " | `" ++ group.path ++ "` |"

def markdown (summary : Summary) : String :=
  Text.unlines (["## Co-change mining", "", summary.headline, ""] ++ summary.bands.flatMap bandMarkdown ++
    sizesMarkdown summary.sizes)

def report (summary : Summary) : Format → String
  | .text => summary.text
  | .json => summary.json.pretty ++ "\n"
  | .markdown => summary.markdown

end Summary

/-- The settings with those that the options replace. -/
def Options.apply (options : Options) (settings : Settings) : Settings :=
  { settings with
    mining :=
      { minSupport := options.minSupport?.getD settings.mining.minSupport
        partitions := options.partitions?.getD settings.mining.partitions }
    bands :=
      { low := options.low?.getD settings.bands.low
        high := options.high?.getD settings.bands.high } }

/-- Writes the tables and files for what is mined from some transactions, and reports it. -/
def output (options : Mining.Options) (thresholds : Band.Thresholds) (directory : String) (format : Format)
    (transactions : List Transaction) (stats : StatsTable) : Script String := do
  let itemsets := Mining.mine options transactions
  let report := BandReport.ofItemsets stats thresholds itemsets
  let groups := SizeGroups.ofItemsets itemsets
  let bandFiles := report.files directory
  let sizeFiles := groups.files directory options.minSupport
  Script.ensureDirectory directory
  Script.writeAll bandFiles
  Script.writeAll (sizeFiles.map (·.2))
  let summary : Summary :=
    { transactions := transactions.length
      minSupport := options.minSupport
      minCount := options.minCount transactions.length
      itemsets := itemsets.length
      skipped := report.skipped
      bands := report.tables.map (·.summary)
      bandFiles := bandFiles.map (·.1)
      sizes := sizeFiles.map fun (size, path, _) => ⟨size, (groups.getD size #[]).size, path⟩ }
  return summary.report format

def script (settings : Settings) (options : Options) (format : Format) : Script String := do
  let settings := options.apply settings
  Script.ofExcept settings.validate
  let mining ← Script.ofExcept (settings.options.mapError Failure.argument)
  let thresholds ← Script.ofExcept (settings.thresholds.mapError Failure.argument)
  let transactions ← Script.readTransactions (options.transactions?.getD settings.paths.transactions)
  let (stats, _) ← Script.readStats (options.stats?.getD settings.paths.fileStats)
  output mining thresholds (options.outputDir?.getD settings.paths.outputDir) format transactions stats

end Mine

end ChangeCoupling
