import ChangeCoupling.Band.Table
import ChangeCoupling.Mining.Itemset

/-! The itemsets sorted into bands. An itemset of fewer than two files says nothing about files that change
together: it is only counted. -/

namespace ChangeCoupling

structure BandReport where
  infrequent : BandTable := .empty .infrequent
  frequent : BandTable := .empty .frequent
  veryFrequent : BandTable := .empty .veryFrequent
  /-- The support of every itemset that is in a band. -/
  supports : Array Nat := #[]
  /-- The number of itemsets with fewer than two files. -/
  skipped : Nat := 0

namespace BandReport

def table (report : BandReport) : Band → BandTable
  | .infrequent => report.infrequent
  | .frequent => report.frequent
  | .veryFrequent => report.veryFrequent

def tables (report : BandReport) : List BandTable := Band.all.map report.table

/-- Puts means into the table of a band. -/
def push (report : BandReport) (band : Band) (means : Means) : BandReport :=
  match band with
  | .infrequent => { report with infrequent := report.infrequent.push means }
  | .frequent => { report with frequent := report.frequent.push means }
  | .veryFrequent => { report with veryFrequent := report.veryFrequent.push means }

def add (stats : StatsTable) (thresholds : Band.Thresholds) (report : BandReport) (itemset : Itemset) : BandReport :=
  if itemset.size < 2 then { report with skipped := report.skipped + 1 }
  else
    let banded := report.push (thresholds.band itemset.support) (Means.ofItems stats itemset.items)
    { banded with supports := banded.supports.push itemset.support }

/-- The report on a list of itemsets. -/
def ofItemsets (stats : StatsTable) (thresholds : Band.Thresholds) (itemsets : List Itemset) : BandReport :=
  itemsets.foldl (add stats thresholds) {}

def tableJson (table : BandTable) : Text.Json :=
  .object (("band", .string table.band.key) ::
    table.namedColumns.map fun (name, column) => (name, .ofList .number column))

def json (report : BandReport) : Text.Json :=
  .object (report.tables.map (fun table => (table.band.key, tableJson table)) ++
    [("frequencies", .ofList .count report.supports.toList), ("skippedSingletons", .count report.skipped)])

end BandReport

end ChangeCoupling
