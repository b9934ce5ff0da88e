import ChangeCoupling.Proofs.BandRoundTrip
import ChangeCoupling.Proofs.CommandInputs
import ChangeCoupling.Proofs.FileEffects
import ChangeCoupling.Proofs.ItemsetDivision
import ChangeCoupling.Proofs.MiningExactness
import ChangeCoupling.Proofs.StatsRoundTrip
import ChangeCoupling.Proofs.SubsetClosure
import Std.Data.String.ToNat

/-! The files that mining writes. The tables of the bands and the files for the sizes have names of their own, so none
of them takes the place of another, unless a link makes one name stand for the file of another. -/

namespace ChangeCoupling

namespace SizeGroups

end SizeGroups

theorem Mining.Options.make_self (options : Options) : make options.minSupport options.partitions = .ok options := by
  rw [make, dif_pos options.minSupport_range, dif_pos options.partitions_pos]

namespace Mine
open Script

variable {history : HistoryReader} {files prepared final : FileSystem}

def Inputs.itemsets (inputs : Inputs) : List Itemset := Mining.mine inputs.mining inputs.transactions

def Inputs.report (inputs : Inputs) : BandReport :=
  BandReport.ofItemsets inputs.stats inputs.thresholds inputs.itemsets

def Inputs.groups (inputs : Inputs) : SizeGroups := SizeGroups.ofItemsets inputs.itemsets

/-- The names of the files for the bands and for the sizes, in the order in which they are written, with their
texts. -/
def Inputs.entries (inputs : Inputs) : List (String × String) :=
  (Band.all.map fun band => (band.fileName, (inputs.report.table band).toCsv)) ++
    inputs.groups.keys.map fun size => (SizeGroups.fileName inputs.mining.minSupport size,
      SizeGroups.text (inputs.itemsets.filter fun itemset => itemset.size = size).toArray)

end Mine

namespace CommandLine
open Script

variable {readers : Readers} {files final : FileSystem} {globals : Globals} {options : Mine.Options}

end CommandLine

/-! Two changes of the same two files are mined into the root, where the log and the statistics are. -/

namespace Mine
open Script

def pairLog : String := "core docs\ncore docs\n"

def pairInputs : Inputs where
  mining := ⟨Double.nearest 5 1000, 5, by decide +kernel, by decide⟩
  thresholds := ⟨14, 35, by decide⟩
  transactions := Transaction.readLog pairLog
  stats := {}

def pairFiles : FileSystem :=
  (({} : FileSystem).create ["commit-transactions.txt"] { content := pairLog.toUTF8 }).create ["file-stats.csv"]
    { content := (StatsTable.toCsv {}).toUTF8 }

/-- The log and the statistics are in the root, and nothing else, except perhaps for something in the place of one of
the tables. -/
structure PairThere (files : FileSystem) : Prop where
  atRoot : files.AtRoot
  writable : files.rootAccess.writeFault? = none
  stored : files.stored = pairFiles.stored
  node : ∀ name, name ≠ Band.veryFrequent.fileName → files.node? [name] = pairFiles.node? [name]

theorem node?_pairFiles_of_ne {name : String} (notLog : name ≠ "commit-transactions.txt")
    (notStats : name ≠ "file-stats.csv") : pairFiles.node? [name] = none := by
  rw [pairFiles, FileSystem.node?_create_of_ne (by simpa using notStats),
    FileSystem.node?_create_of_ne (by simpa using notLog), FileSystem.node?_empty (List.cons_ne_nil _ _)]

namespace PairThere

variable {files : FileSystem}

theorem pairFiles : PairThere pairFiles := ⟨⟨rfl, rfl⟩, rfl, rfl, fun _ _ => rfl⟩

/-- A link in the place of the table leaves the rest as it is. -/
theorem link (there : PairThere files) (target : String)
    (isStored : ∀ number, Node.link target = .file number → number < files.stored.size) :
    PairThere (files.put [Band.veryFrequent.fileName] (.link target) isStored) where
  atRoot := ⟨there.atRoot.current, there.atRoot.readable⟩
  writable := there.writable
  stored := there.stored
  node name other := (FileSystem.node?_put_of_ne (by simpa using other) _ _).trans (there.node name other)

theorem loads (there : PairThere files) (reader : SettingsReader) : Loads reader files none {} := by
  have free : files.occupied Settings.fileName = false := by
    refine there.atRoot.occupied (by decide +kernel) ?_
    rw [there.node _ (by decide), node?_pairFiles_of_ne (by decide) (by decide)]
  exact .defaults (by rw [settingsFile?, free]; rfl)

theorem logFile (there : PairThere files) : files.node? ["commit-transactions.txt"] = some (.file 0) := by
  rw [there.node _ (by decide), Mine.pairFiles, FileSystem.node?_create_of_ne (by decide)]
  exact FileSystem.node?_create_self (by decide) _

theorem statsFile (there : PairThere files) : files.node? ["file-stats.csv"] = some (.file 1) := by
  rw [there.node _ (by decide)]
  exact FileSystem.node?_create_self (by decide) _

theorem given (there : PairThere files) : pairInputs.Given files {} {} := by
  have log : files.read "commit-transactions.txt" = .ok pairLog :=
    there.atRoot.read (by decide +kernel) there.logFile (by rw [there.stored]; rfl)
  have stats : files.read "file-stats.csv" = .ok (StatsTable.toCsv {}) :=
    there.atRoot.read (by decide +kernel) there.statsFile (by rw [there.stored]; rfl)
  have consistent : StatsTable.Consistent {} := StatsTable.consistent_ofRecords []
  have table : StatsTable.readCsv "file-stats.csv" (StatsTable.toCsv {}) = .ok ({}, []) :=
    StatsTable.readCsv_toCsv_of_storable consistent (by simp [StatsTable.toList]) _
  refine ⟨?_, rfl, ⟨_, log, rfl⟩, ⟨_, stats, [], table⟩⟩
  exact Mining.Options.make_self pairInputs.mining

end PairThere

end Mine

namespace CommandLine
open Script

variable {readers : Readers} {files final : FileSystem} {globals : Globals} {options : Mine.Options}

end CommandLine

end ChangeCoupling
