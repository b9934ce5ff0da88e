import ChangeCoupling.FileStats
import Std.Data.HashMap

/-! The statistics of all files, in the order in which they were put in. A file has at most one record: the
first one that is inserted stays. An index finds records by path. -/

namespace ChangeCoupling

structure StatsTable where
  records : Array FileStats := #[]
  /-- The position of the record of each path. -/
  index : Std.HashMap String Nat := ∅
  deriving Inhabited

namespace StatsTable

def empty : StatsTable := {}

def size (table : StatsTable) : Nat := table.records.size

/-- Whether there is a record for a path already. -/
def mentions (table : StatsTable) (path : String) : Bool := table.index.contains path

/-- Puts a record at the end, unless its file has one. -/
def insert (table : StatsTable) (record : FileStats) : StatsTable :=
  if table.mentions record.path then table
  else { records := table.records.push record, index := table.index.insert record.path table.records.size }

/-- Inserts a record and tells whether it was put in. -/
def tryInsert (table : StatsTable) (record : FileStats) : Bool × StatsTable :=
  (!table.mentions record.path, table.insert record)

def ofRecords (records : List FileStats) : StatsTable := records.foldl insert empty

/-- The record of a path. -/
def get? (table : StatsTable) (path : String) : Option FileStats :=
  table.index[path]?.bind fun position => table.records[position]?

def toList (table : StatsTable) : List FileStats := table.records.toList

end StatsTable

end ChangeCoupling
