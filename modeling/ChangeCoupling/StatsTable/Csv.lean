import ChangeCoupling.Failure
import ChangeCoupling.Number.Cell
import ChangeCoupling.StatsTable
import ChangeCoupling.Text.Line
import ChangeCoupling.Text.Row
import ChangeCoupling.Warning

/-! The written form of the statistics table. The reader finds the columns by their names, so their order and
further columns do not matter. A row that cannot be used is left out with one warning and does not disturb the
others. Averages are always computed from the totals; a stored one that is off is only reported. -/

namespace ChangeCoupling.StatsTable

def pathColumn : String := "FileName"

/-- The columns of the counts, in the order of `FileStats.counts`. -/
def countColumns : List String :=
  ["NumberOfLinesAdded", "NumberOLinesDeleted", "NumberOfLinesChangedTotal", "NumberOfAuthors",
    "NumberOfCommits", "NumberOfCommitsOnlyForBugFix"]

/-- The columns of the averages, in the order of `FileStats.averages`. -/
def averageColumns : List String :=
  ["AvgLinesAddedPerCommit", "AvgLinesDeletedPerCommit", "AvgLinesChangedPerCommit"]

def columns : List String := pathColumn :: countColumns ++ averageColumns

def recordCells (record : FileStats) : List String :=
  record.path :: record.counts.map Nat.repr ++ record.averages.map Number.plain

/-- The table as text, a header and then one row for each record. -/
def toCsv (table : StatsTable) : String :=
  Text.unlines (Text.Row.join columns :: table.toList.map fun record => Text.Row.join (recordCells record))

/-- Where the columns of a table are. -/
structure Layout where
  width : Nat
  path : Nat
  counts : List Nat
  averages : List Nat

def findColumn (source : String) (header : List String) (name : String) : Except Failure Nat :=
  match header.findIdx? (fun cell => Text.trim cell == name) with
  | some position => .ok position
  | none => .error (.table (.missingColumn source name))

/-- The layout that a header line describes. Byte order marks before it are not part of the first name. -/
def readHeader (source : String) (line : String) : Except Failure Layout :=
  if Text.allBlank line then .error (.table (.missingHeader source))
  else match Text.Row.split? (String.ofList (line.toList.dropWhile (· == '\uFEFF'))) with
    | none => .error (.table (.malformedHeader source))
    | some header => do
      let path ← findColumn source header pathColumn
      let counts ← countColumns.mapM (findColumn source header)
      let averages ← averageColumns.mapM (findColumn source header)
      return { width := header.length, path, counts, averages }

/-- The greatest distance between a stored average and the computed one that is not reported. -/
def tolerance : Double := Double.nearest 1 100

/-- Whether the text of a stored average agrees with the computed average: their distance is not above the tolerance. -/
def averageAgrees (stored : String) (expected : Double) : Bool :=
  match Number.Cell.number? stored with
  | none => false
  | some value => !(tolerance < (value - expected).abs : Bool)

/-- The record of six counts, if there are six. -/
def recordOf? (path : String) : List Nat → Option FileStats
  | [added, deleted, changed, authors, commits, bugFixes] =>
    some { path, added, deleted, changed, authors, commits, bugFixes }
  | _ => none

/-- What one row comes to. -/
inductive RowResult where
  | blank
  | dropped (warning : Warning)
  | kept (record : FileStats) (warnings : List Warning)

/-- Warnings about the stored averages of a row that do not agree with its record. -/
def staleAverages (source : String) (line : Nat) (record : FileStats) (stored : List String) : List Warning :=
  ((averageColumns.zip stored).zip record.averages).filterMap fun ((column, cell), expected) =>
    if averageAgrees cell expected then none
    else some (.staleAverage source line record.path column (Text.trim cell) expected)

def readRow (layout : Layout) (source : String) (line : Nat) (text : String) : RowResult :=
  if Text.allBlank text then .blank
  else match Text.Row.split? text with
    | none => .dropped (.unterminatedQuote source line)
    | some cells =>
      if cells.length != layout.width then .dropped (.cellCount source line layout.width cells.length)
      else
        let cell := fun position => cells.getD position ""
        let path := Text.trim (cell layout.path)
        if path.isEmpty then .dropped (.noFileName source line)
        else match (layout.counts.mapM fun position => Number.Cell.count? (cell position)).bind (recordOf? path) with
          | none => .dropped (.badCounts source line)
          | some record => .kept record (staleAverages source line record (layout.averages.map cell))

/-- Takes up one row after the others. -/
def addRow (layout : Layout) (source : String) (state : StatsTable × List Warning) (row : Nat × String) :
    StatsTable × List Warning :=
  let (table, warnings) := state
  match readRow layout source row.1 row.2 with
  | .blank => (table, warnings)
  | .dropped warning => (table, warnings ++ [warning])
  | .kept record stale =>
    if table.mentions record.path then
      (table, warnings ++ stale ++ [.duplicateFile source row.1 record.path])
    else (table.insert record, warnings ++ stale)

/-- The table that a text holds, and the warnings in the order of the rows. -/
def readCsv (source text : String) : Except Failure (StatsTable × List Warning) :=
  match Text.numberedLines text with
  | [] => .error (.table (.missingHeader source))
  | (_, header) :: rows => do
    let layout ← readHeader source header
    return rows.foldl (addRow layout source) (empty, [])

end ChangeCoupling.StatsTable
