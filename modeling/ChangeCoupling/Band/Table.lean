import ChangeCoupling.Band.Basic
import ChangeCoupling.Band.Means
import ChangeCoupling.Number.Cell
import ChangeCoupling.Text.Json
import ChangeCoupling.Text.Line
import ChangeCoupling.Text.Row
import ChangeCoupling.Warning

/-! The table of a band: the means of its itemsets, column by column. No column is longer or shorter than the others.
The written form of a table reads back, except that an undefined mean is written as zero. -/

namespace ChangeCoupling

/-- A band with six columns, which have one entry for each of its itemsets. -/
structure BandTable where
  band : Band
  size : Nat
  added : Vector Double size
  deleted : Vector Double size
  changed : Vector Double size
  authors : Vector Double size
  commits : Vector Double size
  bugFixes : Vector Double size
  deriving DecidableEq

namespace BandTable

def empty (band : Band) : BandTable where
  band
  size := 0
  added := #v[]
  deleted := #v[]
  changed := #v[]
  authors := #v[]
  commits := #v[]
  bugFixes := #v[]

/-- Puts the means of one itemset at the end of the columns. -/
def push (table : BandTable) (means : Means) : BandTable where
  band := table.band
  size := table.size + 1
  added := table.added.push means.added
  deleted := table.deleted.push means.deleted
  changed := table.changed.push means.changed
  authors := table.authors.push means.authors
  commits := table.commits.push means.commits
  bugFixes := table.bugFixes.push means.bugFixes

/-- What the columns have at one position. -/
def row (table : BandTable) (position : Fin table.size) : Means where
  added := table.added[position]
  deleted := table.deleted[position]
  changed := table.changed[position]
  authors := table.authors[position]
  commits := table.commits[position]
  bugFixes := table.bugFixes[position]

/-- The rows from the first position on. -/
def toList (table : BandTable) : List Means := List.ofFn table.row

/-- The header of every band's table, in the order of `Means.values`. -/
def columns : List String :=
  ["NumberOfLinesAdded", "NumberOLinesDeleted", "NumberOfLinesChangedTotal", "NumberOfAuthors",
    "NumberOfCommits", "NumberOfCommitsOnlyForBugFix"]

/-- The six columns of a table with their names in JSON documents. -/
def namedColumns (table : BandTable) : List (String × List Double) :=
  [("linesAdded", table.added.toList), ("linesDeleted", table.deleted.toList),
    ("linesChanged", table.changed.toList), ("authors", table.authors.toList),
    ("commits", table.commits.toList), ("bugFixCommits", table.bugFixes.toList)]

def rowText (means : Means) : String := ",".intercalate (means.values.map Number.Cell.write)

def toCsv (table : BandTable) : String :=
  Text.unlines (",".intercalate columns :: table.toList.map rowText)

/-- What messages call the table of a band. -/
def name (band : Band) : String := band.slug ++ " table"

/-- The six numbers of a row. -/
def meansOf? : List Double → Option Means
  | [added, deleted, changed, authors, commits, bugFixes] =>
    some { added, deleted, changed, authors, commits, bugFixes }
  | _ => none

def readRow? (text : String) : Option Means :=
  (Text.Row.split? text).bind fun cells => (cells.mapM Number.Cell.number?).bind meansOf?

/-- Takes up one row after the others. A row that does not hold six finite numbers is left out. -/
def addRow (state : BandTable × List Warning) (row : Nat × String) : BandTable × List Warning :=
  let (table, warnings) := state
  if Text.allBlank row.2 then (table, warnings)
  else match readRow? row.2 with
    | some means => (table.push means, warnings)
    | none => (table, warnings ++ [.badBandRow table.band.slug row.1])

/-- The table that a text holds, and the warnings in the order of the rows. -/
def readCsv (band : Band) (text : String) : Except Failure (BandTable × List Warning) :=
  match Text.numberedLines text with
  | [] => .error (.table (.missingHeader (name band)))
  | (_, header) :: rows =>
    match Text.Row.split? header with
    | none => .error (.table (.missingHeader (name band)))
    | some cells =>
      if cells.map Text.trim = columns then .ok (rows.foldl addRow (empty band, []))
      else .error (.table (.otherColumns (name band) columns))

end BandTable

/-- The means of the columns of a band. -/
structure BandSummary where
  band : Band
  itemsets : Nat
  means : Means

def BandTable.summary (table : BandTable) : BandSummary where
  band := table.band
  itemsets := table.size
  means :=
    { added := definedMean table.added.toList
      deleted := definedMean table.deleted.toList
      changed := definedMean table.changed.toList
      authors := definedMean table.authors.toList
      commits := definedMean table.commits.toList
      bugFixes := definedMean table.bugFixes.toList }

namespace BandSummary

/-- The means under the names they are shown with. -/
def labelled (summary : BandSummary) : List (String × Double) :=
  ["AvgLinesAdded", "AvgLinesDeleted", "AvgLinesChanged", "AvgNoOfAuthors", "AvgNoOfCommits",
    "AvgNoOfCommitsForBugFixOnly"].zip summary.means.values

/-- A title and then one line for each mean, with two places. -/
def text (summary : BandSummary) : String :=
  Text.unlines (summary.band.title :: summary.labelled.map fun (label, mean) => label ++ " " ++ Number.fixed 2 mean)

def json (summary : BandSummary) : Text.Json :=
  .object (("band", .string summary.band.key) :: ("itemsets", .count summary.itemsets) ::
    (["avgLinesAdded", "avgLinesDeleted", "avgLinesChanged", "avgAuthors", "avgCommits",
      "avgBugFixCommits"].zip (summary.means.values.map Text.Json.number)))

end BandSummary

end ChangeCoupling
