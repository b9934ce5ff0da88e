import ChangeCoupling.StatsTable

/-! Means: of the statistics of the files of an itemset, and of a column of such means. -/

namespace ChangeCoupling

/-- Six numbers, one for each column of a band. -/
structure Means where
  added : Double
  deleted : Double
  changed : Double
  authors : Double
  commits : Double
  bugFixes : Double
  deriving DecidableEq

namespace Means

def values (means : Means) : List Double :=
  [means.added, means.deleted, means.changed, means.authors, means.commits, means.bugFixes]

def map (f : Double → Double) (means : Means) : Means where
  added := f means.added
  deleted := f means.deleted
  changed := f means.changed
  authors := f means.authors
  commits := f means.commits
  bugFixes := f means.bugFixes

def add (first second : Means) : Means where
  added := first.added + second.added
  deleted := first.deleted + second.deleted
  changed := first.changed + second.changed
  authors := first.authors + second.authors
  commits := first.commits + second.commits
  bugFixes := first.bugFixes + second.bugFixes

def zero : Means := ⟨.zero, .zero, .zero, .zero, .zero, .zero⟩

/-- What one file contributes: lines by their averages per commit, the other columns by their counts. -/
def ofStats (stats : FileStats) : Means where
  added := stats.addedPerCommit
  deleted := stats.deletedPerCommit
  changed := stats.changedPerCommit
  authors := .ofNat stats.authors
  commits := .ofNat stats.commits
  bugFixes := .ofNat stats.bugFixes

/-- The means over the files that have statistics. Without any such file they are not defined. -/
def ofItems (table : StatsTable) (items : List String) : Means :=
  let present := items.filterMap table.get?
  let sums := (present.map ofStats).foldl add zero
  if present.isEmpty then sums.map fun _ => .nan else sums.map (· / .ofNat present.length)

end Means

/-- The mean of the numbers that are defined; without any it is not defined either. -/
def definedMean (values : List Double) : Double :=
  let defined := values.filter (!·.isNaN)
  if defined.isEmpty then .nan else defined.foldl (· + ·) .zero / .ofNat defined.length

end ChangeCoupling
