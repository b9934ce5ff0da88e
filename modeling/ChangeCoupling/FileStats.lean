import ChangeCoupling.Number.Nearest

/-! What is known of one file: how much it changed, in how many commits, by how many people. -/

namespace ChangeCoupling

/-- The average per commit, rounded to two places with halves away from zero. A file without commits has the
average zero. -/
def perCommit (total commits : Nat) : Double :=
  if commits = 0 then Double.zero
  else
    let hundred := Double.ofNat 100
    (Double.ofNat total / Double.ofNat commits * hundred).round / hundred

/-- The statistics of a file. The averages per commit follow from the totals and are not stored. -/
structure FileStats where
  path : String
  added : Nat
  deleted : Nat
  changed : Nat
  authors : Nat
  commits : Nat
  bugFixes : Nat
  deriving DecidableEq

namespace FileStats

def addedPerCommit (stats : FileStats) : Double := perCommit stats.added stats.commits

def deletedPerCommit (stats : FileStats) : Double := perCommit stats.deleted stats.commits

def changedPerCommit (stats : FileStats) : Double := perCommit stats.changed stats.commits

/-- The six counts of a file, in the order of the columns of a table. -/
def counts (stats : FileStats) : List Nat :=
  [stats.added, stats.deleted, stats.changed, stats.authors, stats.commits, stats.bugFixes]

/-- The three averages of a file, in the order of the columns of a table. -/
def averages (stats : FileStats) : List Double :=
  [stats.addedPerCommit, stats.deletedPerCommit, stats.changedPerCommit]

end FileStats

end ChangeCoupling
