import ChangeCoupling.BugFix
import ChangeCoupling.StatsTable
import ChangeCoupling.Transaction
import Std.Data.HashSet

/-! Commits, and what is kept of a list of them: the transactions and the statistics of the files. -/

namespace ChangeCoupling

/-- How many lines a commit added to a file and deleted from it. -/
structure FileChange where
  path : String
  added : Nat
  deleted : Nat
  deriving DecidableEq

structure Commit where
  committer : String
  message : String
  changes : List FileChange
  deriving DecidableEq

namespace Commit

/-- The files of a commit. A commit without files is an empty transaction. -/
def transaction (commit : Commit) : Transaction := .ofFiles (commit.changes.map (·.path))

def transactions (commits : List Commit) : List Transaction := commits.map transaction

/-- What has been counted for one file so far. -/
structure Tally where
  added : Nat := 0
  deleted : Nat := 0
  commits : Nat := 0
  bugFixes : Nat := 0
  committers : Std.HashSet String := ∅

def Tally.add (tally : Tally) (committer : String) (fixes : Bool) (change : FileChange) : Tally where
  added := tally.added + change.added
  deleted := tally.deleted + change.deleted
  commits := tally.commits + 1
  bugFixes := if fixes then tally.bugFixes + 1 else tally.bugFixes
  committers := tally.committers.insert committer

def Tally.stats (tally : Tally) (path : String) : FileStats where
  path := path
  added := tally.added
  deleted := tally.deleted
  changed := tally.added + tally.deleted
  authors := tally.committers.size
  commits := tally.commits
  bugFixes := tally.bugFixes

/-- The files met so far, in the order in which they were met, and what has been counted for them. -/
structure Tallies where
  order : Array String := #[]
  byPath : Std.HashMap String Tally := ∅

def Tallies.add (tallies : Tallies) (committer : String) (fixes : Bool) (change : FileChange) : Tallies where
  order := if tallies.byPath.contains change.path then tallies.order else tallies.order.push change.path
  byPath := tallies.byPath.insert change.path
    ((tallies.byPath.getD change.path {}).add committer fixes change)

def Tallies.addCommit (bugFix : BugFix) (tallies : Tallies) (commit : Commit) : Tallies :=
  let fixes := bugFix.marks commit.message
  commit.changes.foldl (fun tallies change => tallies.add commit.committer fixes change) tallies

def Tallies.table (tallies : Tallies) : StatsTable :=
  .ofRecords (tallies.order.toList.filterMap fun path => (tallies.byPath[path]?).map (·.stats path))

/-- The statistics of all files that a list of commits changes, in the order in which they first occur. -/
def stats (bugFix : BugFix) (commits : List Commit) : StatsTable :=
  (commits.foldl (Tallies.addCommit bugFix) {}).table

end Commit

end ChangeCoupling
