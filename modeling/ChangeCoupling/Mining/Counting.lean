import ChangeCoupling.Mining.Candidate
import ChangeCoupling.Mining.Combination
import ChangeCoupling.Mining.Gather
import ChangeCoupling.Transaction
import Std.Data.HashMap

/-! Counting: how many transactions contain each file, and how many contain each candidate. Each part of the log is
counted on its own and the counts are added up. -/

namespace ChangeCoupling.Mining

/-- How many transactions contain each file. -/
abbrev FileCounts := Std.HashMap String Nat

def FileCounts.add (counts : FileCounts) (file : String) (amount : Nat) : FileCounts :=
  counts.insert file (counts.getD file 0 + amount)

/-- The counts of a part of a log. -/
def FileCounts.ofPart (part : List Transaction) : FileCounts :=
  part.foldl (fun counts transaction => transaction.files.foldl (fun counts file => counts.add file 1) counts) ∅

def FileCounts.merge (first second : FileCounts) : FileCounts :=
  second.fold (fun counts file amount => counts.add file amount) first

/-- How many transactions of a log contain each file. -/
def countFiles (plan : Plan) (chunk : Nat) (log : List Transaction) : FileCounts :=
  let parts := chunks chunk log
  (plan 1 parts.length).runList ∅ FileCounts.merge (parts.map FileCounts.ofPart)

/-- The candidates of one level, with the position of each of them. -/
structure CandidateIndex where
  size : Nat
  candidates : List Ids
  positions : Std.HashMap Ids Nat

def CandidateIndex.ofCandidates (size : Nat) (candidates : List Ids) : CandidateIndex :=
  { size, candidates, positions := Std.HashMap.ofList candidates.zipIdx }

/-- The positions of the candidates in a transaction, found by looking up its combinations. The walk over these always
comes to its end. -/
def CandidateIndex.hitsByCombination (index : CandidateIndex) (transaction : Ids) : List Nat :=
  let look (hits : List Nat) (part : Ids) : List Nat := index.positions[part]?.toList ++ hits
  (Walk.overCombinations index.size transaction look ⟨[], #[]⟩).elim [] (·.state.reverse)

/-- The positions of the candidates in a transaction, found by testing each candidate. -/
def CandidateIndex.hitsByTest (index : CandidateIndex) (transaction : Ids) : List Nat :=
  index.candidates.zipIdx.filterMap fun (candidate, position) =>
    if candidate.isSublist transaction then some position else none

/-- The positions of the candidates in a transaction, found in the way that takes fewer steps. -/
def CandidateIndex.hits (index : CandidateIndex) (transaction : Ids) : List Nat :=
  if binomial transaction.length index.size ≤ index.candidates.length then
    index.hitsByCombination transaction
  else index.hitsByTest transaction

/-- One count for each candidate. -/
abbrev CandidateCounts := Array Nat

def CandidateCounts.zero (index : CandidateIndex) : CandidateCounts := Array.replicate index.candidates.length 0

/-- The counts with one more for every given position. -/
def CandidateCounts.hit (counts : CandidateCounts) (positions : List Nat) : CandidateCounts :=
  positions.foldl (fun counts position => counts.modify position (· + 1)) counts

/-- The counts of a part of a log. A transaction with fewer files than the candidates contains none of them. -/
def CandidateCounts.ofPart (index : CandidateIndex) (part : List Ids) : CandidateCounts :=
  (part.filter fun transaction => index.size ≤ transaction.length).foldl
    (fun counts transaction => CandidateCounts.hit counts (index.hits transaction)) (zero index)

def CandidateCounts.merge (first second : CandidateCounts) : CandidateCounts := first.zipWith (· + ·) second

/-- How many transactions contain each candidate, in the order of the candidates. -/
def countCandidates (plan : Plan) (chunk size : Nat) (log : List Ids) (candidates : List Ids) : CandidateCounts :=
  let index := CandidateIndex.ofCandidates size candidates
  let parts := chunks chunk log
  (plan size parts.length).runList (CandidateCounts.zero index) CandidateCounts.merge
    (parts.map (CandidateCounts.ofPart index))

end ChangeCoupling.Mining
