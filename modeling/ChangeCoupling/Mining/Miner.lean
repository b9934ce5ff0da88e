import ChangeCoupling.Mining.Counting
import ChangeCoupling.Mining.Itemset
import ChangeCoupling.Mining.Options

/-! Mining level by level. The frequent files are numbered from the most frequent one on; a level holds the
frequent itemsets of one size, and the candidates of the next size come from it. The result lists smaller itemsets
first and, within a size, goes by the numbers of the files. -/

namespace ChangeCoupling.Mining

/-- A file comes before those that occur less often, and before those that occur as often and have a greater
path. -/
def precedes (first second : String × Nat) : Bool :=
  second.2 < first.2 || (first.2 == second.2 && first.1 ≤ second.1)

/-- The files that occur often enough, the most frequent ones first. -/
def frequentFiles (threshold : Nat) (counts : FileCounts) : List (String × Nat) :=
  (counts.toList.filter fun entry => threshold ≤ entry.2).mergeSort precedes

/-- A transaction as the numbers of its frequent files, in increasing order. -/
def encode (numbers : Std.HashMap String Nat) (transaction : Transaction) : Ids :=
  (transaction.files.filterMap (numbers[·]?)).mergeSort (· ≤ ·)

/-- The candidates of a level that are frequent, with their counts. -/
def frequentCandidates (plan : Plan) (threshold chunk size : Nat) (log : List Ids) (candidates : List Ids) :
    List (Ids × Nat) :=
  (candidates.zip (countCandidates plan chunk size log candidates).toList).filter fun entry => threshold ≤ entry.2

/-- The frequent itemsets of the given size and greater ones, found from the level below. It ends when a level has
no two itemsets to join or gives no candidates; `limit` bounds the number of levels, and no itemset is larger than
the largest transaction. -/
def levels (plan : Plan) (threshold chunk : Nat) (log : List Ids) : Nat → Nat → List Ids → List (Ids × Nat)
  | 0, _, _ => []
  | limit + 1, size, level =>
    if level.length < 2 then []
    else
      let next := candidates level
      if next.isEmpty then []
      else
        let found := frequentCandidates plan threshold chunk size log next
        found ++ levels plan threshold chunk log limit (size + 1) (found.map (·.1))

/-- Smaller itemsets come first, and those of one size in lexicographic order. -/
def idsPrecede (first second : Ids × Nat) : Bool :=
  first.1.length < second.1.length || (first.1.length == second.1.length && !(second.1 < first.1))

/-- The size of the largest transaction. -/
def longest (log : List Transaction) : Nat := log.foldl (fun size transaction => max size transaction.size) 0

/-- The itemsets that at least `threshold` transactions of a log contain, counted in pieces of `chunk`
transactions. -/
def mineCounted (plan : Plan) (threshold chunk : Nat) (log : List Transaction) : List Itemset :=
  let files := frequentFiles threshold (countFiles plan chunk log)
  let names := (files.map (·.1)).toArray
  let numbers := Std.HashMap.ofList (files.map (·.1)).zipIdx
  let encoded := (log.map (encode numbers)).filter fun transaction => 2 ≤ transaction.length
  let singles := files.zipIdx.map fun ((_, count), number) => ([number], count)
  let found := singles ++ levels plan threshold chunk encoded (longest log) 2 (singles.map (·.1))
  (found.mergeSort idsPrecede).map fun (ids, count) => ⟨ids.map fun id => names.getD id "", count⟩

/-- The frequent itemsets of a log, whatever way the partial counts are brought together. -/
def mineUnder (plan : Plan) (options : Options) (log : List Transaction) : List Itemset :=
  if log.isEmpty then []
  else mineCounted plan (options.minCount log.length) (options.chunkSize log.length) log

/-- The frequent itemsets of a log. -/
def mine (options : Options) (log : List Transaction) : List Itemset :=
  mineUnder (fun _ count => Gather.inOrder count) options log

end ChangeCoupling.Mining
