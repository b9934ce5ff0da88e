import Std.Data.HashSet

/-! Candidates for the next level. Files are numbered, and an itemset is the increasing list of its numbers. A
frequent itemset with one more member has only frequent parts, so that it is found by joining two frequent
itemsets that differ in the last member, and it is dropped if one of its other parts is not frequent. -/

namespace ChangeCoupling.Mining

/-- A set of numbered files in increasing order. -/
abbrev Ids := List Nat

/-- Whether all parts that lack one member are known. Without one of the last two members the candidate is one of
the two itemsets that it was joined from, so these need no test. -/
def partsKnown (known : Std.HashSet Ids) (candidate : Ids) : Bool :=
  (List.range (candidate.length - 2)).all fun position => known.contains (candidate.eraseIdx position)

/-- The candidates that an itemset forms with those behind it in its level. In a sorted level the itemsets that
share all but the last member stand together, so that the first other one ends the search. -/
def joins (known : Std.HashSet Ids) (left : Ids) (behind : List Ids) : List Ids :=
  ((behind.takeWhile fun right => right.dropLast == left.dropLast).map fun right =>
    left ++ right.getLast?.toList).filter (partsKnown known)

/-- The joins of every itemset with those behind it. -/
def joinAll (known : Std.HashSet Ids) : List Ids → List Ids
  | [] => []
  | left :: behind => joins known left behind ++ joinAll known behind

/-- The candidates with one member more than the itemsets of a level. -/
def candidates (level : List Ids) : List Ids := joinAll (Std.HashSet.ofList level) level

end ChangeCoupling.Mining
