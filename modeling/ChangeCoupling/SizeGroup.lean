import ChangeCoupling.Mining.Itemset
import ChangeCoupling.Number.Format
import Std.Data.TreeMap

/-! Itemsets by their size. Each size from two files on has a file of its own, one itemset a line. -/

namespace ChangeCoupling

/-- The itemsets of each size, smaller sizes first. -/
abbrev SizeGroups := Std.TreeMap Nat (Array Itemset)

namespace SizeGroups

def add (groups : SizeGroups) (itemset : Itemset) : SizeGroups :=
  groups.insert itemset.size ((groups.getD itemset.size #[]).push itemset)

/-- The groups of a list of itemsets, in whatever order it is. Itemsets of one file or none are left out. -/
def ofItemsets (itemsets : List Itemset) : SizeGroups :=
  (itemsets.filter fun itemset => 1 < itemset.size).foldl add ∅

/-- The name of the file for a size, which also tells the least support that the itemsets were mined with. -/
def fileName (minSupport : Double) (size : Nat) : String :=
  "sup" ++ Number.plain minSupport ++ "-set-" ++ size.repr ++ ".txt"

/-- One line for each itemset: its files in their order, divided by blanks. -/
def text (group : Array Itemset) : String :=
  Text.unlines (group.toList.map fun itemset => " ".intercalate itemset.items)

end SizeGroups

end ChangeCoupling
