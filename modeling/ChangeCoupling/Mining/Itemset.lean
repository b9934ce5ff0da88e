import ChangeCoupling.Transaction

/-! Sets of files that change together, with the number of transactions that contain them. -/

namespace ChangeCoupling

/-- A set of files, each listed once, and how many transactions contain all of them. -/
structure Itemset where
  items : List String
  support : Nat
  deriving DecidableEq

def Itemset.size (itemset : Itemset) : Nat := itemset.items.length

end ChangeCoupling
