import ChangeCoupling.Failure
import ChangeCoupling.Number.Nearest

/-! The parameters of mining. -/

namespace ChangeCoupling.Mining

/-- How often files have to change together, as a share of all transactions, and into how many parts the log is
cut for counting. -/
structure Options where
  minSupport : Double
  partitions : Nat
  minSupport_range : Double.zero < minSupport ∧ minSupport ≤ Double.ofNat 1
  partitions_pos : 0 < partitions
  deriving DecidableEq

namespace Options

/-- The options with the given values, if both are in their range. -/
def make (minSupport : Double) (partitions : Nat) : Except RangeFault Options :=
  if range : Double.zero < minSupport ∧ minSupport ≤ Double.ofNat 1 then
    if pos : 0 < partitions then .ok ⟨minSupport, partitions, range, pos⟩ else .error .partitions
  else .error (.support minSupport)

/-- What is taken off before a product is rounded up: 0.005 of 1000 transactions are 5, though the product of
the doubles may be a little more. -/
def slack : Double := Double.nearest 1 1000000000

/-- How many of the given number of transactions have to contain an itemset. -/
def minCount (options : Options) (transactions : Nat) : Nat :=
  max 1 (options.minSupport * Double.ofNat transactions - slack).ceilCount

/-- How many transactions are counted together. -/
def chunkSize (options : Options) (transactions : Nat) : Nat :=
  max 1 (roundUp transactions options.partitions)

end Options

end ChangeCoupling.Mining
