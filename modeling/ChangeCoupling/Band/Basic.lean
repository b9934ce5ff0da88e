import ChangeCoupling.Failure

/-! Bands of itemsets by how often they occur. -/

namespace ChangeCoupling

inductive Band where
  | infrequent
  | frequent
  | veryFrequent
  deriving DecidableEq

namespace Band

def all : List Band := [infrequent, frequent, veryFrequent]

/-- The name of a band in file names and messages. -/
def slug : Band → String
  | infrequent => "infrequent"
  | frequent => "frequent"
  | veryFrequent => "very-frequent"

/-- The name of a band in JSON documents. -/
def key : Band → String
  | infrequent => "infrequent"
  | frequent => "frequent"
  | veryFrequent => "veryFrequent"

def title : Band → String
  | infrequent => "Non-frequent changing pattern statistics"
  | frequent => "Frequent changing pattern statistics"
  | veryFrequent => "Very frequent changing pattern statistics"

/-- The file that the table of a band is written to. -/
def fileName (band : Band) : String := "file-stats-" ++ band.slug ++ ".csv"

/-- The counts at which the middle and the upper band begin. -/
structure Thresholds where
  low : Nat
  high : Nat
  low_le_high : low ≤ high
  deriving DecidableEq

namespace Thresholds

def make (low high : Nat) : Except RangeFault Thresholds :=
  if ordered : low ≤ high then .ok ⟨low, high, ordered⟩ else .error (.thresholds low high)

/-- The band of an itemset that so many transactions contain. -/
def band (thresholds : Thresholds) (support : Nat) : Band :=
  if support < thresholds.low then infrequent
  else if support < thresholds.high then frequent
  else veryFrequent

end Thresholds

end Band

end ChangeCoupling
