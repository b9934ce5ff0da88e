import ChangeCoupling.GroundTruth
import ChangeCoupling.Number.Nearest

/-! How well a set of proposed files matches a reference. Matches are compared in exact fractions; only the score
that is reported is made of doubles. -/

namespace ChangeCoupling

/-- A share of matched files, as it is reported: the nearest double. The share of nothing is zero. -/
def ratio (matched total : Nat) : Double := if total = 0 then Double.zero else Double.nearest matched total

/-- How good a match is: the share of the proposed files that are right, and the share of the right files that were
proposed. -/
structure Score where
  precision : Double
  recalled : Double
  deriving DecidableEq

/-- How many of the proposed files are in the reference, how many were proposed, and how many the reference
has. -/
structure Overlap where
  matched : Nat
  proposed : Nat
  actual : Nat
  deriving DecidableEq

namespace Overlap

/-- Precision is the share of the proposed files, recall that of the reference; of nothing it is zero. -/
def score (overlap : Overlap) : Score where
  precision := ratio overlap.matched overlap.proposed
  recalled := ratio overlap.matched overlap.actual

/-- The precision as numerator and denominator. -/
@[inline]
def precision (overlap : Overlap) : Nat × Nat :=
  if overlap.proposed = 0 then (0, 1) else (overlap.matched, overlap.proposed)

/-- Whether the precision of a match is greater than that of another one. -/
@[inline]
def beats (first second : Overlap) : Bool :=
  second.precision.1 * first.precision.2 < first.precision.1 * second.precision.2

/-- The match of a list of proposed files with a reference. Every mention of a file counts. -/
def ofFiles (proposed : List String) (reference : Reference) : Overlap :=
  ⟨proposed.countP reference.contains, proposed.length, reference.length⟩

/-- The positions of the files of a consequent that are in a reference. -/
def positions (consequent : List String) (reference : Reference) : List Nat :=
  (consequent.zipIdx.filter fun (file, _) => reference.contains file).map (·.2)

end Overlap

end ChangeCoupling
