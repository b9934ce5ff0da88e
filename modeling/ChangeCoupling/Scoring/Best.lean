import ChangeCoupling.Failure
import ChangeCoupling.Rule
import ChangeCoupling.Scoring.Overlap
import ChangeCoupling.Scoring.Subset

/-! The best match of a rule: the one with the greatest precision among all pairs of a subset of its consequent and
a reference of its antecedent. Larger subsets come first, those of one size go by the positions of their files,
and for each subset the references go in their order; of several best pairs the first one counts. Short
consequents are searched through. For long ones the best pair is known in advance: it is the largest overlap with
a reference, which matches completely. -/

namespace ChangeCoupling.Scoring

/-- The better one of the best match so far and another one, which has to be strictly better. -/
def keepBest (best : Option Overlap) (overlap : Overlap) : Option Overlap :=
  match best with
  | none => some overlap
  | some current => if overlap.beats current then some overlap else some current

/-- A reference as the mask of the positions of its files, and its size. -/
def referenceMask (weights : Array Nat) (consequent : List String) (reference : Reference) : Nat × Nat :=
  (Subset.mask weights (Overlap.positions consequent reference), reference.length)

/-- Tries out a subset of a consequent of `n` files with each reference. -/
def tryOut (n size : Nat) (references : List (Nat × Nat)) (best : Option Overlap) (subset : Nat) : Option Overlap :=
  references.foldl (fun best reference =>
    keepBest best ⟨Subset.ones n (subset &&& reference.1), size, reference.2⟩) best

/-- The best match among all subsets of the consequent. -/
def bestByEnumeration (consequent : List String) (references : List Reference) : Overlap :=
  let n := consequent.length
  let weights := Subset.weights n
  let masks := references.map (referenceMask weights consequent)
  let best := (List.range (n + 1)).reverse.foldl (fun best size =>
    Subset.fold n size (fun best positions => tryOut n size masks best (Subset.mask weights positions)) best) none
  best.getD ⟨0, n, 0⟩

/-- Of two overlaps of the same length the one whose positions come first, the earlier one if they are equal. -/
def firstPositions (best : List Nat × Nat) (other : List Nat × Nat) : List Nat × Nat :=
  if other.1 < best.1 then other else best

/-- The best match, found from the overlaps of the whole consequent with the references. -/
def bestByOverlap (consequent : List String) (references : List Reference) : Overlap :=
  let overlaps := references.map fun reference => (Overlap.positions consequent reference, reference.length)
  let largest := overlaps.foldl (fun size overlap => max size overlap.1.length) 0
  match overlaps.filter fun overlap => overlap.1.length == largest with
  | [] => ⟨0, consequent.length, 0⟩
  | first :: others =>
    if largest = 0 then ⟨0, consequent.length, 0⟩
    else ⟨largest, largest, (others.foldl firstPositions first).2⟩

/-- Consequents of up to this many files are searched through. -/
def enumerationLimit : Nat := 20

/-- The best match of a consequent with some references. -/
def best (consequent : List String) (references : List Reference) : Overlap :=
  if consequent.length ≤ enumerationLimit then bestByEnumeration consequent references
  else bestByOverlap consequent references

/-- The score of a rule. There is none if its antecedent has no reference. -/
def scoreRule (truth : GroundTruth) (rule : Rule) : Except Failure Score :=
  match truth.references rule.antecedent with
  | [] => .error (.noGroundTruth rule.antecedent)
  | references => .ok (best rule.consequent references).score

end ChangeCoupling.Scoring
