/-! How partial counts are brought together. The parts of a log are counted on their own, and their counts may
arrive in any order, be merged in any bracketing and be merged with counts of nothing on the way. -/

namespace ChangeCoupling.Mining

/-- A way to bring together the results for numbered parts. -/
inductive Gather where
  | nothing
  | part (number : Nat)
  | both (first second : Gather)

namespace Gather

/-- The numbers of the parts that are brought together. -/
def parts : Gather → List Nat
  | nothing => []
  | part number => [number]
  | both first second => first.parts ++ second.parts

/-- Every one of `count` parts is brought in once. -/
def Covers (gather : Gather) (count : Nat) : Prop := gather.parts.Perm (List.range count)

/-- The result that comes out. -/
def run (empty : α) (merge : α → α → α) (result : Nat → α) : Gather → α
  | nothing => empty
  | part number => result number
  | both first second => merge (first.run empty merge result) (second.run empty merge result)

/-- One part after the other, from the first on. -/
def inOrder (count : Nat) : Gather :=
  (List.range count).foldl (fun gathered number => both gathered (part number)) nothing

/-- Brings together a list of results. -/
def runList (gather : Gather) (empty : α) (merge : α → α → α) (results : List α) : α :=
  gather.run empty merge fun number => results.getD number empty

end Gather

/-- The way to bring together the counts of each level, given the number of parts. -/
abbrev Plan := Nat → Nat → Gather

/-- A list cut into pieces of the given size, the last of which may be shorter; `limit` bounds their number. -/
def chunksUpTo (size : Nat) : Nat → List α → List (List α)
  | 0, _ => []
  | limit + 1, items =>
    if items.isEmpty then [] else items.take size :: chunksUpTo size limit (items.drop size)

/-- A list cut into pieces of a size of at least one. -/
def chunks (size : Nat) (items : List α) : List (List α) := chunksUpTo size items.length items

end ChangeCoupling.Mining
