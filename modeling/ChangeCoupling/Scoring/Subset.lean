/-! Subsets of the positions `0, …, n - 1`. A subset of a given size is the list of its positions from the last one
back to the first, and the next one in lexicographic order is found from it; as a mask it is the number whose bits
are the positions. -/

namespace ChangeCoupling.Subset

/-- The next subset. The last position must stay at or below `bound`, the one before it below that, and so on. The
last position that has room moves on by one, and those behind it follow closely. -/
def next? (bound : Nat) : List Nat → Option (List Nat)
  | [] => none
  | position :: earlier =>
    if position < bound then some ((position + 1) :: earlier)
    else match next? (bound - 1) earlier with
      | some (before :: others) => some ((before + 1) :: before :: others)
      | _ => none

/-- The powers of two that the bits of `n` positions stand for. -/
def weights (n : Nat) : Array Nat := (Array.range n).map (Nat.pow 2)

/-- The number whose bits are the given positions. -/
def mask (weights : Array Nat) (positions : List Nat) : Nat :=
  positions.foldl (fun bits position => bits + weights.getD position 0) 0

/-- Goes on with a function over a subset and those that follow it, at most `limit` of them. -/
@[specialize]
def foldFrom (bound : Nat) (f : β → List Nat → β) : Nat → List Nat → β → β
  | 0, _, state => state
  | limit + 1, positions, state =>
    match next? bound positions with
    | some following => foldFrom bound f limit following (f state positions)
    | none => f state positions

/-- Goes with a function over all subsets of `k` of `n` positions, in lexicographic order. There are no more than
`2 ^ n` of them. -/
@[specialize]
def fold (n k : Nat) (f : β → List Nat → β) (state : β) : β :=
  if n < k then state else foldFrom (n - 1) f (Nat.pow 2 n) (List.range k).reverse state

/-- The masks of all subsets of `k` of `n` positions, in lexicographic order. -/
def masks (n k : Nat) : List Nat :=
  (fold n k (fun found positions => mask (weights n) positions :: found) []).reverse

/-- The number of bits that are set among the first `n`. -/
def ones : Nat → Nat → Nat
  | 0, _ => 0
  | n + 1, bits => if bits = 0 then 0 else bits % 2 + ones n (bits / 2)

end ChangeCoupling.Subset
