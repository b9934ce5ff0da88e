import ChangeCoupling.Number.Nearest

/-! The subsequences of a given length: all of them in a list, a walk that goes over them without the list, and how many
there are. -/

namespace ChangeCoupling.Mining

/-- The subsequences of length `k`, in the lexicographic order of the positions they are taken from. Nothing is
looked for in a list that is too short. -/
def combinations : Nat → List α → List (List α)
  | 0, _ => [[]]
  | _ + 1, [] => []
  | k + 1, item :: rest =>
    if rest.length < k then []
    else (combinations k rest).map (item :: ·) ++ combinations (k + 1) rest

/-- A difference of counts. There is none if the second one is greater. -/
def difference? (whole part : Nat) : Option Nat := if part ≤ whole then some (whole - part) else none

/-- A walk over subsequences: what was made of those it has gone over, and the items that are chosen for the next one,
the last of them on top. -/
structure Walk (α : Type u) (β : Type v) where
  state : β
  chosen : Array α

namespace Walk

/-- Goes over the subsequences of length `k` of `total` items that begin with the chosen ones. As long as items are
missing, the next one has to leave enough others behind it, which gives the last position to choose from. -/
def goOver (total k : Nat) (visit : β → List α → β) (chooseUpTo : Nat → Walk α β → Option (Walk α β))
    (walk : Walk α β) : Option (Walk α β) :=
  if walk.chosen.size = k then some { walk with state := visit walk.state walk.chosen.toList }
  else do
    let missing ← difference? k walk.chosen.size
    let last ← difference? total missing
    chooseUpTo last walk

/-- Chooses in turn the items from `position` to `last`. Each of them is put on top, and taken off again after going
over what begins with it. There has to be an item at each of these positions. -/
def chooseUpTo (total k : Nat) (visit : β → List α → β) : List α → Nat → Nat → Walk α β → Option (Walk α β)
  | [], position, last, walk => if last < position then some walk else none
  | item :: rest, position, last, walk =>
    if last < position then some walk
    else do
      let gone ← goOver total k visit (chooseUpTo total k visit rest (position + 1))
        { walk with chosen := walk.chosen.push item }
      chooseUpTo total k visit rest (position + 1) last { gone with chosen := gone.chosen.pop }

/-- Goes over all subsequences of length `k`. Items that were chosen before are dropped. -/
def overCombinations (k : Nat) (items : List α) (visit : β → List α → β) (walk : Walk α β) : Option (Walk α β) :=
  let start := { walk with chosen := #[] }
  if items.length < k then some start
  else goOver items.length k visit (chooseUpTo items.length k visit items 0) start

end Walk

/-- The product of the factors `(n - i) / (i + 1)` for the next `steps` values of `i`. It stops at the greatest
count as soon as a product before its division is greater. -/
def binomialFrom (n : Nat) : Nat → Nat → Nat → Nat
  | 0, _, result => result
  | steps + 1, i, result =>
    if Double.maxCount < result * (n - i) then Double.maxCount
    else binomialFrom n steps (i + 1) (result * (n - i) / (i + 1))

/-- The number of subsequences of length `k` of a list of length `n`, or the greatest count if that is too much to
be worked out in 64 bits. -/
def binomial (n k : Nat) : Nat := if n < k then 0 else binomialFrom n (min k (n - k)) 0 1

end ChangeCoupling.Mining
