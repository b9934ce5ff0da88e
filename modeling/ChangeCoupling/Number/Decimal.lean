import ChangeCoupling.Number.Nearest

/-! The shortest decimal that reads back as a given double. Candidates are the two neighbours of the double on a
decimal grid; the grids get finer until a neighbour reads back. Since a candidate is accepted only if it does
read back, and the last resort is the exact value, reading always restores the double. -/

namespace ChangeCoupling

/-- The decimal number `coefficient * 10 ^ exponent`. -/
structure Decimal where
  coefficient : Nat
  exponent : Int
  deriving DecidableEq, Inhabited

namespace Decimal

def toDouble (d : Decimal) : Double := Double.ofDecimal d.coefficient d.exponent

/-- The places before the decimal point of a positive finite double: `10 ^ (places - 1) ≤ x < 10 ^ places`. A double
below one has as many zeros behind the point as its reciprocal has further digits behind the first. -/
def places (x : Double) : Int :=
  if Double.unitsPerOne ≤ x.units then Double.digitCount (x.units / Double.unitsPerOne)
  else 1 - (Double.digitCount ((Double.unitsPerOne - 1) / x.units) : Int)

/-- Which of two neighbours on a grid is taken if both are equally near. -/
inductive Tie where
  | up
  | toEven

/-- Whether the greater neighbour is taken, given the coefficient of the lesser one. -/
def Tie.takesAbove : Tie → Nat → Bool
  | up, _ => true
  | toEven, below => below % 2 == 1

/-- The neighbours of a double on the grid of `10 ^ exponent`, the one that is taken first. -/
def neighbours (tie : Tie) (x : Double) (exponent : Int) : List Decimal :=
  let numerator := x.units * Nat.pow 10 (-exponent).toNat
  let denominator := Double.unitsPerOne * Nat.pow 10 exponent.toNat
  let below : Decimal := ⟨numerator / denominator, exponent⟩
  let above : Decimal := ⟨numerator / denominator + 1, exponent⟩
  let rest := 2 * (numerator % denominator)
  if denominator < rest || (rest == denominator && tie.takesAbove below.coefficient) then [above, below]
  else [below, above]

/-- The exact value of a double: `units * 2 ^ -1074 = units * 5 ^ 1074 * 10 ^ -1074`. -/
def exact (x : Double) : Decimal := ⟨x.units * Nat.pow 5 1074, -1074⟩

/-- The first decimal that reads back as a double, on at most `grids` grids of which each is ten times finer than
the one before. -/
def search (tie : Tie) (x : Double) : Nat → Int → Option Decimal
  | 0, _ => none
  | grids + 1, exponent =>
    (neighbours tie x exponent).find? (·.toDouble == x) <|> search tie x grids (exponent - 1)

/-- The shortest decimal that reads back as a positive finite double and, among the decimals of that length, the
nearest one. Seventeen digits are enough for every double, so no finer grid has to be tried. -/
def shortest (tie : Tie) (x : Double) : Decimal := (search tie x 17 (places x - 1)).getD (exact x)

/-- The digits of the coefficient without the zeros at its end. -/
def digits (d : Decimal) : List Char :=
  ((Nat.toDigits 10 d.coefficient).reverse.dropWhile (· == '0')).reverse

/-- The position of the decimal point: the number is `0.d₁d₂… * 10 ^ point`. -/
def point (d : Decimal) : Int := Double.digitCount d.coefficient + d.exponent

end Decimal

end ChangeCoupling
