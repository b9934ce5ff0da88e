import ChangeCoupling.Number.Decimal

/-! The three ways in which numbers are written: in full for tables, file names and messages; with a fixed number
of places for summaries; and as JSON numbers. The first and the last have the fewest digits that read back; where
two such numbers are equally near, the full text takes the greater one and JSON the one with an even last digit. -/

namespace ChangeCoupling.Number

def zeros (count : Nat) : List Char := List.replicate count '0'

/-- Digits with the decimal point at its place and zeros where digits are missing. -/
def positional (digits : List Char) (point : Int) : List Char :=
  if point ≤ 0 then '0' :: '.' :: zeros (-point).toNat ++ digits
  else if digits.length ≤ point.toNat then digits ++ zeros (point.toNat - digits.length)
  else digits.take point.toNat ++ '.' :: digits.drop point.toNat

def signed (x : Double) (magnitude : List Char) : String :=
  String.ofList (if x.isNegative then '-' :: magnitude else magnitude)

/-- The full text of a double. It never has an exponent, a whole number has no decimal point, and a NaN has no
sign. -/
def plain (x : Double) : String :=
  if x.isNaN then "NaN"
  else if x.isInfinite then signed x "inf".toList
  else if x.units = 0 then signed x ['0']
  else
    let d := Decimal.shortest .up x.abs
    signed x (positional d.digits d.point)

/-- A number in which the decimal point stands before the last `places` of the given digits. -/
def withPlaces (digits : List Char) (places : Nat) : List Char :=
  let padded := zeros (places + 1 - digits.length) ++ digits
  padded.take (padded.length - places) ++ '.' :: padded.drop (padded.length - places)

/-- The text of a double with a fixed number of places, at least one. The exact value is rounded, a half going
to the even neighbour, and a negative value keeps its sign even if it is rounded to zero. -/
def fixed (places : Nat) (x : Double) : String :=
  if x.isNaN then "NaN"
  else if x.isInfinite then signed x "inf".toList
  else signed x (withPlaces (Nat.toDigits 10 (roundHalfEven (x.units * Nat.pow 10 places) Double.unitsPerOne)) places)

/-- An exponent always has a sign. -/
def exponentText (exponent : Int) : List Char :=
  'e' :: (if exponent < 0 then '-' else '+') :: Nat.toDigits 10 exponent.natAbs

/-- The digits of a JSON number. Up to sixteen places before the decimal point and up to four zeros behind it are
written out, a whole number ending in `.0`; beyond that the number has an exponent. -/
def jsonDigits (digits : List Char) (point : Int) : List Char :=
  if 0 < point && point ≤ 16 then
    positional digits point ++ (if digits.length ≤ point.toNat then ['.', '0'] else [])
  else if -5 < point && point ≤ 0 then positional digits point
  else match digits with
    | [] => []
    | first :: rest =>
      first :: (if rest.isEmpty then [] else '.' :: rest) ++ exponentText (point - 1)

/-- The text of a double as a JSON number, for which NaN and the infinities are missing values. -/
def json (x : Double) : String :=
  if !x.isFinite then "null"
  else if x.units = 0 then signed x ['0', '.', '0']
  else
    let d := Decimal.shortest .toEven x.abs
    signed x (jsonDigits d.digits d.point)

end ChangeCoupling.Number
