import ChangeCoupling.Number.Double

/-! The double nearest to a quotient of whole numbers, a half going to the even neighbour. Counts, decimal texts
and rounded averages all become doubles here. -/

namespace ChangeCoupling

/-- The whole number nearest to a quotient; of two that are equally near, the even one. -/
def roundHalfEven (numerator denominator : Nat) : Nat :=
  let whole := numerator / denominator
  let rest := numerator % denominator
  if 2 * rest < denominator then whole
  else if denominator < 2 * rest then whole + 1
  else whole + whole % 2

/-- The whole number nearest to a quotient; of two that are equally near, the greater one. -/
def roundHalfUp (numerator denominator : Nat) : Nat := (2 * numerator + denominator) / (2 * denominator)

/-- The least whole number that is not below a quotient. -/
def roundUp (numerator denominator : Nat) : Nat := (numerator + (denominator - 1)) / denominator

namespace Double

/-- The bits of the double nearest to a quotient. In units of the least positive double the quotient is
`numerator * 2 ^ 1074 / denominator`; of its binary digits the first 53 are kept, and `shift` counts the others.
A significand that rounds up to `2 ^ 53` carries over into the exponent by the addition, and whatever reaches the
exponent of infinity is infinity. -/
def nearestBits (numerator denominator : Nat) : Nat :=
  let units := numerator * unitsPerOne
  let shift := (units / denominator).log2 - 52
  min 0x7FF0000000000000 (shift * 0x10000000000000 + roundHalfEven units (denominator * Nat.pow 2 shift))

/-- The double nearest to a quotient of whole numbers. -/
def nearest (numerator denominator : Nat) : Double := ⟨(nearestBits numerator denominator).toUInt64⟩

def ofNat (n : Nat) : Double := nearest n 1

def ofInt (n : Int) : Double := if n < 0 then (ofNat n.natAbs).negate else ofNat n.natAbs

/-- The number of decimal digits of a whole number; zero has one. -/
def digitCount (n : Nat) : Nat := (Nat.toDigits 10 n).length

/-- The double nearest to `coefficient * 10 ^ exponent`. A value of `10 ^ 309` or more is infinite and one below
`10 ^ -324` is zero: saying so first keeps the powers of ten small. -/
def ofDecimal (coefficient : Nat) (exponent : Int) : Double :=
  let point : Int := digitCount coefficient + exponent
  if coefficient = 0 || point ≤ -324 then zero
  else if 310 ≤ point then infinity
  else nearest (coefficient * Nat.pow 10 exponent.toNat) (Nat.pow 10 (-exponent).toNat)

/-- A positive finite double rounded to a whole number, a half going up. -/
def round (x : Double) : Double := ofNat (roundHalfUp x.units unitsPerOne)

/-- The greatest count that is kept: counts have 64 bits. -/
def maxCount : Nat := 0xFFFFFFFFFFFFFFFF

/-- The count that a finite double stands for: it has to be whole and must not be negative. Greater values than
the greatest count are taken for it. -/
def toCount? (x : Double) : Option Nat :=
  if x.isNegative && x.units != 0 then none
  else if x.units % unitsPerOne != 0 then none
  else some (min maxCount (x.units / unitsPerOne))

/-- The least count that is not below a finite double. -/
def ceilCount (x : Double) : Nat :=
  if x.isNegative then 0 else min maxCount (roundUp x.units unitsPerOne)

end Double

end ChangeCoupling
