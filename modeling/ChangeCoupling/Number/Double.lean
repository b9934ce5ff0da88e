/-! Doubles by their bits. Arithmetic is that of IEEE 754; what a double stands for, how it is ordered and how
it is printed is read off its bits in exact whole numbers, so that these can be reasoned about. -/

namespace ChangeCoupling

/-- A double of IEEE 754. Bits tell the two zeros apart and keep the sign of a NaN; the order of the points of a
curve needs both. -/
structure Double where
  bits : UInt64
  deriving DecidableEq, Hashable, Inhabited

namespace Double

def ofFloat (value : Float) : Double := ⟨value.toBits⟩

def toFloat (x : Double) : Float := Float.ofBits x.bits

instance : Add Double := ⟨fun x y => ofFloat (x.toFloat + y.toFloat)⟩
instance : Sub Double := ⟨fun x y => ofFloat (x.toFloat - y.toFloat)⟩
instance : Mul Double := ⟨fun x y => ofFloat (x.toFloat * y.toFloat)⟩
instance : Div Double := ⟨fun x y => ofFloat (x.toFloat / y.toFloat)⟩
instance : LT Double := ⟨fun x y => x.toFloat < y.toFloat⟩
instance : LE Double := ⟨fun x y => x.toFloat ≤ y.toFloat⟩
instance (x y : Double) : Decidable (x < y) := inferInstanceAs (Decidable (x.toFloat < y.toFloat))
instance (x y : Double) : Decidable (x ≤ y) := inferInstanceAs (Decidable (x.toFloat ≤ y.toFloat))

/-- The sign bit. It is set for negative zero and may be set for a NaN. -/
def isNegative (x : Double) : Bool := 0x8000000000000000 ≤ x.bits.toNat

/-- The eleven bits of the exponent. -/
def exponentField (x : Double) : Nat := x.bits.toNat / 0x10000000000000 % 0x800

/-- The 52 bits below the exponent. -/
def fraction (x : Double) : Nat := x.bits.toNat % 0x10000000000000

def isFinite (x : Double) : Bool := x.exponentField != 2047

def isNaN (x : Double) : Bool := x.exponentField == 2047 && x.fraction != 0

def isInfinite (x : Double) : Bool := x.exponentField == 2047 && x.fraction == 0

/-- Every finite double is a whole multiple of the least positive one, `2 ^ -1074`: this is how many of it the
double holds, its sign left out. -/
def units (x : Double) : Nat :=
  if x.exponentField = 0 then x.fraction else (0x10000000000000 + x.fraction) * Nat.pow 2 (x.exponentField - 1)

/-- How many units make one. -/
def unitsPerOne : Nat := Nat.pow 2 1074

def zero : Double := ⟨0⟩

def nan : Double := ⟨0x7FF8000000000000⟩

def infinity : Double := ⟨0x7FF0000000000000⟩

/-- The same double with the other sign. -/
def negate (x : Double) : Double := ⟨x.bits ^^^ 0x8000000000000000⟩

/-- The same double without its sign. -/
def abs (x : Double) : Double := if x.isNegative then x.negate else x

/-- The place of a double in the total order of IEEE 754 on bit patterns: negative NaNs come first, then the
numbers from negative to positive infinity with negative zero before zero, then the positive NaNs. -/
def rank (x : Double) : Nat :=
  if x.isNegative then 0xFFFFFFFFFFFFFFFF - x.bits.toNat else 0x8000000000000000 + x.bits.toNat

end Double

end ChangeCoupling
