import ChangeCoupling.Number.Nearest
import ChangeCoupling.Text.Blank

/-! Numbers in texts. A decimal number is read exactly and becomes the nearest double. -/

namespace ChangeCoupling.Number

/-- ASCII digits: no other digits are part of a number. -/
def isDigit (c : Char) : Bool := '0' ≤ c && c ≤ '9'

def digitValue (c : Char) : Nat := c.toNat - '0'.toNat

/-- The value of a run of digits. -/
def digitsValue (digits : List Char) : Nat := digits.foldl (fun value c => 10 * value + digitValue c) 0

/-- A sign, if the text starts with one, and the rest of the text. -/
def splitSign : List Char → Bool × List Char
  | '+' :: rest => (false, rest)
  | '-' :: rest => (true, rest)
  | chars => (false, chars)

/-- A nonempty run of digits that makes up the whole text, with an optional sign. -/
def readInteger (chars : List Char) : Option Int :=
  let (negative, digits) := splitSign chars
  if digits.isEmpty || !digits.all isDigit then none
  else if negative then some (-(digitsValue digits : Int)) else some (digitsValue digits)

/-- A count of at most 64 bits: digits, perhaps after a plus sign. -/
def readCount (text : String) : Option Nat :=
  match text.toList with
  | '-' :: _ => none
  | chars => (readInteger chars).bind fun n => if n.toNat ≤ Double.maxCount then some n.toNat else none

/-- The digits behind a decimal point, if there is one, and the rest of the text. -/
def splitFraction : List Char → List Char × List Char
  | '.' :: rest => (rest.takeWhile isDigit, rest.dropWhile isDigit)
  | chars => ([], chars)

/-- The exponent that makes up the whole text; no text stands for zero. -/
def readExponent : List Char → Option Int
  | [] => some 0
  | mark :: rest => if mark == 'e' || mark == 'E' then readInteger rest else none

/-- A decimal number without a sign: digits with at most one decimal point, at least one digit in all, and then
perhaps an exponent. -/
def readDecimal (chars : List Char) : Option Double :=
  let whole := chars.takeWhile isDigit
  let (behind, rest) := splitFraction (chars.dropWhile isDigit)
  if whole.isEmpty && behind.isEmpty then none
  else (readExponent rest).map fun exponent =>
    Double.ofDecimal (digitsValue (whole ++ behind)) (exponent - behind.length)

/-- The names of the values that no digits can express, in any case of letters. -/
def readName (chars : List Char) : Option Double :=
  match String.ofList (chars.map Char.toLower) with
  | "inf" | "infinity" => some Double.infinity
  | "nan" => some Double.nan
  | _ => none

/-- The double that a text stands for, if it is the text of a number. Blanks are not part of a number. -/
def read (text : String) : Option Double :=
  let (negative, chars) := splitSign text.toList
  (readDecimal chars <|> readName chars).map fun x => if negative then x.negate else x

end ChangeCoupling.Number
