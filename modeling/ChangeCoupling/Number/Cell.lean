import ChangeCoupling.Number.Format
import ChangeCoupling.Number.Reader

/-! Numbers in the cells of a table. -/

namespace ChangeCoupling.Number.Cell

/-- The cell of a number. A mean over nothing is written as zero. -/
def write (x : Double) : String := if x.isNaN then "0" else plain x

/-- The finite number in a cell; an empty cell stands for zero. -/
def number? (cell : String) : Option Double :=
  let text := Text.trim cell
  if text.isEmpty then some Double.zero
  else (read text).bind fun x => if x.isFinite then some x else none

/-- The count in a cell, which may be written like any other number if it is whole. -/
def count? (cell : String) : Option Nat := (number? cell).bind Double.toCount?

end ChangeCoupling.Number.Cell
