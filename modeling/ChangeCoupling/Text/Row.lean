/-! Rows of cells on one line. Commas divide the cells. A cell that holds a comma, a quote or a line break is
written between quotes, and a quote inside it is written twice, so that every list of cells but the empty one
can be read back from its row. -/

namespace ChangeCoupling.Text.Row

def needsQuotes (cell : List Char) : Bool :=
  cell.any fun c => c == ',' || c == '"' || c == '\n' || c == '\r'

/-- A quote inside quotes is written twice. -/
def doubleQuotes (cell : List Char) : List Char :=
  cell.flatMap fun c => if c = '"' then ['"', '"'] else [c]

def quoteChars (cell : List Char) : List Char :=
  if needsQuotes cell then '"' :: doubleQuotes cell ++ ['"'] else cell

/-- The written form of one cell. -/
def quote (cell : String) : String := String.ofList (quoteChars cell.toList)

/-- The written form of a row of cells. -/
def join (cells : List String) : String := ",".intercalate (cells.map quote)

/-- The cells of a line of which a part has been read: `quoted` says whether a quote is open, and `cell` holds
the characters of the current cell, last one first. A quote opens only at the start of a cell, where nothing
of it has been read yet. A line that ends inside quotes has no cells. -/
def splitFrom : Bool → List Char → List Char → Option (List (List Char))
  | quoted, cell, [] => if quoted then none else some [cell.reverse]
  | true, cell, '"' :: '"' :: rest => splitFrom true ('"' :: cell) rest
  | true, cell, '"' :: rest => splitFrom false cell rest
  | true, cell, c :: rest => splitFrom true (c :: cell) rest
  | false, cell, '"' :: rest =>
    if cell.isEmpty then splitFrom true cell rest else splitFrom false ('"' :: cell) rest
  | false, cell, ',' :: rest => (splitFrom false [] rest).map (cell.reverse :: ·)
  | false, cell, c :: rest => splitFrom false (c :: cell) rest

/-- The cells of a line, unless it ends inside quotes. -/
def split? (line : String) : Option (List String) :=
  (splitFrom false [] line.toList).map (·.map String.ofList)

end ChangeCoupling.Text.Row
