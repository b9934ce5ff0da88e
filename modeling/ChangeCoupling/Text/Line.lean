/-! Lines of a text. A line feed ends a line and takes one carriage return before it along; what follows the
last line feed is a line only if there is something. A carriage return anywhere else is an ordinary character. -/

namespace ChangeCoupling.Text

def dropReturn (line : List Char) : List Char :=
  if line.getLast? = some '\r' then line.dropLast else line

/-- The lines among the pieces between line feeds. Only the last piece lacks a line feed of its own: it keeps
its carriage return, and it is no line at all if it is empty. -/
def closeLines : List (List Char) → List (List Char)
  | [] => []
  | [last] => if last.isEmpty then [] else [last]
  | piece :: rest => dropReturn piece :: closeLines rest

def lineChars (chars : List Char) : List (List Char) := closeLines (chars.splitOn '\n')

def lines (text : String) : List String := (lineChars text.toList).map String.ofList

/-- Every line of a text together with its number, counted from one. -/
def numberedLines (text : String) : List (Nat × String) :=
  (lines text).mapIdx fun index line => (index + 1, line)

/-- A text made of whole lines: each one is followed by a line feed. -/
def unlines (rows : List String) : String := String.join (rows.map (· ++ "\n"))

end ChangeCoupling.Text
