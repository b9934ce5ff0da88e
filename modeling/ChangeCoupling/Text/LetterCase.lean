import ChangeCoupling.Text.LetterCase.Table

/-! Texts in upper and lower case, by the full mappings of the Unicode standard. Upper case is given for each
character on its own and may be several characters long. Lower case looks at the neighbours of a capital sigma,
which has a form of its own at the end of a word. -/

namespace ChangeCoupling.Text

namespace LetterCase

def Run.covers (run : Run) (code : Nat) : Bool :=
  run.first ≤ code && code ≤ run.last && (code - run.first) % run.step == 0

/-- The character that a character is replaced by, itself if no run covers it. -/
def shifted (runs : Array Run) (c : Char) : Char :=
  match runs.find? (·.covers c.toNat) with
  | some run => Char.ofNat (c.toNat + run.shift).toNat
  | none => c

/-- The characters that a character is replaced by. -/
def image (expansions : List (Nat × List Nat)) (runs : Array Run) (c : Char) : List Char :=
  match expansions.lookup c.toNat with
  | some codes => codes.map Char.ofNat
  | none => [shifted runs c]

def upperChar (c : Char) : List Char := image upperExpansions upperRuns c

def lowerChar (c : Char) : List Char := image lowerExpansions lowerRuns c

def inRanges (ranges : List (Nat × Nat)) (c : Char) : Bool :=
  ranges.any fun range => range.1 ≤ c.toNat && c.toNat ≤ range.2

def isCased (c : Char) : Bool := inRanges casedRanges c

def isIgnorable (c : Char) : Bool := inRanges ignorableRanges c

/-- The first character that counts, if there is one, is a letter with case. -/
def meetsCased (chars : List Char) : Bool := ((chars.dropWhile isIgnorable).head?.map isCased).getD false

/-- The lower case of a text of which the characters of `before`, last one first, are already done. A capital
sigma takes its final form behind a letter with case unless another one follows. -/
def lowerFrom : List Char → List Char → List Char
  | _, [] => []
  | before, c :: after =>
    let here := if c = 'Σ' then
        if meetsCased before && !meetsCased after then ['ς'] else ['σ']
      else lowerChar c
    here ++ lowerFrom (c :: before) after

end LetterCase

def upperChars (chars : List Char) : List Char := chars.flatMap LetterCase.upperChar

def upper (text : String) : String := String.ofList (upperChars text.toList)

def lower (text : String) : String := String.ofList (LetterCase.lowerFrom [] text.toList)

end ChangeCoupling.Text
