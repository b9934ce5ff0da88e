/-! Texts in fields of a fixed width, which is counted in characters. A text that is too long keeps its length. -/

namespace ChangeCoupling.Text

def blanks (count : Nat) : String := String.ofList (List.replicate count ' ')

/-- A text at the right end of a field. -/
def alignRight (width : Nat) (text : String) : String := blanks (width - text.length) ++ text

/-- A text at the left end of a field. -/
def alignLeft (width : Nat) (text : String) : String := text ++ blanks (width - text.length)

end ChangeCoupling.Text
