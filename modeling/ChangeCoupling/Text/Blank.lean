/-! Blank characters and what is done at them: a text is trimmed, or taken apart into words. File names in a
log are words, so which characters are blank decides which names a log can carry. -/

namespace ChangeCoupling.Text

/-- The characters with the Unicode property White_Space. Characters of no width, such as U+200B and U+FEFF,
are not among them and may be part of a word. -/
def isBlank (c : Char) : Bool :=
  let code := c.toNat
  (9 ≤ code && code ≤ 13) || code == 0x20 || code == 0x85 || code == 0xA0 || code == 0x1680 ||
    (0x2000 ≤ code && code ≤ 0x200A) || code == 0x2028 || code == 0x2029 || code == 0x202F ||
    code == 0x205F || code == 0x3000

/-- A text without the blanks at its two ends. -/
def trimChars (chars : List Char) : List Char :=
  ((chars.dropWhile isBlank).reverse.dropWhile isBlank).reverse

def trim (text : String) : String := String.ofList (trimChars text.toList)

/-- The maximal runs of characters that are not blank, in order. -/
def wordChars (chars : List Char) : List (List Char) :=
  (chars.splitOnP isBlank).filter (!·.isEmpty)

def words (text : String) : List String := (wordChars text.toList).map String.ofList

/-- A text without any character that is not blank. -/
def allBlank (text : String) : Bool := text.toList.all isBlank

end ChangeCoupling.Text
