import ChangeCoupling.Number.Reader
import ChangeCoupling.Toml.Value

/-! The parts of a TOML document that are made of single characters: blanks and comments, strings and keys, numbers
and dates. Each reader takes a part off the front of a text and returns it with the rest. -/

namespace ChangeCoupling.Toml

def isSpace (c : Char) : Bool := c == ' ' || c == '\t'

def skipSpaces (chars : List Char) : List Char := chars.dropWhile isSpace

/-- Characters that may stand in comments and strings: all but the control characters other than the tab. -/
def isPrintable (c : Char) : Bool := c == '\t' || (0x20 ≤ c.toNat && c.toNat != 0x7F)

/-- A line break at the front of a text is taken off. -/
def newline? : List Char → Option (List Char)
  | '\n' :: rest => some rest
  | '\r' :: '\n' :: rest => some rest
  | _ => none

/-- A comment at the front of a text is taken off. -/
def skipComment (chars : List Char) : List Char :=
  match chars with
  | '#' :: rest => rest.dropWhile isPrintable
  | chars => chars

/-- What may follow a value or a header on its line: blanks and a comment, up to the end of the line or the text. -/
def endOfLine? (chars : List Char) : Option (List Char) :=
  match skipComment (skipSpaces chars) with
  | [] => some []
  | rest => newline? rest

/-- Blanks, comments and line breaks between the values of an array are skipped; `limit` bounds their lines. -/
def skipLines : Nat → List Char → List Char
  | 0, chars => chars
  | limit + 1, chars =>
    match newline? (skipComment (skipSpaces chars)) with
    | some rest => skipLines limit rest
    | none => skipSpaces chars

def hexValue? (c : Char) : Option Nat :=
  if Number.isDigit c then some (Number.digitValue c)
  else if 'a' ≤ c && c ≤ 'f' then some (c.toNat - 'a'.toNat + 10)
  else if 'A' ≤ c && c ≤ 'F' then some (c.toNat - 'A'.toNat + 10)
  else none

/-- The character with a code in hexadecimal digits, if there is one: surrogates are not characters. -/
def charOfHex? (digits : List Char) : Option Char := do
  let values ← digits.mapM hexValue?
  let code := values.foldl (fun code value => 16 * code + value) 0
  if code.isValidChar then some (Char.ofNat code) else none

/-- The character that a letter stands for behind a backslash. -/
def escaped? : Char → Option Char
  | 'b' => some '\x08'
  | 't' => some '\t'
  | 'n' => some '\n'
  | 'f' => some '\x0c'
  | 'r' => some '\r'
  | '"' => some '"'
  | '\\' => some '\\'
  | _ => none

/-- The rest of a string in quotes; `read` holds what has been read, last character first. -/
def basicString (read : List Char) : List Char → Option (List Char × List Char)
  | [] => none
  | '"' :: rest => some (read.reverse, rest)
  | '\\' :: 'u' :: a :: b :: c :: d :: rest => do basicString ((← charOfHex? [a, b, c, d]) :: read) rest
  | '\\' :: 'U' :: a :: b :: c :: d :: e :: f :: g :: h :: rest => do
    basicString ((← charOfHex? [a, b, c, d, e, f, g, h]) :: read) rest
  | '\\' :: c :: rest => do basicString ((← escaped? c) :: read) rest
  | c :: rest => if isPrintable c && c != '\\' then basicString (c :: read) rest else none

/-- The rest of a string in apostrophes, in which nothing is escaped. -/
def literalString (read : List Char) : List Char → Option (List Char × List Char)
  | [] => none
  | '\'' :: rest => some (read.reverse, rest)
  | c :: rest => if isPrintable c then literalString (c :: read) rest else none

/-- Whether a line break is the next thing behind blanks: a backslash before it joins the lines. -/
def endsLine (chars : List Char) : Bool := (newline? (skipSpaces chars)).isSome

/-- The rest of a string of several lines in quotes. One or two quotes are part of it, also directly before the
three that end it. While lines are joined, blanks and line breaks are left out. -/
def longString (joining : Bool) (read : List Char) : List Char → Option (List Char × List Char)
  | [] => none
  | '"' :: '"' :: '"' :: '"' :: '"' :: rest => some (('"' :: '"' :: read).reverse, rest)
  | '"' :: '"' :: '"' :: '"' :: rest => some (('"' :: read).reverse, rest)
  | '"' :: '"' :: '"' :: rest => some (read.reverse, rest)
  | '\r' :: '\n' :: rest => longString joining (if joining then read else '\n' :: read) rest
  | '\n' :: rest => longString joining (if joining then read else '\n' :: read) rest
  | '\\' :: 'u' :: a :: b :: c :: d :: rest => do longString false ((← charOfHex? [a, b, c, d]) :: read) rest
  | '\\' :: 'U' :: a :: b :: c :: d :: e :: f :: g :: h :: rest => do
    longString false ((← charOfHex? [a, b, c, d, e, f, g, h]) :: read) rest
  | '\\' :: rest =>
    if endsLine rest then longString true read rest
    else match rest with
      | [] => none
      | c :: rest => do longString false ((← escaped? c) :: read) rest
  | c :: rest =>
    if joining && isSpace c then longString true read rest
    else if isPrintable c then longString false (c :: read) rest else none

/-- The rest of a string of several lines in apostrophes. -/
def longLiteral (read : List Char) : List Char → Option (List Char × List Char)
  | [] => none
  | '\'' :: '\'' :: '\'' :: '\'' :: '\'' :: rest => some (('\'' :: '\'' :: read).reverse, rest)
  | '\'' :: '\'' :: '\'' :: '\'' :: rest => some (('\'' :: read).reverse, rest)
  | '\'' :: '\'' :: '\'' :: rest => some (read.reverse, rest)
  | '\r' :: '\n' :: rest => longLiteral ('\n' :: read) rest
  | '\n' :: rest => longLiteral ('\n' :: read) rest
  | c :: rest => if isPrintable c then longLiteral (c :: read) rest else none

/-- A line break directly behind the opening quotes is not part of the string. -/
def skipNewline (chars : List Char) : List Char := (newline? chars).getD chars

def string? : List Char → Option (String × List Char)
  | '"' :: '"' :: '"' :: rest => (longString false [] (skipNewline rest)).map fun (s, r) => (String.ofList s, r)
  | '"' :: rest => (basicString [] rest).map fun (s, r) => (String.ofList s, r)
  | '\'' :: '\'' :: '\'' :: rest => (longLiteral [] (skipNewline rest)).map fun (s, r) => (String.ofList s, r)
  | '\'' :: rest => (literalString [] rest).map fun (s, r) => (String.ofList s, r)
  | _ => none

/-- Letters, digits, underscores and hyphens of ASCII make up a key without quotes. -/
def isKeyChar (c : Char) : Bool := c.isAlphanum || c == '_' || c == '-'

/-- One name of a key. -/
def simpleKey? (chars : List Char) : Option (String × List Char) :=
  match chars with
  | '"' :: rest => (basicString [] rest).map fun (s, r) => (String.ofList s, r)
  | '\'' :: rest => (literalString [] rest).map fun (s, r) => (String.ofList s, r)
  | chars =>
    let name := chars.takeWhile isKeyChar
    if name.isEmpty then none else some (String.ofList name, chars.dropWhile isKeyChar)

/-- The names of a key, divided by dots with blanks around them. It has fewer than `limit` names. -/
def key? : Nat → List Char → Option (List String × List Char)
  | 0, _ => none
  | limit + 1, chars => do
    let (name, rest) ← simpleKey? (skipSpaces chars)
    match skipSpaces rest with
    | '.' :: rest => (key? limit rest).map fun (names, rest) => (name :: names, rest)
    | rest => some ([name], rest)

/-- The digits behind the first one of a number; single underscores may stand between digits. -/
def moreDigits (isDigit : Char → Bool) : List Char → List Char × List Char
  | [] => ([], [])
  | '_' :: c :: rest =>
    if isDigit c then ((moreDigits isDigit rest).map (c :: ·) id) else ([], '_' :: c :: rest)
  | c :: rest => if isDigit c then ((moreDigits isDigit rest).map (c :: ·) id) else ([], c :: rest)

def digitRun? (isDigit : Char → Bool) : List Char → Option (List Char × List Char)
  | [] => none
  | c :: rest => if isDigit c then some ((moreDigits isDigit rest).map (c :: ·) id) else none

/-- A sign, if there is one. -/
def sign : List Char → List Char × List Char
  | '+' :: rest => (['+'], rest)
  | '-' :: rest => (['-'], rest)
  | chars => ([], chars)

/-- A whole number in decimal digits, which starts with zero only if it is zero. -/
def decimal? (chars : List Char) : Option (List Char × List Char) :=
  let (signed, rest) := sign chars
  match rest with
  | '0' :: rest => some (signed ++ ['0'], rest)
  | rest => (digitRun? Number.isDigit rest).map fun (digits, rest) => (signed ++ digits, rest)

def fraction? : List Char → Option (List Char × List Char)
  | '.' :: rest => (digitRun? Number.isDigit rest).map fun (digits, rest) => ('.' :: digits, rest)
  | _ => none

def exponent? : List Char → Option (List Char × List Char)
  | c :: rest =>
    if c == 'e' || c == 'E' then
      let (signed, rest) := sign rest
      (digitRun? Number.isDigit rest).map fun (digits, rest) => ('e' :: signed ++ digits, rest)
    else none
  | [] => none

/-- A number with a fraction or an exponent. One too great for a double is refused. -/
def number? (chars : List Char) : Option (Double × List Char) := do
  let (whole, rest) ← decimal? chars
  let (text, rest) ← (do
    let (behind, rest) ← fraction? rest
    match exponent? rest with
    | some (power, rest) => some (whole ++ behind ++ power, rest)
    | none => some (whole ++ behind, rest)) <|> (do
    let (power, rest) ← exponent? rest
    some (whole ++ power, rest))
  let value ← Number.read (String.ofList text)
  if value == Double.infinity then none else some (value, rest)

/-- The names of the values that are no numbers in digits. -/
def special? (chars : List Char) : Option (Double × List Char) :=
  let (signed, rest) := sign chars
  let value? : Option (Double × List Char) := match rest with
    | 'i' :: 'n' :: 'f' :: rest => some (Double.infinity, rest)
    | 'n' :: 'a' :: 'n' :: rest => some (Double.nan, rest)
    | _ => none
  value?.map fun (value, rest) => (if signed == ['-'] then value.negate else value, rest)

/-- Integers have 64 bits, one of them for the sign. -/
def inRange (value : Int) : Option Int :=
  if -0x8000000000000000 ≤ value && value < 0x8000000000000000 then some value else none

def radixValue? (radix : Nat) (digits : List Char) : Option Nat :=
  digits.foldl (fun value? c => do
    let value ← value?
    let digit ← hexValue? c
    if digit < radix then some (radix * value + digit) else none) (some 0)

def isRadixDigit (radix : Nat) (c : Char) : Bool := (hexValue? c).any (· < radix)

/-- A whole number in another radix, behind its mark. -/
def radix? (radix : Nat) (chars : List Char) : Option (Int × List Char) := do
  let (digits, rest) ← digitRun? (isRadixDigit radix) chars
  let value ← radixValue? radix digits
  return (← inRange value, rest)

def integer? : List Char → Option (Int × List Char)
  | '0' :: 'x' :: rest => radix? 16 rest
  | '0' :: 'o' :: rest => radix? 8 rest
  | '0' :: 'b' :: rest => radix? 2 rest
  | chars => do
    let (digits, rest) ← decimal? chars
    let value ← Number.readInteger digits
    return (← inRange value, rest)

/-- A number of exactly `count` digits that lies between two bounds. -/
def digitsBetween? (count low high : Nat) (chars : List Char) : Option (Nat × List Char) :=
  let digits := chars.take count
  let value := Number.digitsValue digits
  if digits.length == count && digits.all Number.isDigit && low ≤ value && value ≤ high then
    some (value, chars.drop count)
  else none

def expect? (c : Char) : List Char → Option (List Char)
  | first :: rest => if first == c then some rest else none
  | [] => none

def daysInMonth (year month : Nat) : Nat :=
  if month == 2 then if year % 4 == 0 && (year % 100 != 0 || year % 400 == 0) then 29 else 28
  else if month == 4 || month == 6 || month == 9 || month == 11 then 30
  else 31

/-- A date is taken off the front of a text. -/
def date? (chars : List Char) : Option (List Char) := do
  let (year, rest) ← digitsBetween? 4 0 9999 chars
  let (month, rest) ← digitsBetween? 2 1 12 (← expect? '-' rest)
  let (_, rest) ← digitsBetween? 2 1 (daysInMonth year month) (← expect? '-' rest)
  return rest

/-- A time of day is taken off the front of a text. -/
def time? (chars : List Char) : Option (List Char) := do
  let (_, rest) ← digitsBetween? 2 0 23 chars
  let (_, rest) ← digitsBetween? 2 0 59 (← expect? ':' rest)
  let (_, rest) ← digitsBetween? 2 0 60 (← expect? ':' rest)
  match rest with
  | '.' :: c :: behind => return if Number.isDigit c then behind.dropWhile Number.isDigit else rest
  | rest => return rest

/-- The distance of a time zone is taken off the front of a text. -/
def zone? : List Char → Option (List Char)
  | c :: rest => do
    if c == 'Z' || c == 'z' then return rest
    if c != '+' && c != '-' then none
    let (_, rest) ← digitsBetween? 2 0 23 rest
    let (_, rest) ← digitsBetween? 2 0 59 (← expect? ':' rest)
    return rest
  | [] => none

/-- A date, a time, or both are taken off the front of a text. -/
def datetime? (chars : List Char) : Option (List Char) :=
  match date? chars with
  | none => time? chars
  | some rest =>
    match rest with
    | mark :: behind =>
      if mark == 'T' || mark == 't' || mark == ' ' then
        match time? behind with
        | some rest => some ((zone? rest).getD rest)
        | none => some rest
      else some rest
    | [] => some []

end ChangeCoupling.Toml
