import ChangeCoupling.Number.Format

/-! JSON documents and their text, on one line or indented. The members of an object keep their order. -/

namespace ChangeCoupling.Text

inductive Json where
  | null
  | count (value : Nat)
  | number (value : Double)
  | string (value : String)
  | array (values : List Json)
  | object (members : List (String × Json))

namespace Json

def hexDigit (value : Nat) : Char := (Nat.toDigits 16 value).headD '0'

/-- Inside a string only quotes, backslashes and control characters are written in another way. -/
def escapeChar (c : Char) : List Char :=
  match c with
  | '"' => ['\\', '"']
  | '\\' => ['\\', '\\']
  | '\n' => ['\\', 'n']
  | '\r' => ['\\', 'r']
  | '\t' => ['\\', 't']
  | '\x08' => ['\\', 'b']
  | '\x0c' => ['\\', 'f']
  | c =>
    if c.toNat < 0x20 then ['\\', 'u', '0', '0', hexDigit (c.toNat / 16), hexDigit (c.toNat % 16)] else [c]

def quote (value : String) : String := String.ofList ('"' :: value.toList.flatMap escapeChar ++ ['"'])

mutual

/-- The text of a document on one line, without blanks. -/
def compact : Json → String
  | null => "null"
  | count value => value.repr
  | number value => Number.json value
  | string value => quote value
  | array values => "[" ++ ",".intercalate (compactList values) ++ "]"
  | object members => "\x7b" ++ ",".intercalate (compactMembers members) ++ "\x7d"

def compactList : List Json → List String
  | [] => []
  | value :: rest => value.compact :: compactList rest

def compactMembers : List (String × Json) → List String
  | [] => []
  | (name, value) :: rest => (quote name ++ ":" ++ value.compact) :: compactMembers rest

end

/-- The parts of an array or an object, each on a line of its own that is two blanks further in than the brackets
around them. Brackets around nothing stay on one line. -/
def block (opening closing : String) (indent : String) (parts : List String) : String :=
  if parts.isEmpty then opening ++ closing
  else opening ++ "\n" ++ indent ++ "  " ++ (",\n" ++ indent ++ "  ").intercalate parts ++ "\n" ++ indent ++ closing

mutual

/-- The text of a document with every value on a line of its own, as it stands behind the given blanks. -/
def indented (indent : String) : Json → String
  | null => "null"
  | count value => value.repr
  | number value => Number.json value
  | string value => quote value
  | array values => block "[" "]" indent (indentedList (indent ++ "  ") values)
  | object members => block "\x7b" "\x7d" indent (indentedMembers (indent ++ "  ") members)

def indentedList (indent : String) : List Json → List String
  | [] => []
  | value :: rest => value.indented indent :: indentedList indent rest

def indentedMembers (indent : String) : List (String × Json) → List String
  | [] => []
  | (name, value) :: rest => (quote name ++ ": " ++ value.indented indent) :: indentedMembers indent rest

end

/-- The text of a document with every value on a line of its own. -/
def pretty (document : Json) : String := document.indented ""

def ofList (encode : α → Json) (values : List α) : Json := array (values.map encode)

def ofOption (encode : α → Json) : Option α → Json
  | none => null
  | some value => encode value

end Json

end ChangeCoupling.Text
