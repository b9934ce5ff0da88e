import ChangeCoupling.Toml.Word

/-! TOML documents, version 1.0. A document is the table of its entries; whatever breaks a rule of the language makes
the whole document unreadable. -/

namespace ChangeCoupling.Toml

/-- A number, a date or one of the names that stand for values. -/
def scalar? (chars : List Char) : Option (Toml × List Char) :=
  match chars with
  | 't' :: 'r' :: 'u' :: 'e' :: rest => some (.boolean true, rest)
  | 'f' :: 'a' :: 'l' :: 's' :: 'e' :: rest => some (.boolean false, rest)
  | chars =>
    (datetime? chars).map (fun rest => (.datetime, rest)) <|>
    (number? chars).map (fun (value, rest) => (.float value, rest)) <|>
    (special? chars).map (fun (value, rest) => (.float value, rest)) <|>
    (integer? chars).map fun (value, rest) => (.integer value, rest)

/-- Values in brackets nest less deep than this, and a key has fewer names. -/
def maxDepth : Nat := 80

mutual

/-- The value at the front of a text. Brackets may be opened `depth` more times, and `fuel` bounds the number of
values that are read. -/
def value? (depth : Nat) : Nat → List Char → Option (Toml × List Char)
  | 0, _ => none
  | fuel + 1, chars =>
    match chars with
    | '"' :: _ => (string? chars).map fun (text, rest) => (.string text, rest)
    | '\'' :: _ => (string? chars).map fun (text, rest) => (.string text, rest)
    | '[' :: rest =>
      if depth = 0 then none
      else (arrayValues? (depth - 1) fuel [] (skipLines rest.length rest)).map fun (values, rest) =>
        (.array values, rest)
    | '{' :: rest =>
      if depth = 0 then none
      else match skipSpaces rest with
        | '}' :: rest => some (.table .inline [], rest)
        | rest => (inlinePairs? (depth - 1) fuel [] rest).map fun (entries, rest) => (.table .inline entries, rest)
    | chars => scalar? chars

/-- The rest of an array, of which `read` holds the values that have been read, last one first. A comma may follow
the last value, and lines may be broken everywhere. -/
def arrayValues? (depth : Nat) : Nat → List Toml → List Char → Option (List Toml × List Char)
  | 0, _, _ => none
  | fuel + 1, read, chars =>
    match chars with
    | ']' :: rest => some (read.reverse, rest)
    | chars => do
      let (value, rest) ← value? depth fuel chars
      match skipLines rest.length rest with
      | ',' :: rest => arrayValues? depth fuel (value :: read) (skipLines rest.length rest)
      | ']' :: rest => some ((value :: read).reverse, rest)
      | _ => none

/-- The rest of an inline table behind the given entries. It stays on one line, and no comma follows the last
entry. -/
def inlinePairs? (depth : Nat) : Nat → Entries → List Char → Option (Entries × List Char)
  | 0, _, _ => none
  | fuel + 1, entries, chars => do
    let (names, rest) ← key? (maxDepth - 1) chars
    let (value, rest) ← value? depth fuel (skipSpaces (← expect? '=' rest))
    let edited ← addPair names.dropLast (names.getLastD "") value .inline entries
    match skipSpaces rest with
    | ',' :: rest => inlinePairs? depth fuel edited rest
    | '}' :: rest => some (edited, rest)
    | _ => none

end

/-- A document of which a part has been read. The table under way is kept apart from the others until the next
header. -/
structure Builder where
  root : Entries := []
  /-- The names in the header of the table under way; none at the start of the document. -/
  path : List String := []
  /-- Whether that header has double brackets. -/
  isElement : Bool := false
  current : Entries := []

namespace Builder

/-- Puts the table under way into its place. -/
def close (builder : Builder) : Option Entries :=
  match builder.path.getLast? with
  | none => some builder.current
  | some name =>
    editAt false (fun _ entries =>
      if builder.isElement then
        match entries.lookup name with
        | some (.tables elements) => some (setEntry name (.tables (elements ++ [builder.current])) entries)
        | _ => none
      else addEntry name (.table .header builder.current) entries) builder.path.dropLast .header builder.root

/-- The entries of the table at the end of a path. -/
def entriesAt : List String → Entries → Entries
  | [], entries => entries
  | key :: path, entries =>
    match entries.lookup key with
    | some (.table _ inner) => entriesAt path inner
    | some (.tables elements) => entriesAt path (elements.getLastD [])
    | _ => []

/-- Opens the table of a header. It may be there already if it was only on the way to others. -/
def openTable (builder : Builder) (path : List String) : Option Builder := do
  let root ← builder.close
  let name := path.getLastD ""
  let opened ← editAt false (fun _ entries =>
    match entries.lookup name with
    | none => some entries
    | some (.table .implicit _) => some entries
    | some _ => none) path.dropLast .header root
  let found := entriesAt path opened
  let cleared ← editAt false (fun _ entries => some (eraseEntry name entries)) path.dropLast .header opened
  return { root := cleared, path, current := found }

/-- Opens a further table under the name in a header with double brackets. -/
def openElement (builder : Builder) (path : List String) : Option Builder := do
  let root ← builder.close
  let name := path.getLastD ""
  let opened ← editAt false (fun _ entries =>
    match entries.lookup name with
    | none => some (entries ++ [(name, .tables [])])
    | some (.tables _) => some entries
    | some _ => none) path.dropLast .header root
  return { root := opened, path, isElement := true, current := [] }

/-- Puts a value into the table under way. -/
def addValue (builder : Builder) (names : List String) (value : Toml) : Option Builder :=
  (addPair names.dropLast (names.getLastD "") value .header builder.current).map fun current =>
    { builder with current }

end Builder

/-- A header up to the end of its line. -/
def header? (builder : Builder) (chars : List Char) : Option (Builder × List Char) :=
  match chars with
  | '[' :: rest => do
    let (names, rest) ← key? (maxDepth - 1) rest
    let rest ← endOfLine? (← expect? ']' (← expect? ']' rest))
    return (← builder.openElement names, rest)
  | chars => do
    let (names, rest) ← key? (maxDepth - 1) chars
    let rest ← endOfLine? (← expect? ']' rest)
    return (← builder.openTable names, rest)

/-- A key and its value up to the end of their line. -/
def pair? (builder : Builder) (chars : List Char) : Option (Builder × List Char) := do
  let (names, rest) ← key? (maxDepth - 1) chars
  let rest := skipSpaces (← expect? '=' rest)
  let (value, rest) ← value? (maxDepth - 1) (rest.length + 1) rest
  let rest ← endOfLine? rest
  return (← builder.addValue names value, rest)

/-- The rest of a document, line by line; `limit` bounds the number of lines. -/
def document? : Nat → Builder → List Char → Option Entries
  | 0, _, _ => none
  | limit + 1, builder, chars =>
    match skipSpaces chars with
    | [] => builder.close
    | '[' :: rest => do
      let (builder, rest) ← header? builder rest
      document? limit builder rest
    | c :: rest =>
      if c == '#' || c == '\n' || c == '\r' then do document? limit builder (← endOfLine? (c :: rest))
      else do
        let (builder, rest) ← pair? builder (c :: rest)
        document? limit builder rest

/-- The entries of a document. One byte order mark may stand before it. -/
def read (text : String) : Option Entries :=
  let chars := match text.toList with
    | '\uFEFF' :: rest => rest
    | chars => chars
  document? (chars.length + 1) {} chars

end ChangeCoupling.Toml
