import ChangeCoupling.Number.Double

/-! Values of a TOML document. -/

namespace ChangeCoupling

namespace Toml

/-- How a table came about, which decides what may be added to it later on. -/
inductive TableKind where
  /-- Written between braces; nothing can be added. -/
  | inline
  /-- Opened by a header of its own. -/
  | header
  /-- On the way to the table of a longer header; it may still get a header of its own. -/
  | implicit
  /-- On the way to a dotted key; only further dotted keys add to it. -/
  | dotted
  deriving DecidableEq

end Toml

/-- A value. Of a date or time only its presence is kept. -/
inductive Toml where
  | string (value : String)
  | integer (value : Int)
  | float (value : Double)
  | boolean (value : Bool)
  | datetime
  | array (values : List Toml)
  | table (kind : Toml.TableKind) (entries : List (String × Toml))
  /-- The tables that headers in double brackets have opened under one name. -/
  | tables (elements : List (List (String × Toml)))

namespace Toml

/-- The keys of a table with their values. No key occurs twice. -/
abbrev Entries := List (String × Toml)

/-- The entries with a new value for a key, which is added at the end if it is not there. -/
def setEntry (key : String) (value : Toml) : Entries → Entries
  | [] => [(key, value)]
  | (other, old) :: rest => if other == key then (key, value) :: rest else (other, old) :: setEntry key value rest

def eraseEntry (key : String) (entries : Entries) : Entries := entries.filter fun entry => entry.1 != key

/-- Puts a value under a key that is not taken. -/
def addEntry (key : String) (value : Toml) (entries : Entries) : Option Entries :=
  if (entries.lookup key).isSome then none else some (entries ++ [(key, value)])

/-- Replaces the last of a list. -/
def editLast (edit : α → Option α) : List α → Option (List α)
  | [] => none
  | [last] => (edit last).map ([·])
  | first :: rest => (editLast edit rest).map (first :: ·)

/-- Edits the table at the end of a path, opening the tables on the way that are not there. Values and inline tables
stand in the way, and so do tables with a header of their own if the path is that of a dotted key. Of the tables
under a name in double brackets the last one is meant. -/
def editAt (dotted : Bool) (edit : TableKind → Entries → Option Entries) :
    List String → TableKind → Entries → Option Entries
  | [], kind, entries => edit kind entries
  | key :: path, _, entries =>
    match entries.lookup key with
    | none =>
      let kind := if dotted then TableKind.dotted else TableKind.implicit
      (editAt dotted edit path kind []).map fun inner => entries ++ [(key, table kind inner)]
    | some (table kind inner) =>
      if kind = .inline || (dotted && kind = .header) then none
      else (editAt dotted edit path kind inner).map fun edited => setEntry key (table kind edited) entries
    | some (tables elements) =>
      (editLast (editAt dotted edit path .header) elements).map fun edited => setEntry key (tables edited) entries
    | some _ => none

/-- Puts a value under a key of a table, given the names before it in a dotted key. A dotted key ends in a table that
dotted keys have opened, a plain key in one that they have not. -/
def addPair (path : List String) (key : String) (value : Toml) (kind : TableKind) (entries : Entries) :
    Option Entries :=
  editAt true (fun inner old =>
    if (inner == .dotted) == path.isEmpty then none else addEntry key value old) path kind entries

end Toml

end ChangeCoupling
