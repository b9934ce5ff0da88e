import ChangeCoupling.Command.Effect
import ChangeCoupling.Commit

/-! Scripts: what a command asks for and does, one step after the other, in whatever order, until it ends in a value or
a problem. Where the history of a repository comes from is left open. -/

namespace ChangeCoupling

inductive Script (α : Type) where
  | done (value : α)
  | fail (problem : Problem)
  /-- Asks for the text of a file. -/
  | read (path : String) (next : Except FileFault String → Script α)
  /-- Asks whether there is anything at a path. -/
  | probe (path : String) (next : Bool → Script α)
  /-- Asks for the commits of a repository. -/
  | history (path : String) (branch? : Option String) (maxFiles? : Option Nat)
    (next : Except RepositoryFault (List Commit) → Script α)
  /-- Does something to the files. The script ends there if this is not possible. -/
  | perform (effect : Effect) (next : Script α)

namespace Script

def bind : Script α → (α → Script β) → Script β
  | done value, rest => rest value
  | fail problem, _ => fail problem
  | read path next, rest => read path fun answer => (next answer).bind rest
  | probe path next, rest => probe path fun answer => (next answer).bind rest
  | history path branch? maxFiles? next, rest =>
    history path branch? maxFiles? fun answer => (next answer).bind rest
  | perform effect next, rest => perform effect (next.bind rest)

instance : Monad Script where
  pure := done
  bind := bind

def ofExcept : Except Failure α → Script α
  | .ok value => done value
  | .error failure => fail (.failure failure)

/-- The text of a file that has to be there. -/
def readText (path : String) : Script String :=
  read path fun answer => ofExcept (answer.mapError (Failure.ofRead path))

/-- The commits of a repository. -/
def readHistory (path : String) (branch? : Option String) (maxFiles? : Option Nat) : Script (List Commit) :=
  history path branch? maxFiles? fun answer => ofExcept (answer.mapError Failure.repository)

/-- Makes a directory and those that it is in. No path at all is that of the current directory. -/
def ensureDirectory (path : String) : Script Unit :=
  if path.isEmpty then done () else perform (.makeDirectories path) (done ())

/-- Makes the directory for a file that will be written. -/
def ensureParent (path : String) : Script Unit :=
  match Path.parent? path with
  | none => done ()
  | some parent => ensureDirectory parent

def write (path text : String) : Script Unit := perform (.write path text) (done ())

/-- Writes one text after the other, each to its path. -/
def writeAll : List (String × String) → Script Unit
  | [] => done ()
  | (path, text) :: rest => perform (.write path text) (writeAll rest)

end Script

/-- How the commits of a repository are found, given the files, the path of the repository, the branch and the greatest
number of files in a commit. -/
abbrev HistoryReader := FileSystem → String → Option String → Option Nat → Except RepositoryFault (List Commit)

/-- The files after a script, and what it comes to. -/
def Script.run (history : HistoryReader) : FileSystem → Script α → FileSystem × Except Problem α
  | files, done value => (files, .ok value)
  | files, fail problem => (files, .error problem)
  | files, read path next => run history files (next (files.read path))
  | files, probe path next => run history files (next (files.occupied path))
  | files, .history path branch? maxFiles? next => run history files (next (history files path branch? maxFiles?))
  | files, perform effect next => match effect.perform files with
    | (after, none) => run history after next
    | (after, some problem) => (after, .error problem)

end ChangeCoupling
