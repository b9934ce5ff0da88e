import ChangeCoupling.History.Delta
import Std.Data.TreeMap

/-! Trees of files as they are kept under version control, and the deltas between two of them. -/

namespace ChangeCoupling

structure TrackedFile where
  content : ByteArray
  executable : Bool := false

/-- Contents are compared byte by byte. -/
def TrackedFile.sameContent (first second : TrackedFile) : Bool := first.content.data == second.content.data

def TrackedFile.same (first second : TrackedFile) : Bool :=
  first.sameContent second && first.executable == second.executable

/-- The files of a revision by their paths. -/
abbrev FileTree := Std.TreeMap String TrackedFile

/-- Puts a byte before some lines. A line feed ends the line that it is in. -/
def addByte (byte : UInt8) : List (List UInt8) → List (List UInt8)
  | [] => [[byte]]
  | line :: lines => if byte = 10 then [byte] :: line :: lines else (byte :: line) :: lines

/-- The lines of a text, each with the line feed at its end. -/
def lineBytes (bytes : List UInt8) : List (List UInt8) := bytes.foldr addByte []

/-- Content with a zero byte is not text and has no lines to compare. -/
def isBinary (content : ByteArray) : Bool := content.toList.contains 0

/-- What happens to the lines of a file when its content is replaced. -/
def lineEvents (old new : ByteArray) : List LineEvent :=
  if isBinary old || isBinary new then []
  else (EditScript.shortest (lineBytes old.toList) (lineBytes new.toList)).events

namespace FileTree

/-- The deltas of the files that have been added and removed. A file that was added with the content of one that
was removed is the same file under a new name. -/
def moves : List (String × TrackedFile) → List (String × TrackedFile) → List FileDelta
  | [], removed => removed.map fun (path, file) => ⟨none, some path, lineEvents file.content .empty⟩
  | (path, file) :: added, removed =>
    match removed.find? (·.2.sameContent file) with
    | some source =>
      ⟨some path, some source.1, lineEvents source.2.content file.content⟩ ::
        moves added (removed.eraseP (·.1 == source.1))
    | none => ⟨some path, none, lineEvents .empty file.content⟩ :: moves added removed

/-- The deltas from one tree to another, in the order of the paths. -/
def deltas (old new : FileTree) : List FileDelta :=
  let added := new.toList.filter fun (path, _) => !old.contains path
  let removed := old.toList.filter fun (path, _) => !new.contains path
  let edited := new.toList.filterMap fun (path, file) =>
    match old[path]? with
    | none => none
    | some before =>
      if before.same file then none else some ⟨some path, some path, lineEvents before.content file.content⟩
  (moves added removed ++ edited).mergeSort fun first second => first.path?.getD "" ≤ second.path?.getD ""

end FileTree

end ChangeCoupling
