/-! Paths as they are written: names divided by slashes. A path that starts with a slash is absolute. -/

namespace ChangeCoupling.Path

/-- The texts between the slashes of a path. -/
def parts (path : String) : List String := (path.toList.splitOn '/').map String.ofList

def ofParts (parts : List String) : String := "/".intercalate parts

def isAbsolute (path : String) : Bool := path.toList.head? == some '/'

/-- The path of something inside a directory. No directory is the same as the current one. -/
def join (directory name : String) : String :=
  if directory.isEmpty || directory.toList.getLast? == some '/' then directory ++ name else directory ++ "/" ++ name

/-- A path without the slashes at its end, except for the root, which is nothing but a slash. -/
def withoutFinalSlashes (path : String) : String :=
  let kept := (path.toList.reverse.dropWhile (· == '/')).reverse
  if kept.isEmpty && isAbsolute path then "/" else String.ofList kept

/-- Parts that lead nowhere else: two slashes in a row are the same as one, and a dot is the directory itself. -/
def staysPut (part : String) : Bool := part.isEmpty || part == "."

/-- The parts of a path without those at its end that lead nowhere else. The first part is kept, since it tells
where the path starts. -/
def significant : List String → List String
  | [] => []
  | first :: rest => first :: (rest.reverse.dropWhile staysPut).reverse

/-- The path of the directory that a path is in. For a single name this is the empty path; the root and the empty
path are in no directory. -/
def parent? (path : String) : Option String :=
  match significant (parts path) with
  | [] => none
  | [first] => if first.isEmpty then none else some ""
  | first :: rest =>
    let kept := significant (first :: rest.dropLast)
    some (if kept = [""] then "/" else ofParts kept)

/-- The name at the end of a path, if it ends in one. -/
def fileName? (path : String) : Option String :=
  ((significant (parts path)).getLast?).filter fun last => !(staysPut last || last == "..")

/-- The given number of paths that lead from the one before the outermost directory down to a path. -/
def ancestorsFrom : Nat → String → List String
  | 0, _ => []
  | fuel + 1, path => match parent? path with
    | none => []
    | some parent => ancestorsFrom fuel parent ++ [path]

/-- A path and those of the directories that it is in, the outermost first. A parent is shorter than its path, so
there are no more of them than characters. -/
def ancestors (path : String) : List String := ancestorsFrom path.length path

end ChangeCoupling.Path
