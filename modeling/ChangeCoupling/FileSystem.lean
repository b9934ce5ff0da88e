import ChangeCoupling.Failure
import ChangeCoupling.Path
import Std.Data.HashMap

/-! A file system: directories, files and symbolic links at their locations. A path is followed one name at a time,
through links wherever they are, and every directory on the way has to be there. What a file holds is stored under a
number, so that several names can stand for one file. Each file and directory says whether it can be read and written;
if not, the attempt ends in a fault. Devices and pipes are left out, as are names that are no text, and a write takes
place as a whole or not at all. -/

namespace ChangeCoupling

/-- The names that lead to a file or directory, the innermost first. The root has none. -/
abbrev Location := List String

/-- The faults that keep a file or directory from being read and from being written. To read a directory is to look up
a name in it, and to write it is to make something in it. -/
structure Access where
  readFault? : Option FileFault := none
  writeFault? : Option FileFault := none

structure StoredFile where
  content : ByteArray
  access : Access := {}

/-- What is at a location. A file is given by the number that it is stored under. -/
inductive Node where
  | directory (access : Access)
  | file (number : Nat)
  | link (target : String)

structure FileSystem where
  nodes : Std.HashMap Location Node := ∅
  /-- The files by their numbers. -/
  stored : Array StoredFile := #[]
  rootAccess : Access := {}
  /-- The directory that relative paths start from. -/
  current : Location := []
  /-- Every file that has a name is stored. -/
  isStored : ∀ (location : Location) (number : Nat), nodes[location]? = some (.file number) → number < stored.size := by
    simp only [Std.HashMap.getElem?_empty, reduceCtorEq, false_implies, implies_true]

namespace FileSystem

def node? (files : FileSystem) (location : Location) : Option Node :=
  if location.isEmpty then some (.directory files.rootAccess) else files.nodes[location]?

/-- Puts a node to a location. If it is a file, then that is stored already. -/
def put (files : FileSystem) (location : Location) (node : Node)
    (isStored : ∀ number, node = .file number → number < files.stored.size) : FileSystem :=
  { files with
    nodes := files.nodes.insert location node
    isStored := by
      intro other number found
      rw [Std.HashMap.getElem?_insert] at found
      split at found
      · exact isStored number (Option.some.inj found)
      · exact files.isStored other number found }

def putDirectory (files : FileSystem) (location : Location) : FileSystem :=
  files.put location (.directory {}) fun _ isFile => Node.noConfusion isFile

/-- Stores a file under the next number. It has no name yet. -/
def store (files : FileSystem) (file : StoredFile) : FileSystem :=
  { files with
    stored := files.stored.push file
    isStored := fun location number found => by
      rw [Array.size_push]
      exact Nat.lt_succ_of_lt (files.isStored location number found) }

/-- Makes a new file. -/
def create (files : FileSystem) (location : Location) (file : StoredFile) : FileSystem :=
  (files.store file).put location (.file files.stored.size) fun number isFile => by
    cases isFile
    simp [store]

/-- Replaces what a file holds. -/
def overwrite (files : FileSystem) (number : Nat) (content : ByteArray) : FileSystem :=
  { files with
    stored := files.stored.modify number fun file => { file with content }
    isStored := fun location other found => by
      rw [Array.size_modify]
      exact files.isStored location other found }

/-- The greatest number of bytes in a name. -/
def maxNameSize : Nat := 255

/-- The greatest number of bytes in a path. -/
def maxPathSize : Nat := 4095

/-- The greatest number of links that are followed for one path. -/
def maxLinks : Nat := 40

/-- Why a path cannot be followed, whatever files there are. -/
def pathFault? (path : String) : Option FileFault :=
  if path.toList.contains '\x00' then some .zeroInPath
  else if maxPathSize < path.utf8ByteSize then some .nameTooLong
  else if path.isEmpty then some .notFound
  else none

/-- Where a part of a path leads from a directory. -/
def step (location : Location) (part : String) : Except FileFault Location :=
  if Path.staysPut part then .ok location
  else if part == ".." then .ok location.tail
  else if maxNameSize < part.utf8ByteSize then .error .nameTooLong
  else .ok (part :: location)

/-- Where a part of a path leads from a location, which has to be a directory. An empty part is not looked up. -/
def look (files : FileSystem) (location : Location) (part : String) : Except FileFault Location :=
  match files.node? location with
  | none => .error .notFound
  | some (.directory access) =>
    if part.isEmpty then .ok location
    else match access.readFault? with
      | some fault => .error fault
      | none => step location part
  | some _ => .error .notDirectory

/-- The location that a path starts from, seen from a directory. -/
def origin (directory : Location) (path : String) : Location := if Path.isAbsolute path then [] else directory

/-- Follows parts up to the first link. From there `onward` follows the parts of its target and those that are left. -/
def walkWith (files : FileSystem) (onward : Location → List String → Except FileFault Location) :
    Location → List String → Except FileFault Location
  | location, [] => .ok location
  | location, part :: rest => match files.look location part with
    | .error fault => .error fault
    | .ok next => match files.node? next with
      | some (.link target) => match pathFault? target with
        | some fault => .error fault
        | none => onward (origin location target) (Path.parts target ++ rest)
      | _ => files.walkWith onward next rest

/-- Follows the parts of a path, and up to the given number of links. What the last part names need not exist. -/
def walk (files : FileSystem) : Nat → Location → List String → Except FileFault Location
  | 0 => files.walkWith fun _ _ => .error .tooManyLinks
  | links + 1 => files.walkWith (files.walk links)

/-- The directory that the first part of a path is looked for in. -/
def start (files : FileSystem) (path : String) : Location := origin files.current path

/-- The location that a path stands for. -/
def locate (files : FileSystem) (path : String) : Except FileFault Location :=
  match pathFault? path with
  | some fault => .error fault
  | none => files.walk maxLinks (files.start path) (Path.parts path)

/-- The location of the directory that the last part of a path is looked for in, which has to be there. -/
def locateParent (files : FileSystem) (path : String) : Except FileFault Location :=
  match pathFault? path with
  | some fault => .error fault
  | none => files.walk maxLinks (files.start path) ((Path.parts (Path.withoutFinalSlashes path)).dropLast ++ ["."])

/-- The location of what a path names, which is not followed if it is a link. -/
def locateEntry (files : FileSystem) (path : String) : Except FileFault Location :=
  match pathFault? path with
  | some fault => .error fault
  | none => match files.walk maxLinks (files.start path) (Path.parts path).dropLast with
    | .error fault => .error fault
    | .ok home => files.look home ((Path.parts path).getLastD "")

/-- Whether there is a file or directory at a path. -/
def occupied (files : FileSystem) (path : String) : Bool :=
  match files.locate path with
  | .error _ => false
  | .ok location => (files.node? location).isSome

/-- Whether a path leads to a directory. -/
def isDirectory (files : FileSystem) (path : String) : Bool :=
  match files.locate path with
  | .error _ => false
  | .ok location => match files.node? location with
    | some (.directory _) => true
    | _ => false

/-- The file that a path leads to. A path never leads to a link. -/
def fileAt (files : FileSystem) (path : String) : Except FileFault Nat :=
  match files.locate path with
  | .error fault => .error fault
  | .ok location => match files.node? location with
    | none => .error .notFound
    | some (.directory _) => .error .isDirectory
    | some (.link _) => .error .tooManyLinks
    | some (.file number) => .ok number

/-- The text of a file. -/
def read (files : FileSystem) (path : String) : Except FileFault String :=
  match files.fileAt path with
  | .error fault => .error fault
  | .ok number => match files.stored[number]? with
    | none => .error .notFound
    | some file => match file.access.readFault? with
      | some fault => .error fault
      | none => match String.fromUTF8? file.content with
        | none => .error .notText
        | some text => .ok text

/-- Why a file cannot be written. -/
def writeFault? (files : FileSystem) (number : Nat) : Option FileFault :=
  files.stored[number]?.bind (·.access.writeFault?)

/-- Why nothing can be made at a location: its directory may not be written. -/
def makeFault? (files : FileSystem) (location : Location) : Option FileFault :=
  match files.node? location.tail with
  | some (.directory access) => access.writeFault?
  | _ => some .notFound

/-- Makes a file or replaces its content. A path with a slash at its end can only be that of a directory, whatever
its last name is. -/
def writeBytes (files : FileSystem) (path : String) (content : ByteArray) : Except FileFault FileSystem :=
  if Path.withoutFinalSlashes path ≠ path then
    match files.locateParent path with
    | .error fault => .error fault
    | .ok _ => .error .isDirectory
  else match files.locate path with
    | .error fault => .error fault
    | .ok location => match files.node? location with
      | some (.directory _) => .error .isDirectory
      | some (.link _) => .error .tooManyLinks
      | some (.file number) => match files.writeFault? number with
        | some fault => .error fault
        | none => .ok (files.overwrite number content)
      | none => match files.makeFault? location with
        | some fault => .error fault
        | none => .ok (files.create location { content })

def write (files : FileSystem) (path text : String) : Except FileFault FileSystem :=
  files.writeBytes path text.toUTF8

/-- Makes a directory, unless it is there already. -/
def makeDirectory (files : FileSystem) (path : String) : Except FileFault FileSystem :=
  match files.locateEntry (Path.withoutFinalSlashes path) with
  | .error fault => .error fault
  | .ok location => match files.node? location with
    | none => match files.makeFault? location with
      | some fault => .error fault
      | none => .ok (files.putDirectory location)
    | some _ => if files.isDirectory path then .ok files else .error .alreadyExists

/-- Makes one directory after the other. The first fault ends this, but what has been made until then stays. -/
def makeEach : FileSystem → List String → FileSystem × Option FileFault
  | files, [] => (files, none)
  | files, path :: rest => match files.makeDirectory path with
    | .error fault => (files, some fault)
    | .ok next => makeEach next rest

/-- Makes a directory and those that it is in. If its path cannot be followed, none is made. -/
def makeDirectories (files : FileSystem) (path : String) : FileSystem × Option FileFault :=
  match pathFault? path with
  | some fault => (files, some fault)
  | none => files.makeEach (Path.ancestors path)

end FileSystem

end ChangeCoupling
