import ChangeCoupling.Command.Problem
import ChangeCoupling.FileSystem

/-! What a command does to the file system, as data. -/

namespace ChangeCoupling

inductive Effect where
  /-- Make a directory and those that it is in. -/
  | makeDirectories (path : String)
  | write (path text : String)
  deriving DecidableEq

/-- The files after an effect, and the problem if it was not possible. -/
def Effect.perform (files : FileSystem) : Effect → FileSystem × Option Problem
  | makeDirectories path => match files.makeDirectories path with
    | (next, none) => (next, none)
    | (next, some _) => (next, some (.directory path))
  | write path text => match files.write path text with
    | .ok next => (next, none)
    | .error fault => (files, some (.failure (.file fault)))

end ChangeCoupling
