import ChangeCoupling.CommandLine.Run

/-! The program. What scripts ask for comes from the disk, and their effects take place there. Repositories on the
disk are not read: every one counts as one that cannot be opened, so the command that extracts a history always ends
with that problem here. -/

namespace ChangeCoupling

def FileFault.ofError : IO.Error → FileFault
  | .noFileOrDirectory .. => .notFound
  | .permissionDenied .. => .permissionDenied
  | .alreadyExists .. => .alreadyExists
  | .inappropriateType _ code _ => if code = 21 then .isDirectory else .notDirectory
  | .invalidArgument _ 36 _ => .nameTooLong
  | .invalidArgument _ 40 _ => .tooManyLinks
  | error => .other (toString error)

namespace Disk

/-- Does something with a path, unless it cannot be followed. -/
def attempt (path : String) (action : IO α) : IO (Except FileFault α) := do
  if let some fault := FileSystem.pathFault? path then return .error fault
  try
    return .ok (← action)
  catch error => return .error (.ofError error)

def read (path : String) : IO (Except FileFault String) := do
  match ← attempt path (IO.FS.readBinFile path) with
  | .error fault => return .error fault
  | .ok content => match String.fromUTF8? content with
    | some text => return .ok text
    | none => return .error .notText

/-- A file that cannot be read is there all the same. -/
def occupied (path : String) : IO Bool := do
  match ← attempt path (IO.FS.realPath path) with
  | .error _ => return false
  | .ok _ => return true

def perform : Effect → IO (Option Problem)
  | .makeDirectories path => do
    match ← attempt path (IO.FS.createDirAll path) with
    | .error _ => return some (.directory path)
    | .ok _ => return none
  | .write path text => do
    match ← attempt path (IO.FS.writeBinFile path text.toUTF8) with
    | .error fault => return some (.failure (.file fault))
    | .ok _ => return none

def run : Script α → IO (Except Problem α)
  | .done value => return .ok value
  | .fail problem => return .error problem
  | .read path next => do run (next (← read path))
  | .probe path next => do run (next (← occupied path))
  | .history _ _ _ next => run (next (.error .notOpened))
  | .perform effect next => do
    match ← perform effect with
    | none => run next
    | some problem => return .error problem

end Disk

end ChangeCoupling

open ChangeCoupling in
def main (arguments : List String) : IO UInt32 := do
  let status ← match CommandLine.Request.read arguments with
    | none => pure .misuse
    | some request => CommandLine.Status.ofResult <$> Disk.run (request.script Settings.read)
  match status with
  | .success output => IO.print output
  | .problem cause =>
    IO.eprintln ("Error: " ++ cause.message)
    if let some help := cause.help? then IO.eprintln ("help: " ++ help)
  | .misuse => IO.eprintln "error: the command line cannot be understood"
  return status.code.toUInt32
