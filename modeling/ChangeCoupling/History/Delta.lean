import ChangeCoupling.Commit
import ChangeCoupling.History.LineDiff

/-! The differences between two trees of files, and the changes of files that they amount to. Several deltas may
concern the same path, for instance when a file is deleted and another one takes its place. -/

namespace ChangeCoupling

/-- The difference of one file: where it was, where it is now, and what happened to its lines. -/
structure FileDelta where
  newPath? : Option String
  oldPath? : Option String
  events : List LineEvent
  deriving DecidableEq

namespace FileDelta

/-- The path that a delta is counted for: the new one, or the old one if there is no new one. An empty path is
none. -/
def path? (delta : FileDelta) : Option String :=
  (delta.newPath? <|> delta.oldPath?).filter (!·.isEmpty)

/-- Puts the path of a delta at the end of those met so far, unless it is among them. -/
def addPath (met : Array String) (delta : FileDelta) : Array String :=
  match delta.path? with
  | none => met
  | some path => if met.contains path then met else met.push path

/-- The numbers of lines added and deleted, by path. -/
abbrev LineCounts := Std.HashMap String (Nat × Nat)

def LineCounts.addEvent (path : String) (counts : LineCounts) (event : LineEvent) : LineCounts :=
  let (added, deleted) := counts.getD path (0, 0)
  match event with
  | .kept => counts.insert path (added, deleted)
  | .added => counts.insert path (added + 1, deleted)
  | .deleted => counts.insert path (added, deleted + 1)

/-- Counts the lines of a delta for its path. -/
def LineCounts.add (counts : LineCounts) (delta : FileDelta) : LineCounts :=
  match delta.path? with
  | none => counts
  | some path => delta.events.foldl (addEvent path) counts

/-- The changes that some deltas amount to, one for each path, in the order of the first delta with that path. Paths
and lines are gone through apart from each other: a file that is not text has a path but no lines. -/
def changes (deltas : List FileDelta) : List FileChange :=
  let counts := deltas.foldl LineCounts.add ∅
  (deltas.foldl addPath #[]).toList.map fun path =>
    let (added, deleted) := counts.getD path (0, 0)
    { path, added, deleted }

end FileDelta

end ChangeCoupling
