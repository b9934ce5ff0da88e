/-! The lines that change between two texts. A shortest edit script keeps as many lines as possible, that is, a
longest common subsequence of the two texts, and adds or deletes all others. -/

namespace ChangeCoupling

/-- What happens to a line. -/
inductive LineEvent where
  | kept
  | added
  | deleted
  deriving DecidableEq

/-- An edit script, with the number of lines that it keeps. -/
structure EditScript where
  events : List LineEvent := []
  kept : Nat := 0

namespace EditScript

def keep (script : EditScript) : EditScript := ⟨.kept :: script.events, script.kept + 1⟩

def add (script : EditScript) : EditScript := ⟨.added :: script.events, script.kept⟩

def delete (script : EditScript) : EditScript := ⟨.deleted :: script.events, script.kept⟩

/-- The script that keeps more lines, the first one if they keep equally many. -/
def better (first second : EditScript) : EditScript := if first.kept < second.kept then second else first

/-- The scripts that lead from no lines to each end part of the new lines, the longest part first. -/
def additions : List α → List EditScript
  | [] => [{}]
  | _ :: new => match additions new with
    | [] => []
    | script :: scripts => script.add :: script :: scripts

/-- The scripts that lead from some old lines to each end part of the new lines, given those for the old lines
without the first. -/
def extend [DecidableEq α] (line : α) : List α → List EditScript → List EditScript
  | next :: new, shorter :: below :: scripts =>
    match extend line new (below :: scripts) with
    | [] => []
    | right :: row =>
      let changed := shorter.delete.better right.add
      (if line = next then below.keep.better changed else changed) :: right :: row
  | _, shorter :: _ => [shorter.delete]
  | _, [] => []

/-- For each end part of the new lines, a script that leads to it from the old lines and keeps as many of them as
possible. -/
def table [DecidableEq α] (new : List α) : List α → List EditScript
  | [] => additions new
  | line :: old => extend line new (table new old)

/-- A shortest edit script from the old lines to the new ones. -/
def shortest [DecidableEq α] (old new : List α) : EditScript := (table new old).headD {}

end EditScript

end ChangeCoupling
