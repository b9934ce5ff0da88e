import ChangeCoupling.Command.Script
import ChangeCoupling.History.Tree

/-! Repositories: revisions with their parents, and names for some of them. The history of a revision lists it and
all its ancestors, parents first. -/

namespace ChangeCoupling

/-- A revision: its files are those of its first parent, without the removed ones and with the written ones. -/
structure Revision where
  committer : ByteArray
  message : ByteArray
  /-- The numbers of earlier revisions. -/
  parents : List Nat
  time : Int
  removed : List String := []
  written : List (String × TrackedFile) := []

namespace Revision

/-- Bytes that are no part of a name where they stand around it. -/
def isAroundName (byte : UInt8) : Bool := byte ≤ 32 || ",:;<>\"\\'".toUTF8.toList.contains byte

/-- The text of some bytes, which ends before a zero byte. -/
def text? (bytes : List UInt8) : Option String := String.fromUTF8? (bytes.takeWhile (· ≠ 0)).toByteArray

/-- The name of the committer, if it is a text. -/
def committerName (revision : Revision) : String :=
  let bytes := (revision.committer.toList.dropWhile isAroundName).reverse.dropWhile isAroundName
  (text? bytes.reverse).getD "unknown"

/-- The message without the empty lines before it. A message that is not a text is empty. -/
def messageText (revision : Revision) : String := (text? (revision.message.toList.dropWhile (· = 10))).getD ""

/-- The files of a revision, given those of its first parent. -/
def apply (revision : Revision) (tree : FileTree) : FileTree :=
  revision.written.foldl (fun tree (path, file) => tree.insert path file) (revision.removed.foldl (·.erase ·) tree)

end Revision

structure Repository where
  revisions : Array Revision
  branches : List (String × Nat)
  tags : List (String × Nat) := []
  /-- The branch that is checked out. -/
  head : String := "main"

namespace Repository

/-- The revision that is checked out. -/
def headTip? (repository : Repository) : Option Nat := repository.branches.lookup repository.head

/-- The revision with a full name. -/
def reference? (repository : Repository) (name : String) : Option Nat :=
  if name = "HEAD" then repository.headTip?
  else (repository.tags.map fun (tag, tip) => ("refs/tags/" ++ tag, tip)).lookup name <|>
    (repository.branches.map fun (branch, tip) => ("refs/heads/" ++ branch, tip)).lookup name

/-- The revision that a short name stands for. A tag comes before a branch of the same name. -/
def resolve? (repository : Repository) (name : String) : Option Nat :=
  if name.isEmpty then repository.headTip?
  else [name, "refs/" ++ name, "refs/tags/" ++ name, "refs/heads/" ++ name].findSome? repository.reference?

def parents (repository : Repository) (number : Nat) : List Nat :=
  match repository.revisions[number]? with
  | none => []
  | some revision => revision.parents

def time (repository : Repository) (number : Nat) : Int :=
  match repository.revisions[number]? with
  | none => 0
  | some revision => revision.time

/-- A revision and its ancestors. Parents have lower numbers, so one pass from the highest number down finds them
all. -/
def ancestors (repository : Repository) (tip : Nat) : List Nat :=
  (List.range (tip + 1)).reverse.foldl
    (fun found number => if found.contains number then found ++ repository.parents number else found) [tip]
    |>.eraseDups

/-- Of the revisions that can come next the latest one, the first of those with the same time. -/
def latest? (repository : Repository) : List Nat → Option Nat
  | [] => none
  | number :: rest => match repository.latest? rest with
    | none => some number
    | some other => if repository.time number < repository.time other then some other else some number

/-- Takes up one revision after the other, each when all its children have been taken, and puts it before those. -/
def walk (repository : Repository) (reachable : List Nat) : Nat → List Nat → List Nat → List Nat
  | 0, _, taken => taken
  | fuel + 1, ready, taken => match repository.latest? ready with
    | none => taken
    | some number =>
      let taken := number :: taken
      let isReady parent := reachable.all fun child =>
        taken.contains child || !(repository.parents child).contains parent
      let ready := ready.erase number
      repository.walk reachable fuel
        (ready ++ (repository.parents number).eraseDups.filter fun parent => isReady parent && !ready.contains parent)
        taken

/-- A revision and its ancestors, every parent before its children, and of revisions that could both come last the
later one last. -/
def order (repository : Repository) (tip : Nat) : List Nat :=
  let reachable := repository.ancestors tip
  repository.walk reachable reachable.length [tip] []

/-- The files of each revision. -/
def trees (repository : Repository) : Array FileTree :=
  repository.revisions.foldl
    (fun trees revision => trees.push (revision.apply ((revision.parents.head?.bind (trees[·]?)).getD ∅))) #[]

/-- The commit of a revision, whose changes are those since its first parent. -/
def commit (trees : Array FileTree) (number : Nat) (revision : Revision) : Commit where
  committer := revision.committerName
  message := revision.messageText
  changes := FileDelta.changes (FileTree.deltas ((revision.parents.head?.bind (trees[·]?)).getD ∅)
    (trees[number]?.getD ∅))

/-- Where a history ends: at the given branch or, if none is given, at what is checked out. -/
def tip (repository : Repository) : Option String → Except RepositoryFault Nat
  | some name => match repository.resolve? name with
    | some tip => .ok tip
    | none => .error (.unknownBranch name)
  | none => match repository.headTip? with
    | some tip => .ok tip
    | none => .error .noHead

/-- The commits of a history with the numbers of their revisions, oldest first. Commits with more than the given
number of files are left out. -/
def history (repository : Repository) (branch? : Option String) (maxFiles? : Option Nat) :
    Except RepositoryFault (List (Nat × Commit)) := do
  let tip ← repository.tip branch?
  let trees := repository.trees
  let commits := (repository.order tip).filterMap fun number =>
    repository.revisions[number]?.map fun revision => (number, commit trees number revision)
  return match maxFiles? with
    | none => commits
    | some most => commits.filter fun (_, commit) => commit.changes.length ≤ most

/-- Finds the commits of the repositories at some locations. The path of a repository is that of its directory or of
the one inside that with its data. -/
def reader (repositories : List (Location × Repository)) : HistoryReader := fun files path branch? maxFiles? =>
  match files.locate path with
  | .error _ => .error .notOpened
  | .ok location =>
    let data? := if location.head? = some ".git" then repositories.lookup location.tail else none
    match repositories.lookup location <|> data? with
    | none => .error .notOpened
    | some repository => (repository.history branch? maxFiles?).map (·.map (·.2))

end Repository

end ChangeCoupling
