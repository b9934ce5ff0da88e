import ChangeCoupling.Commit
import ChangeCoupling.Proofs.Lists
import ChangeCoupling.Proofs.StatsInsertion
import Mathlib.Algebra.Ring.Nat
import Mathlib.Data.Finset.Card
import Mathlib.Data.Finset.Dedup

/-! The statistics of a list of commits say what the changes of each file come to. The tallies are built up one change
after the other, and at any time they hold one tally for each file met so far, in the order of the first mentions. -/

namespace ChangeCoupling.Commit

/-- A change of a file together with what its commit adds to the tally. -/
structure Edit where
  committer : String
  fixes : Bool
  change : FileChange

def Edit.path (edit : Edit) : String := edit.change.path

def edits (bugFix : BugFix) (commits : List Commit) : List Edit :=
  commits.flatMap fun commit => commit.changes.map fun change =>
    ⟨commit.committer, bugFix.marks commit.message, change⟩

def editsOf (path : String) (edits : List Edit) : List Edit := edits.filter (·.path = path)

def Tally.addEdit (tally : Tally) (edit : Edit) : Tally := tally.add edit.committer edit.fixes edit.change

def tallyOf (edits : List Edit) : Tally := edits.foldl Tally.addEdit {}

theorem editsOf_append (path : String) (first second : List Edit) :
    editsOf path (first ++ second) = editsOf path first ++ editsOf path second := List.filter_append ..

theorem map_path_edits (bugFix : BugFix) (commits : List Commit) : (edits bugFix commits).map Edit.path =
    commits.flatMap fun commit => commit.changes.map FileChange.path := by
  simp only [edits, List.map_flatMap, List.map_map]
  rfl

theorem editsOf_cons (bugFix : BugFix) (path : String) (commit : Commit) (commits : List Commit) :
    editsOf path (edits bugFix (commit :: commits)) =
      (commit.changes.filter (·.path = path)).map (⟨commit.committer, bugFix.marks commit.message, ·⟩) ++
        editsOf path (edits bugFix commits) := by
  rw [edits, List.flatMap_cons, editsOf_append, editsOf, List.filter_map]
  rfl

theorem tallyOf_concat (edits : List Edit) (edit : Edit) : tallyOf (edits ++ [edit]) = (tallyOf edits).addEdit edit :=
  List.foldl_concat ..

theorem editsOf_eq_nil {path : String} {edits : List Edit} (absent : path ∉ edits.map Edit.path) :
    editsOf path edits = [] := by
  rw [editsOf, List.filter_eq_nil_iff]
  intro edit member same
  exact absent (List.mem_map.mpr ⟨edit, member, of_decide_eq_true same⟩)

theorem sum_tallyOf {field : Tally → Nat} {value : Edit → Nat} (start : field {} = 0)
    (step : ∀ tally edit, field (tally.addEdit edit) = field tally + value edit) (edits : List Edit) :
    field (tallyOf edits) = (edits.map value).sum := by
  induction edits using List.reverseRecOn with
  | nil => exact start
  | append_singleton edits edit ih => simp [tallyOf_concat, step, ih]

theorem added_tallyOf (edits : List Edit) : (tallyOf edits).added = (edits.map (·.change.added)).sum :=
  sum_tallyOf rfl (fun _ _ => rfl) edits

theorem deleted_tallyOf (edits : List Edit) : (tallyOf edits).deleted = (edits.map (·.change.deleted)).sum :=
  sum_tallyOf rfl (fun _ _ => rfl) edits

theorem commits_tallyOf (edits : List Edit) : (tallyOf edits).commits = edits.length := by
  induction edits using List.reverseRecOn with
  | nil => rfl
  | append_singleton edits edit ih => rw [tallyOf_concat, Tally.addEdit, Tally.add, ih, List.length_append]; rfl

theorem bugFixes_tallyOf (edits : List Edit) : (tallyOf edits).bugFixes = edits.countP (·.fixes) := by
  induction edits using List.reverseRecOn with
  | nil => rfl
  | append_singleton edits edit ih =>
    rw [tallyOf_concat, List.countP_append, ← ih]
    cases fixes : edit.fixes with
    | true => simp [Tally.addEdit, Tally.add, fixes]
    | false => simp [Tally.addEdit, Tally.add, fixes]

theorem mem_committers_tallyOf (edits : List Edit) (name : String) :
    name ∈ (tallyOf edits).committers ↔ name ∈ edits.map Edit.committer := by
  induction edits using List.reverseRecOn with
  | nil => simp [tallyOf]
  | append_singleton edits edit ih =>
    rw [tallyOf_concat, List.map_append, List.mem_append, ← ih]
    simp only [Tally.addEdit, Tally.add, Std.HashSet.mem_insert, beq_iff_eq, List.map_singleton, List.mem_singleton]
    rw [or_comm, eq_comm]

theorem size_committers_tallyOf (edits : List Edit) :
    (tallyOf edits).committers.size = (edits.map Edit.committer).toFinset.card := by
  induction edits using List.reverseRecOn with
  | nil => rfl
  | append_singleton edits edit ih =>
    have members : ((edits ++ [edit]).map Edit.committer).toFinset =
        insert edit.committer (edits.map Edit.committer).toFinset := by
      ext name
      simp
    rw [members, tallyOf_concat, Tally.addEdit, Tally.add, Std.HashSet.size_insert, Finset.card_insert_eq_ite, ih]
    simp only [List.mem_toFinset, mem_committers_tallyOf]

/-- The tallies are those of the given edits, and nothing else. -/
structure Tallies.Holds (tallies : Tallies) (edits : List Edit) : Prop where
  order : tallies.order.toList = (edits.map Edit.path).eraseDups
  byPath : ∀ path, tallies.byPath[path]? =
    if path ∈ edits.map Edit.path then some (tallyOf (editsOf path edits)) else none

namespace Tallies.Holds

variable {tallies : Tallies} {done : List Edit}

theorem getD_byPath (holds : tallies.Holds done) (path : String) :
    tallies.byPath.getD path {} = tallyOf (editsOf path done) := by
  rw [Std.HashMap.getD_eq_getD_getElem?, holds.byPath]
  split
  next => rfl
  next absent => rw [editsOf_eq_nil absent]; rfl

theorem add (holds : tallies.Holds done) (edit : Edit) :
    (tallies.add edit.committer edit.fixes edit.change).Holds (done ++ [edit]) := by
  have known : tallies.byPath.contains edit.path = decide (edit.path ∈ done.map Edit.path) := by
    rw [Std.HashMap.contains_eq_isSome_getElem?, holds.byPath]
    split
    next met => simpa using met
    next new => simpa using new
  constructor
  · rw [List.map_append, List.map_singleton, eraseDups_concat, ← holds.order]
    change Array.toList (if tallies.byPath.contains edit.path then _ else _) = _
    rw [known, apply_ite Array.toList, Array.toList_push]
    simp only [decide_eq_true_eq]
    rfl
  · intro path
    change (tallies.byPath.insert edit.path _)[path]? = _
    rw [Std.HashMap.getElem?_insert, List.map_append, editsOf_append]
    by_cases same : edit.path = path
    · subst same
      change (if _ then some ((tallies.byPath.getD edit.path {}).addEdit edit) else _) = _
      rw [holds.getD_byPath]
      simp [editsOf, tallyOf_concat]
    · simp [same, holds.byPath, editsOf, Ne.symm same]

theorem addAll (holds : tallies.Holds done) (more : List Edit) :
    (more.foldl (fun tallies edit => tallies.add edit.committer edit.fixes edit.change) tallies).Holds
      (done ++ more) := by
  induction more generalizing tallies done with
  | nil => simpa using holds
  | cons edit rest ih => simpa using ih (holds.add edit)

end Tallies.Holds

theorem holds_edits (bugFix : BugFix) (commits : List Commit) :
    (commits.foldl (Tallies.addCommit bugFix) {}).Holds (edits bugFix commits) := by
  have start : Tallies.Holds {} [] := by
    constructor
    · rfl
    · intro path
      simp
  have run := start.addAll (edits bugFix commits)
  rw [List.nil_append] at run
  convert run using 1
  rw [edits, List.foldl_flatMap]
  simp only [List.foldl_map]
  rfl

/-- Each file has one record, which says what its edits come to, and the records are in the order of the first
mentions. -/
theorem toList_stats (bugFix : BugFix) (commits : List Commit) :
    (stats bugFix commits).toList = ((edits bugFix commits).map Edit.path).eraseDups.map fun path =>
      (tallyOf (editsOf path (edits bugFix commits))).stats path := by
  have holds := holds_edits bugFix commits
  let records := ((edits bugFix commits).map Edit.path).eraseDups.map fun path =>
    (tallyOf (editsOf path (edits bugFix commits))).stats path
  have paths : records.map FileStats.path = ((edits bugFix commits).map Edit.path).eraseDups := by
    rw [List.map_map]
    exact List.map_id _
  have collected : stats bugFix commits = .ofRecords records := by
    rw [stats, Tallies.table, holds.order]
    congr 1
    change _ = List.map _ _
    rw [← List.filterMap_eq_map (f := fun path => (tallyOf (editsOf path (edits bugFix commits))).stats path)]
    apply List.filterMap_congr
    intro path member
    rw [holds.byPath, if_pos (List.mem_eraseDups.mp member)]
    rfl
  rw [collected]
  exact StatsTable.toList_ofRecords (paths ▸ nodup_eraseDups _)

end ChangeCoupling.Commit
