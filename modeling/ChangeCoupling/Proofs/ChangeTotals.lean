import ChangeCoupling.Proofs.CommitTallies

/-! The statistics of a file by their definition. What the tallies come to in one pass over the commits is, for each file,
the sums and counts over all its changes, in whatever order the commits are. -/

namespace ChangeCoupling.Commit

def changesOf (path : String) (commits : List Commit) : List FileChange :=
  (commits.flatMap changes).filter (·.path = path)

/-- What a list of commits comes to for one file. A commit that lists the file twice counts twice, but its committer
only once. -/
def totals (bugFix : BugFix) (commits : List Commit) (path : String) : FileStats where
  path := path
  added := ((changesOf path commits).map FileChange.added).sum
  deleted := ((changesOf path commits).map FileChange.deleted).sum
  changed := ((changesOf path commits).map FileChange.added).sum + ((changesOf path commits).map FileChange.deleted).sum
  authors := ((commits.filter fun commit => path ∈ commit.changes.map FileChange.path).map committer).toFinset.card
  commits := (changesOf path commits).length
  bugFixes := (changesOf path (commits.filter fun commit => bugFix.marks commit.message)).length

section Edits

variable (bugFix : BugFix) (path : String) (commits : List Commit)

theorem map_change_editsOf : (editsOf path (edits bugFix commits)).map Edit.change = changesOf path commits := by
  have all : (edits bugFix commits).map Edit.change = commits.flatMap changes := by
    simp [edits, List.map_flatMap, Function.comp_def]
  rw [changesOf, ← all, List.filter_map]
  rfl

theorem countP_fixes_editsOf : (editsOf path (edits bugFix commits)).countP (·.fixes) =
    (changesOf path (commits.filter fun commit => bugFix.marks commit.message)).length := by
  induction commits with
  | nil => rfl
  | cons commit rest ih =>
    rw [editsOf_cons, List.countP_append, ih, List.countP_map, List.filter_cons]
    cases bugFix.marks commit.message with
    | true => simp [changesOf, Function.comp_def]
    | false => simp [Function.comp_def]

theorem toFinset_committer_editsOf : ((editsOf path (edits bugFix commits)).map Edit.committer).toFinset =
    ((commits.filter fun commit => path ∈ commit.changes.map FileChange.path).map committer).toFinset := by
  ext name
  simp only [List.mem_toFinset, List.mem_map, editsOf, edits, List.mem_filter, List.mem_flatMap, decide_eq_true_eq]
  constructor
  · rintro ⟨edit, ⟨⟨commit, member, change, changed, rfl⟩, same⟩, rfl⟩
    exact ⟨commit, ⟨member, change, changed, same⟩, rfl⟩
  · rintro ⟨commit, ⟨member, change, changed, same⟩, rfl⟩
    exact ⟨_, ⟨⟨commit, member, change, changed, rfl⟩, same⟩, rfl⟩

theorem stats_tallyOf :
    (tallyOf (editsOf path (edits bugFix commits))).stats path = totals bugFix commits path := by
  have sums (value : FileChange → Nat) : ((editsOf path (edits bugFix commits)).map (value ·.change)).sum =
      ((changesOf path commits).map value).sum := by
    rw [← map_change_editsOf bugFix, List.map_map]
    rfl
  have count : (editsOf path (edits bugFix commits)).length = (changesOf path commits).length := by
    rw [← map_change_editsOf bugFix, List.length_map]
  simp only [Tally.stats, totals, added_tallyOf, deleted_tallyOf, commits_tallyOf, bugFixes_tallyOf,
    size_committers_tallyOf, sums, count, countP_fixes_editsOf, toFinset_committer_editsOf]

end Edits

theorem toList_stats_totals (bugFix : BugFix) (commits : List Commit) : (stats bugFix commits).toList =
    (commits.flatMap fun commit => commit.changes.map FileChange.path).eraseDups.map (totals bugFix commits) := by
  rw [toList_stats, map_path_edits]
  exact List.map_congr_left fun path _ => stats_tallyOf bugFix path commits

theorem changesOf_perm {commits commits' : List Commit} (same : commits.Perm commits') (path : String) :
    (changesOf path commits).Perm (changesOf path commits') := (same.flatMap_right _).filter _

theorem totals_perm (bugFix : BugFix) {commits commits' : List Commit} (same : commits.Perm commits') :
    totals bugFix commits = totals bugFix commits' := by
  funext path
  have changes := changesOf_perm same path
  have sums (value : FileChange → Nat) :
      ((changesOf path commits).map value).sum = ((changesOf path commits').map value).sum := (changes.map value).sum_nat
  have authors := List.toFinset_eq_of_perm _ _ ((same.filter fun commit =>
    path ∈ commit.changes.map FileChange.path).map committer)
  have fixes := (changesOf_perm (same.filter fun commit => bugFix.marks commit.message) path).length_eq
  rw [totals, totals, sums, sums, authors, changes.length_eq, fixes]

/-- The statistics list every file that some commit changes once, in the order of the first mentions, and say of it what
its changes come to. The same commits in another order give the same records in some order. -/
theorem stats_totals (bugFix : BugFix) (commits : List Commit) :
    (stats bugFix commits).toList =
      (commits.flatMap fun commit => commit.changes.map FileChange.path).eraseDups.map (totals bugFix commits) ∧
    ∀ commits', commits.Perm commits' → (stats bugFix commits).toList.Perm (stats bugFix commits').toList := by
  refine ⟨toList_stats_totals bugFix commits, ?_⟩
  intro commits' same
  rw [toList_stats_totals, toList_stats_totals, totals_perm bugFix same]
  apply List.Perm.map
  apply (List.perm_ext_iff_of_nodup (nodup_eraseDups _) (nodup_eraseDups _)).mpr
  intro path
  rw [List.mem_eraseDups, List.mem_eraseDups]
  exact (same.flatMap_right _).mem_iff

/-- One commit lists a file twice, another has no changes, and the two that change something are by one person. -/
theorem stats_totals_reversed :
    let commits : List Commit := [⟨"ada", "fix", [⟨"core", 3, 1⟩, ⟨"docs", 1, 0⟩, ⟨"core", 2, 2⟩]⟩, ⟨"bob", "", []⟩,
      ⟨"ada", "no", [⟨"docs", 7, 2⟩]⟩]
    commits.Perm commits.reverse ∧
      (stats ⟨["F"]⟩ commits).toList = [⟨"core", 5, 3, 8, 1, 2, 2⟩, ⟨"docs", 8, 2, 10, 1, 2, 1⟩] ∧
      (stats ⟨["F"]⟩ commits).toList.Perm (stats ⟨["F"]⟩ commits.reverse).toList := by
  intro commits
  have reversed : commits.Perm commits.reverse := (List.reverse_perm commits).symm
  obtain ⟨defined, reordered⟩ := stats_totals ⟨["F"]⟩ commits
  refine ⟨reversed, ?_, reordered _ reversed⟩
  rw [defined]
  decide +kernel

end ChangeCoupling.Commit
