import ChangeCoupling.Proofs.CommitTallies
import ChangeCoupling.Proofs.SizeGroupRules

/-! What is kept of a history agrees with itself. The statistics, the transactions and the mined itemsets are counted
apart from each other; as long as no commit lists a file twice, they all count the commits that change a file. -/

namespace ChangeCoupling

namespace Commit

variable {commits : List Commit}

theorem mem_paths_edits (bugFix : BugFix) (path : String) :
    path ∈ (edits bugFix commits).map Edit.path ↔ ∃ transaction ∈ transactions commits, path ∈ transaction.files := by
  rw [map_path_edits, List.mem_flatMap]
  simp only [transactions, transaction, Transaction.ofFiles, List.mem_map, exists_exists_and_eq_and, List.mem_eraseDups]

/-- A commit that lists no file twice adds one to the count of each of its files, just as its transaction does. -/
theorem length_editsOf (bugFix : BugFix) (distinct : ∀ commit ∈ commits, (commit.changes.map FileChange.path).Nodup)
    (path : String) :
    (editsOf path (edits bugFix commits)).length = (transactions commits).countP (·.contains path) := by
  induction commits with
  | nil => rfl
  | cons commit rest ih =>
    have others := ih fun other member => distinct other (List.mem_cons_of_mem _ member)
    have own : (commit.changes.filter (·.path = path)).length = (commit.changes.map FileChange.path).count path := by
      rw [← List.countP_eq_length_filter, List.count, List.countP_map]
      rfl
    have once : (commit.changes.map FileChange.path).count path =
        if commit.transaction.contains path then 1 else 0 := by
      rw [List.Nodup.count (distinct commit List.mem_cons_self)]
      simp [transaction, Transaction.contains, Transaction.ofFiles, List.mem_eraseDups]
    have counted : (transactions (commit :: rest)).countP (·.contains path) =
        (transactions rest).countP (·.contains path) + if commit.transaction.contains path then 1 else 0 :=
      List.countP_cons
    rw [editsOf_cons, List.length_append, List.length_map, own, once, others, counted, Nat.add_comm]

theorem mem_stats_iff (bugFix : BugFix) (record : FileStats) :
    record ∈ (stats bugFix commits).toList ↔ record.path ∈ (edits bugFix commits).map Edit.path ∧
      record = (tallyOf (editsOf record.path (edits bugFix commits))).stats record.path := by
  rw [toList_stats, List.mem_map]
  constructor
  · intro listed
    obtain ⟨path, member, rfl⟩ := listed
    exact ⟨List.mem_eraseDups.mp member, rfl⟩
  · intro listed
    exact ⟨record.path, List.mem_eraseDups.mpr listed.1, listed.2.symm⟩

theorem exists_record_iff (bugFix : BugFix) (path : String) :
    (∃ record ∈ (stats bugFix commits).toList, record.path = path) ↔
      ∃ transaction ∈ transactions commits, path ∈ transaction.files := by
  rw [← mem_paths_edits bugFix]
  constructor
  · intro stored
    obtain ⟨record, member, rfl⟩ := stored
    exact ((mem_stats_iff bugFix record).mp member).1
  · intro edited
    exact ⟨(tallyOf (editsOf path (edits bugFix commits))).stats path,
      (mem_stats_iff bugFix _).mpr ⟨edited, rfl⟩, rfl⟩

theorem commits_record {bugFix : BugFix} (distinct : ∀ commit ∈ commits, (commit.changes.map FileChange.path).Nodup)
    {record : FileStats} (stored : record ∈ (stats bugFix commits).toList) :
    record.commits = (transactions commits).countP (·.contains record.path) := by
  rw [← length_editsOf bugFix distinct, ← commits_tallyOf]
  exact congrArg FileStats.commits ((mem_stats_iff bugFix record).mp stored).2

/-- Every edit has one committer, and at most counts as a bug fix. -/
theorem record_bounds {bugFix : BugFix} {record : FileStats} (stored : record ∈ (stats bugFix commits).toList) :
    1 ≤ record.authors ∧ record.authors ≤ record.commits ∧ record.bugFixes ≤ record.commits := by
  obtain ⟨edited, tallied⟩ := (mem_stats_iff bugFix record).mp stored
  obtain ⟨edit, member, same⟩ := List.mem_map.mp edited
  have own : edit ∈ editsOf record.path (edits bugFix commits) :=
    List.mem_filter.mpr ⟨member, decide_eq_true same⟩
  rw [tallied]
  dsimp only [Tally.stats]
  rw [size_committers_tallyOf, commits_tallyOf, bugFixes_tallyOf]
  refine ⟨?_, ?_, List.countP_le_length⟩
  · exact Finset.card_pos.mpr ⟨edit.committer, List.mem_toFinset.mpr (List.mem_map_of_mem own)⟩
  · exact (List.toFinset_card_le _).trans (Nat.le_of_eq (List.length_map _))

end Commit

open Commit Mining in
/-- A file has a record exactly if some transaction contains it; the record counts these transactions, at least one
author and no more authors or bug fixes than commits. Every file of a mined itemset is found in the statistics under
just one record, which counts no fewer commits than the support of the itemset, and as many for a single file. -/
theorem history_counts_agree {plan : Mining.Plan} (complete : plan.Complete) (bugFix : BugFix)
    (options : Mining.Options) (commits : List Commit)
    (distinct : ∀ commit ∈ commits, (commit.changes.map FileChange.path).Nodup) :
    (∀ path, (∃ record ∈ (stats bugFix commits).toList, record.path = path) ↔
      ∃ transaction ∈ transactions commits, path ∈ transaction.files) ∧
    (∀ record ∈ (stats bugFix commits).toList,
      record.commits = (transactions commits).countP (·.contains record.path) ∧
      1 ≤ record.authors ∧ record.authors ≤ record.commits ∧ record.bugFixes ≤ record.commits) ∧
    ∀ itemset ∈ mineUnder plan options (transactions commits),
      (∀ file ∈ itemset.items, ∃ record, (stats bugFix commits).get? file = some record ∧
        (stats bugFix commits).toList.filter (·.path = file) = [record] ∧ itemset.support ≤ record.commits) ∧
      ∀ file, itemset.items = [file] → ∃ record, (stats bugFix commits).get? file = some record ∧
        itemset.support = record.commits := by
  refine ⟨exists_record_iff bugFix, fun record stored => ⟨commits_record distinct stored, record_bounds stored⟩, ?_⟩
  intro itemset member
  have mined := mineUnder_mined complete options (transactions commits)
  have counted := ((mined.mem_iff itemset).mp member).2.2.1
  obtain ⟨transaction, inLog, contained⟩ := mined.exists_transaction (one_le_minCount options _) member
  have resolved (file : String) (inside : file ∈ itemset.items) : ∃ record,
      (stats bugFix commits).get? file = some record ∧
      (stats bugFix commits).toList.filter (·.path = file) = [record] ∧
      record.commits = coverage (transactions commits) {file} := by
    obtain ⟨record, stored, rfl⟩ := (exists_record_iff bugFix file).mpr ⟨transaction, inLog, contained inside⟩
    have consistent : (stats bugFix commits).Consistent := StatsTable.consistent_ofRecords _
    refine ⟨record, consistent.get?_eq_some_iff.mpr ⟨stored, rfl⟩, ?_, ?_⟩
    · exact filter_key_eq consistent.nodup_paths stored
    · rw [coverage_singleton, commits_record distinct stored]
  constructor
  · intro file inside
    obtain ⟨record, found, only, commits⟩ := resolved file inside
    refine ⟨record, found, only, ?_⟩
    rw [commits, counted]
    exact coverage_anti _ (by simpa using inside)
  · intro file single
    obtain ⟨record, found, _, commits⟩ := resolved file (single ▸ List.mem_singleton_self file)
    exact ⟨record, found, by rw [commits, counted, single]; rfl⟩

open Commit Mining in
/-- Two people change two files in three commits, and only the second commit leaves one of them alone: of the pair that
is mined, each file has its record, and the more frequent file is mined with as many transactions as it has commits. -/
theorem history_counts_agree_pair :
    let commits : List Commit := [⟨"ada", "Fix the parser", [⟨"core", 3, 1⟩, ⟨"docs", 1, 0⟩]⟩,
      ⟨"bob", "Explain", [⟨"docs", 7, 2⟩]⟩, ⟨"ada", "fix it again", [⟨"docs", 0, 1⟩, ⟨"core", 1, 1⟩]⟩]
    Mining.Plan.Complete (fun _ count => Gather.inOrder count) ∧
      (∀ commit ∈ commits, (commit.changes.map FileChange.path).Nodup) ∧
      (∃ record, (stats (.ofKeywords ["fix"]) commits).get? "core" = some record ∧ 2 ≤ record.commits) ∧
      ∃ record, (stats (.ofKeywords ["fix"]) commits).get? "docs" = some record ∧ 3 = record.commits := by
  intro commits
  have complete : Mining.Plan.Complete (fun _ count => Gather.inOrder count) := fun _ => Gather.inOrder_covers
  have distinct : ∀ commit ∈ commits, (commit.changes.map FileChange.path).Nodup := by decide
  let options : Options := ⟨Double.nearest 3 5, 2, by decide +kernel, by decide⟩
  let pair : Itemset := ⟨["docs", "core"], 2⟩
  let single : Itemset := ⟨["docs"], 3⟩
  have mined := mineUnder_mined complete options (transactions commits)
  have pairMined : pair ∈ mine options (transactions commits) := (mined.mem_iff pair).mpr
    ⟨by decide, List.pairwise_pair.mpr (.inl (by decide +kernel)), by decide +kernel, by decide +kernel⟩
  have singleMined : single ∈ mine options (transactions commits) := (mined.mem_iff single).mpr
    ⟨by decide, List.pairwise_singleton _ _, by decide +kernel, by decide +kernel⟩
  obtain ⟨_, _, itemsets⟩ := history_counts_agree complete (.ofKeywords ["fix"]) options commits distinct
  obtain ⟨record, found, _, atLeast⟩ := (itemsets pair pairMined).1 "core" (by decide)
  exact ⟨complete, distinct, ⟨record, found, atLeast⟩, (itemsets single singleMined).2 "docs" rfl⟩

end ChangeCoupling
