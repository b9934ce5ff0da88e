import ChangeCoupling.Proofs.MinedItemsets

/-! The result of mining depends only on the sets of files that were changed together and on the threshold. How the
log is cut up, how the counts of its parts are brought together and how it is ordered make no difference, and a higher
threshold makes none to the itemsets that reach it. -/

namespace ChangeCoupling.Mining

theorem coverage_congr {log log' : List Transaction}
    (rearranged : (log.map Transaction.fileSet).Perm (log'.map Transaction.fileSet)) :
    coverage log = coverage log' := by
  funext files
  have bySets (log : List Transaction) :
      coverage log files = (log.map Transaction.fileSet).countP (fun changed => files ⊆ changed) := by
    rw [List.countP_map]
    rfl
  rw [bySets, bySets, rearranged.countP_eq]

/-- What is to be found is said in terms of coverage alone. -/
theorem Mined.congr {log log' : List Transaction} (same : coverage log = coverage log') {threshold : Nat}
    {found : List Itemset} (mined : Mined log threshold found) : Mined log' threshold found := by
  have ranks : RanksBefore log = RanksBefore log' := by
    funext first second
    simp only [RanksBefore, same]
  have order : ListedBefore log = ListedBefore log' := by
    funext first second
    simp only [ListedBefore, ranks]
  exact ⟨order ▸ mined.sorted, by simpa only [ranks, same] using mined.mem_iff⟩

/-- Two runs with the same minimal support report the same list, even if the logs are cut into different numbers of
parts, the counts of the parts are merged in different orders and bracketings and with counts of nothing in between,
and the transactions or the files within them come in a different order. -/
theorem mineUnder_congr {plan plan' : Plan} (complete : plan.Complete) (complete' : plan'.Complete)
    {options options' : Options} (sameSupport : options.minSupport = options'.minSupport)
    {log log' : List Transaction}
    (rearranged : (log.map Transaction.fileSet).Perm (log'.map Transaction.fileSet)) :
    mineUnder plan options log = mineUnder plan' options' log' := by
  have threshold : options.minCount log.length = options'.minCount log'.length := by
    have length : log.length = log'.length := by simpa using rearranged.length_eq
    rw [Options.minCount, Options.minCount, sameSupport, length]
  have first := (mineUnder_mined complete options log).congr (coverage_congr rearranged)
  rw [threshold] at first
  exact first.unique (mineUnder_mined complete' options' log')

def Gather.mirrored : Gather → Gather
  | nothing => nothing
  | part number => part number
  | both first second => both second.mirrored first.mirrored

theorem Gather.parts_mirrored (gather : Gather) : gather.mirrored.parts = gather.parts.reverse := by
  induction gather with
  | nothing => rfl
  | part number => rfl
  | both first second firstParts secondParts => simp [mirrored, parts, firstParts, secondParts]

/-- Counting in one piece, and counting in three pieces a log that is the other way round and merging the counts from
its end, with a count of nothing on the way. -/
theorem mineUnder_congr_mirrored :
    mineUnder (fun _ count => Gather.inOrder count) ⟨Double.nearest 2 3, 1, by decide +kernel, by decide⟩
        ([["core", "docs"], ["core"], ["docs", "core", "tests"], []].map Transaction.ofFiles) =
      mineUnder (fun _ count => .both .nothing (Gather.inOrder count).mirrored)
        ⟨Double.nearest 2 3, 3, by decide +kernel, by decide⟩
        ([[], ["tests", "docs", "core"], ["core"], ["docs", "core"]].map Transaction.ofFiles) := by
  apply mineUnder_congr
  · exact fun _ => Gather.inOrder_covers
  · intro _ count
    have covers := Gather.inOrder_covers count
    simpa only [Gather.Covers, Gather.parts, Gather.parts_mirrored, List.nil_append] using
      (List.reverse_perm _).trans covers
  · rfl
  · decide +kernel

/-- Neither the ranks of the files nor the order of the itemsets depend on the threshold. -/
theorem Mined.filter_support {log : List Transaction} {threshold higher : Nat} {found : List Itemset}
    (mined : Mined log threshold found) (raised : threshold ≤ higher) :
    Mined log higher (found.filter fun itemset => higher ≤ itemset.support) := by
  refine ⟨mined.sorted.filter _, ?_⟩
  intro itemset
  rw [List.mem_filter, mined.mem_iff, decide_eq_true_iff]
  constructor
  · intro kept
    obtain ⟨⟨nonempty, ranked, counted, _⟩, enough⟩ := kept
    exact ⟨nonempty, ranked, counted, enough⟩
  · intro reported
    obtain ⟨nonempty, ranked, counted, enough⟩ := reported
    exact ⟨⟨nonempty, ranked, counted, raised.trans enough⟩, enough⟩

/-- The run with the higher threshold numbers fewer files, joins fewer candidates and may end at an earlier level. It
still reports the list of the other run without the itemsets below its threshold. -/
theorem mineUnder_raised {plan plan' : Plan} (complete : plan.Complete) (complete' : plan'.Complete)
    {options options' : Options} {log : List Transaction}
    (raised : options.minCount log.length ≤ options'.minCount log.length) :
    mineUnder plan' options' log =
      (mineUnder plan options log).filter fun itemset => options'.minCount log.length ≤ itemset.support := by
  have fewer := (mineUnder_mined complete options log).filter_support raised
  exact (mineUnder_mined complete' options' log).unique fewer

/-- Of four changes, one is a quarter, and three eighths take two. -/
theorem mineUnder_raised_eighths :
    let log := [["core", "docs"], ["core"], ["docs", "core", "tests"], []].map Transaction.ofFiles
    let low : Options := ⟨Double.nearest 1 4, 1, by decide +kernel, by decide⟩
    let high : Options := ⟨Double.nearest 3 8, 3, by decide +kernel, by decide⟩
    low.minCount log.length = 1 ∧ high.minCount log.length = 2 ∧
      mine high log = (mine low log).filter fun itemset => 2 ≤ itemset.support := by
  intro log low high
  have complete : Plan.Complete (fun _ count => Gather.inOrder count) := fun _ => Gather.inOrder_covers
  have one : low.minCount log.length = 1 := by decide +kernel
  have two : high.minCount log.length = 2 := by decide +kernel
  have raised : low.minCount log.length ≤ high.minCount log.length := by
    rw [one, two]
    exact Nat.le_succ 1
  have filtered := mineUnder_raised complete complete raised
  rw [two] at filtered
  exact ⟨one, two, filtered⟩

end ChangeCoupling.Mining
