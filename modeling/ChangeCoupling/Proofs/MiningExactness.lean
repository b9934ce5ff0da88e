import ChangeCoupling.Proofs.MinedItemsets

/-! Mining is exact: a set of files is reported exactly if enough transactions contain it, and it is reported once,
with their number. -/

namespace ChangeCoupling.Mining

variable {log : List Transaction} {threshold : Nat}

theorem exists_ranked (log : List Transaction) (files : Finset String) :
    ∃ items : List String, items.Pairwise (RanksBefore log) ∧ items.toFinset = files := by
  classical
  let atMost (first second : String) : Bool := decide (first = second ∨ RanksBefore log first second)
  refine ⟨files.toList.mergeSort atMost, ?_, ?_⟩
  · have sorted : (files.toList.mergeSort atMost).Pairwise (fun first second => atMost first second = true) := by
      apply List.pairwise_mergeSort
      · intro first second third before after
        rw [decide_eq_true_iff] at before after ⊢
        rcases before with rfl | before
        · exact after
        rcases after with rfl | after
        · exact .inr before
        · exact .inr (before.trans after)
      · intro first second
        rw [Bool.or_eq_true, decide_eq_true_iff, decide_eq_true_iff]
        by_cases same : first = second
        · exact .inl (.inl same)
        · exact (RanksBefore.total same).imp .inr .inr
    have nodup : (files.toList.mergeSort atMost).Nodup := (List.mergeSort_perm _ _).nodup_iff.mpr files.nodup_toList
    refine (sorted.and nodup).imp ?_
    rintro first second ⟨before, different⟩
    exact (decide_eq_true_iff.mp before).resolve_left different
  · ext file
    simp

private theorem ranked_unique {items items' : List String} (ranked : items.Pairwise (RanksBefore log))
    (ranked' : items'.Pairwise (RanksBefore log)) (same : items.toFinset = items'.toFinset) : items = items' := by
  apply eq_of_pairwise_of_mem_iff (fun _ _ => RanksBefore.asymm) ranked ranked'
  intro file
  rw [← List.mem_toFinset, same, List.mem_toFinset]

namespace Mined

variable {found : List Itemset}

theorem exists_mem (mined : Mined log threshold found) {files : Finset String} (nonempty : files.Nonempty)
    (enough : threshold ≤ coverage log files) : ∃ itemset ∈ found, itemset.items.toFinset = files := by
  obtain ⟨items, ranked, rfl⟩ := exists_ranked log files
  refine ⟨⟨items, coverage log items.toFinset⟩, (mined.mem_iff _).mpr ⟨?_, ranked, rfl, enough⟩, rfl⟩
  rintro rfl
  simp at nonempty

theorem eq_of_sameFiles (mined : Mined log threshold found) {itemset itemset' : Itemset} (member : itemset ∈ found)
    (member' : itemset' ∈ found) (same : itemset.items.toFinset = itemset'.items.toFinset) : itemset = itemset' := by
  obtain ⟨_, ranked, counted, _⟩ := (mined.mem_iff itemset).mp member
  obtain ⟨_, ranked', counted', _⟩ := (mined.mem_iff itemset').mp member'
  have items := ranked_unique ranked ranked' same
  have supports : itemset.support = itemset'.support := by rw [counted, counted', same]
  cases itemset
  cases itemset'
  rw [Itemset.mk.injEq]
  exact ⟨items, supports⟩

theorem filter_sameFiles (mined : Mined log threshold found) {itemset : Itemset} (member : itemset ∈ found) :
    found.filter (fun other => other.items.toFinset = itemset.items.toFinset) = [itemset] := by
  apply List.perm_singleton.mp
  apply (List.perm_ext_iff_of_nodup (mined.nodup.filter _) (List.nodup_singleton itemset)).mpr
  intro other
  rw [List.mem_filter, decide_eq_true_iff, List.mem_singleton]
  constructor
  · rintro ⟨otherMember, same⟩
    exact mined.eq_of_sameFiles otherMember member same
  · rintro rfl
    exact ⟨member, rfl⟩

end Mined

/-- For every nonempty set of files: it is the set of files of a reported itemset exactly if enough transactions contain
it; then just one itemset reports it, lists each file once and gives the number of these transactions. No itemset is
empty, so nothing else is reported, and from an empty log nothing is. -/
theorem mineUnder_exact {plan : Plan} (complete : plan.Complete) (options : Options) (log : List Transaction) :
    (∀ files : Finset String, files.Nonempty →
      ((∃ itemset ∈ mineUnder plan options log, itemset.items.toFinset = files) ↔
        options.minCount log.length ≤ coverage log files) ∧
      (options.minCount log.length ≤ coverage log files →
        ∃ itemset, (mineUnder plan options log).filter (fun itemset => itemset.items.toFinset = files) = [itemset] ∧
          itemset.items.Nodup ∧ itemset.support = coverage log files)) ∧
    (∀ itemset ∈ mineUnder plan options log, itemset.items ≠ []) ∧ mineUnder plan options [] = [] := by
  have mined := mineUnder_mined complete options log
  refine ⟨?_, fun itemset member => ((mined.mem_iff itemset).mp member).1, rfl⟩
  intro files nonempty
  refine ⟨⟨?_, mined.exists_mem nonempty⟩, ?_⟩
  · rintro ⟨itemset, member, rfl⟩
    obtain ⟨_, _, counted, enough⟩ := (mined.mem_iff itemset).mp member
    exact counted ▸ enough
  · intro enough
    obtain ⟨itemset, member, rfl⟩ := mined.exists_mem nonempty enough
    obtain ⟨_, ranked, counted, _⟩ := (mined.mem_iff itemset).mp member
    exact ⟨itemset, mined.filter_sameFiles member, ranked_nodup ranked, counted⟩

/-- In a log of four changes, two files that change together twice reach a support of one half. -/
theorem mineUnder_exact_half :
    Plan.Complete (fun _ count => Gather.inOrder count) ∧
      ∃ itemset ∈ mine ⟨Double.nearest 1 2, 3, by decide +kernel, by decide⟩
        ([["core", "docs"], ["core"], ["docs", "core", "tests"], []].map Transaction.ofFiles),
        itemset.items.toFinset = {"core", "docs"} ∧ itemset.support = 2 := by
  have complete : Plan.Complete (fun _ count => Gather.inOrder count) := fun _ => Gather.inOrder_covers
  refine ⟨complete, ?_⟩
  obtain ⟨sets, _⟩ := mineUnder_exact complete ⟨Double.nearest 1 2, 3, by decide +kernel, by decide⟩
    ([["core", "docs"], ["core"], ["docs", "core", "tests"], []].map Transaction.ofFiles)
  obtain ⟨itemset, only, _, counted⟩ := (sets {"core", "docs"} (by simp)).2 (by decide +kernel)
  have found := List.mem_filter.mp (only ▸ List.mem_singleton_self itemset)
  exact ⟨itemset, found.1, decide_eq_true_iff.mp found.2, counted.trans (by decide +kernel)⟩

end ChangeCoupling.Mining
