import ChangeCoupling.Proofs.MiningExactness

/-! The order of the mined itemsets. Files are never sorted by name: they go by their ranks within an itemset, and
itemsets of one size go by the ranks of their files. The first file of an itemset becomes the antecedent of its rule. -/

namespace ChangeCoupling.Mining

variable {log : List Transaction}

theorem RanksBefore.coverage_le {first second : String} (before : RanksBefore log first second) :
    coverage log {second} ≤ coverage log {first} := by
  cases before with
  | inl more => exact Nat.le_of_lt more
  | inr tie => exact Nat.le_of_eq tie.1.symm

/-- No file of a ranked list occurs more often than the first one. -/
theorem head_most_covered {items : List String} (nonempty : items ≠ []) (ranked : items.Pairwise (RanksBefore log)) :
    ∃ first, items.head? = some first ∧ ∀ file ∈ items, coverage log {file} ≤ coverage log {first} := by
  cases items with
  | nil => exact absurd rfl nonempty
  | cons first rest =>
    refine ⟨first, rfl, ?_⟩
    intro file member
    cases List.mem_cons.mp member with
    | inl same => exact Nat.le_of_eq (by rw [same])
    | inr later => exact ((List.pairwise_cons.mp ranked).1 file later).coverage_le

/-- Within each itemset the ranks of the files strictly increase, so that no file of it occurs more often than the
first; and the itemsets strictly increase by size and, for one size, lexicographically by the ranks of their files. -/
theorem mineUnder_ordered {plan : Plan} (complete : plan.Complete) (options : Options) (log : List Transaction) :
    (∀ itemset ∈ mineUnder plan options log,
      itemset.items.Pairwise (RanksBefore log) ∧
      ∃ first, itemset.items.head? = some first ∧
        ∀ file ∈ itemset.items, coverage log {file} ≤ coverage log {first}) ∧
    (mineUnder plan options log).Pairwise (ListedBefore log) := by
  have mined := mineUnder_mined complete options log
  refine ⟨?_, mined.sorted⟩
  intro itemset member
  obtain ⟨nonempty, ranked, _⟩ := (mined.mem_iff itemset).mp member
  exact ⟨ranked, head_most_covered nonempty ranked⟩

/-- Of two files that change together in half of the changes, the one that changes more often comes first, although its
path is the greater one. -/
theorem mineUnder_ordered_against_paths :
    Plan.Complete (fun _ count => Gather.inOrder count) ∧ "core" < "tests" ∧
      ∃ itemset ∈ mine ⟨Double.nearest 2 5, 3, by decide +kernel, by decide⟩
        ([["core", "tests"], ["tests"], ["docs", "core", "tests"], []].map Transaction.ofFiles),
        itemset.items = ["tests", "core"] := by
  have complete : Plan.Complete (fun _ count => Gather.inOrder count) := fun _ => Gather.inOrder_covers
  refine ⟨complete, by decide +kernel, ?_⟩
  let log := [["core", "tests"], ["tests"], ["docs", "core", "tests"], []].map Transaction.ofFiles
  let options : Options := ⟨Double.nearest 2 5, 3, by decide +kernel, by decide⟩
  obtain ⟨itemset, member, files⟩ := (mineUnder_mined complete options log).exists_mem
    (Finset.insert_nonempty "core" {"tests"}) (by decide +kernel)
  have ranked := ((mineUnder_ordered complete options log).1 itemset member).1
  have expected : ["tests", "core"].Pairwise (RanksBefore log) :=
    List.pairwise_pair.mpr (.inl (by decide +kernel))
  refine ⟨itemset, member, eq_of_pairwise_of_mem_iff (fun _ _ => RanksBefore.asymm) ranked expected ?_⟩
  intro file
  rw [← List.mem_toFinset, files]
  simp [or_comm]

end ChangeCoupling.Mining
