import ChangeCoupling.Proofs.SizeGroupRules

/-! A part of a mined itemset is contained in all the transactions that contain the itemset, so it is mined as well.
Going down from the largest itemset one file at a time meets every size, and a set of some files has as many parts that
lack one of them. -/

namespace ChangeCoupling

namespace Mining.Mined

variable {log : List Transaction} {threshold : Nat} {found : List Itemset}

theorem exists_part (mined : Mined log threshold found) {itemset : Itemset} (member : itemset ∈ found)
    {part : List String} (nonempty : part ≠ []) (within : part.Sublist itemset.items) :
    ∃ smaller ∈ found, smaller.items = part ∧ itemset.support ≤ smaller.support := by
  obtain ⟨_, ranked, counted, enough⟩ := (mined.mem_iff itemset).mp member
  have fewer : itemset.support ≤ coverage log part.toFinset := by
    rw [counted]
    apply coverage_anti
    intro file inside
    exact List.mem_toFinset.mpr (within.subset (List.mem_toFinset.mp inside))
  refine ⟨⟨part, coverage log part.toFinset⟩, (mined.mem_iff _).mpr ?_, rfl, fewer⟩
  exact ⟨nonempty, ranked.sublist within, rfl, enough.trans fewer⟩

theorem exists_size (mined : Mined log threshold found) {itemset : Itemset} (member : itemset ∈ found) {size : Nat}
    (positive : 0 < size) (within : size ≤ itemset.size) : ∃ smaller ∈ found, smaller.size = size := by
  have length : (itemset.items.take size).length = size := List.length_take_of_le within
  have nonempty : itemset.items.take size ≠ [] := List.ne_nil_of_length_pos (by omega)
  obtain ⟨smaller, inside, items, _⟩ := mined.exists_part member nonempty (List.take_sublist size _)
  exact ⟨smaller, inside, by rw [Itemset.size, items, length]⟩

/-- Leaving out each file in turn gives different parts. -/
theorem size_le_count (mined : Mined log threshold found) {itemset : Itemset} (member : itemset ∈ found)
    (several : 1 < itemset.size) : itemset.size ≤ (found.filter (·.size = itemset.size - 1)).length := by
  have distinct : itemset.items.Nodup := ranked_nodup ((mined.mem_iff itemset).mp member).2.1
  let parts := itemset.items.map itemset.items.erase
  have partsDistinct : parts.Nodup := by
    refine distinct.map_on ?_
    intro first inside second _ same
    by_contra different
    have kept : first ∈ itemset.items.erase second := distinct.mem_erase_iff.mpr ⟨different, inside⟩
    exact (distinct.mem_erase_iff.mp (same ▸ kept)).1 rfl
  have allFound : parts ⊆ (found.filter (·.size = itemset.size - 1)).map Itemset.items := by
    intro part listed
    obtain ⟨file, inside, rfl⟩ := List.mem_map.mp listed
    have length : (itemset.items.erase file).length = itemset.size - 1 := List.length_erase_of_mem inside
    obtain ⟨smaller, smallerFound, items, _⟩ := mined.exists_part member
      (List.ne_nil_of_length_pos (by omega)) (List.erase_sublist (a := file))
    refine List.mem_map.mpr ⟨smaller, List.mem_filter.mpr ⟨smallerFound, ?_⟩, items⟩
    rw [decide_eq_true_iff, Itemset.size, items, length]
  calc itemset.size = parts.length := (List.length_map _).symm
    _ ≤ _ := partsDistinct.length_le_of_subset allFound
    _ = _ := List.length_map _

theorem keys_sizeGroups (mined : Mined log threshold found) :
    (SizeGroups.ofItemsets found).keys = List.range' 2 ((found.map Itemset.size).max?.getD 0 - 1) := by
  refine eq_of_pairwise_of_mem_iff (fun _ _ => Nat.lt_asymm) (SizeGroups.ordered_keys _) (List.pairwise_lt_range' 1) ?_
  intro size
  rw [Std.TreeMap.mem_keys, SizeGroups.mem_ofItemsets, List.mem_range'_1]
  cases greatest : (found.map Itemset.size).max? with
  | none =>
    obtain rfl := List.map_eq_nil_iff.mp (List.max?_eq_none_iff.mp greatest)
    simp only [List.not_mem_nil, false_and, exists_false, and_false, false_iff, Option.getD_none]
    omega
  | some largest =>
    obtain ⟨reached, bound⟩ := List.max?_eq_some_iff.mp greatest
    obtain ⟨itemset, member, rfl⟩ := List.mem_map.mp reached
    rw [Option.getD_some]
    constructor
    · intro occurs
      obtain ⟨several, other, otherMember, rfl⟩ := occurs
      have := bound other.size (List.mem_map_of_mem otherMember)
      omega
    · intro between
      exact ⟨by omega, mined.exists_size member (by omega) (by omega)⟩

theorem size_le_size_below (mined : Mined log threshold found) {size : Nat} (several : 3 ≤ size)
    (nonempty : (SizeGroups.ofItemsets found).getD size #[] ≠ #[]) :
    size ≤ ((SizeGroups.ofItemsets found).getD (size - 1) #[]).size := by
  have occurs : ((SizeGroups.ofItemsets found).getD size #[]).toList ≠ [] := by simpa using nonempty
  rw [SizeGroups.toList_getD_ofItemsets] at occurs
  obtain ⟨itemset, inGroup⟩ := List.exists_mem_of_ne_nil _ occurs
  obtain ⟨member, qualifies⟩ := List.mem_filter.mp inGroup
  obtain ⟨rfl, _⟩ := of_decide_eq_true qualifies
  have below : found.filter (·.size = itemset.size - 1) =
      found.filter fun other => other.size = itemset.size - 1 ∧ 1 < other.size := by
    apply List.filter_congr
    intro other _
    exact decide_eq_decide.mpr (by omega)
  rw [← Array.length_toList, SizeGroups.toList_getD_ofItemsets, ← below]
  exact mined.size_le_count member (by omega)

end Mining.Mined

open Mining in
/-- Every nonempty sublist of a mined itemset is mined, with at least its support. So the size groups are those of all
sizes from two up to the largest one, and from three files on a group is not empty unless the group below it has as many
itemsets as each of its own has files. -/
theorem mineUnder_closed {plan : Mining.Plan} (complete : plan.Complete) (options : Options) (log : List Transaction) :
    (∀ itemset ∈ mineUnder plan options log, ∀ part : List String, part ≠ [] → part.Sublist itemset.items →
      ∃ smaller ∈ mineUnder plan options log, smaller.items = part ∧ itemset.support ≤ smaller.support) ∧
    (SizeGroups.ofItemsets (mineUnder plan options log)).keys =
      List.range' 2 (((mineUnder plan options log).map Itemset.size).max?.getD 0 - 1) ∧
    ∀ size, 3 ≤ size → (SizeGroups.ofItemsets (mineUnder plan options log)).getD size #[] ≠ #[] →
      size ≤ ((SizeGroups.ofItemsets (mineUnder plan options log)).getD (size - 1) #[]).size := by
  have mined := mineUnder_mined complete options log
  refine ⟨?_, mined.keys_sizeGroups, ?_⟩
  · intro itemset member part nonempty within
    exact mined.exists_part member nonempty within
  · intro size several nonempty
    exact mined.size_le_size_below several nonempty

open Mining in
/-- Three files that change together in two of three changes: the pair without the most frequent of them is mined, and
there are at least three pairs. -/
theorem mineUnder_closed_triple :
    Mining.Plan.Complete (fun _ count => Gather.inOrder count) ∧
      let found := mine ⟨Double.nearest 3 5, 2, by decide +kernel, by decide⟩
        ([["core", "docs", "tests"], ["core"], ["tests", "docs", "core"]].map Transaction.ofFiles)
      (∃ pair ∈ found, pair.items = ["docs", "tests"] ∧ 2 ≤ pair.support) ∧
        3 ≤ ((SizeGroups.ofItemsets found).getD 2 #[]).size := by
  have complete : Mining.Plan.Complete (fun _ count => Gather.inOrder count) := fun _ => Gather.inOrder_covers
  refine ⟨complete, ?_⟩
  intro found
  let log := [["core", "docs", "tests"], ["core"], ["tests", "docs", "core"]].map Transaction.ofFiles
  let options : Options := ⟨Double.nearest 3 5, 2, by decide +kernel, by decide⟩
  let triple : Itemset := ⟨["core", "docs", "tests"], 2⟩
  have ranked : triple.items.Pairwise (RanksBefore log) := by
    have first : ∀ file ∈ ["docs", "tests"], coverage log {file} < coverage log {"core"} := by decide +kernel
    have second : RanksBefore log "docs" "tests" := .inr ⟨by decide +kernel, by decide +kernel⟩
    exact List.pairwise_cons.mpr ⟨fun file member => .inl (first file member), List.pairwise_pair.mpr second⟩
  have member : triple ∈ found := ((mineUnder_mined complete options log).mem_iff triple).mpr
    ⟨by decide, ranked, by decide +kernel, by decide +kernel⟩
  obtain ⟨parts, _, groups⟩ := mineUnder_closed complete options log
  refine ⟨parts triple member ["docs", "tests"] (by decide) (by decide), groups 3 (Nat.le_refl 3) ?_⟩
  intro empty
  have noTriple := congrArg Array.toList empty
  rw [SizeGroups.toList_getD_ofItemsets] at noTriple
  exact List.filter_eq_nil_iff.mp noTriple triple member (by decide)

end ChangeCoupling
