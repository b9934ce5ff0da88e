import ChangeCoupling.Proofs.Combinations
import ChangeCoupling.Proofs.Numbering

/-! Counting candidates. Looking up the combinations of a transaction and testing every candidate find the same
positions, each once, so that a candidate's count is the number of transactions that contain it. -/

namespace ChangeCoupling.Mining

namespace CandidateIndex

variable {size : Nat} {candidates : List Ids}

private theorem mem_hitsByTest (transaction : Ids) (position : Nat) :
    position ∈ (ofCandidates size candidates).hitsByTest transaction ↔
      ∃ candidate, candidates[position]? = some candidate ∧ candidate.Sublist transaction := by
  simp only [hitsByTest, ofCandidates, List.mem_filterMap, Prod.exists, List.mem_zipIdx_iff_getElem?]
  constructor
  · rintro ⟨candidate, other, known, hit⟩
    split at hit
    next within =>
      cases hit
      exact ⟨candidate, known, List.isSublist_iff_sublist.mp within⟩
    next => cases hit
  · rintro ⟨candidate, known, within⟩
    exact ⟨candidate, position, known, if_pos (List.isSublist_iff_sublist.mpr within)⟩

private theorem nodup_hitsByTest (transaction : Ids) :
    ((ofCandidates size candidates).hitsByTest transaction).Nodup := by
  have distinct : (candidates.zipIdx.map Prod.snd).Pairwise (· ≠ ·) := by
    rw [List.zipIdx_map_snd]
    exact List.nodup_range'
  rw [List.pairwise_map] at distinct
  rw [hitsByTest, List.nodup_iff_pairwise_ne, List.pairwise_filterMap]
  refine distinct.imp ?_
  rintro ⟨first, number⟩ ⟨second, number'⟩ different hit firstHit hit' secondHit same
  simp only [Option.ite_none_right_eq_some, Option.some.injEq] at firstHit secondHit
  exact different (firstHit.2.trans (same.trans secondHit.2.symm))

/-- The walk looks up all combinations of the transaction, one after the other. -/
theorem hitsByCombination_eq (index : CandidateIndex) (transaction : Ids) :
    index.hitsByCombination transaction = (combinations index.size transaction).filterMap (index.positions[·]?) := by
  have looked : ∀ (parts : List Ids) (hits : List Nat),
      parts.foldl (fun hits part => index.positions[part]?.toList ++ hits) hits =
        (parts.filterMap (index.positions[·]?)).reverse ++ hits := by
    intro parts
    induction parts with
    | nil => intro hits; rfl
    | cons part rest ih =>
      intro hits
      rw [List.foldl_cons, ih, List.filterMap_cons]
      cases index.positions[part]? <;> simp
  simp [hitsByCombination, Walk.overCombinations_eq, looked]

private theorem mem_hitsByCombination (distinct : candidates.Nodup)
    (sizes : ∀ candidate ∈ candidates, candidate.length = size) (transaction : Ids) (position : Nat) :
    position ∈ (ofCandidates size candidates).hitsByCombination transaction ↔
      ∃ candidate, candidates[position]? = some candidate ∧ candidate.Sublist transaction := by
  simp only [hitsByCombination_eq, ofCandidates, List.mem_filterMap, mem_combinations, getElem?_positions distinct]
  constructor
  · rintro ⟨candidate, ⟨within, _⟩, known⟩
    exact ⟨candidate, known, within⟩
  · rintro ⟨candidate, known, within⟩
    exact ⟨candidate, ⟨within, sizes candidate (List.mem_of_getElem? known)⟩, known⟩

private theorem nodup_hitsByCombination (distinct : candidates.Nodup) {transaction : Ids}
    (increasing : transaction.Pairwise (· < ·)) :
    ((ofCandidates size candidates).hitsByCombination transaction).Nodup := by
  rw [hitsByCombination_eq]
  apply List.Nodup.filterMap _ (combinations_nodup _ _ increasing)
  intro first second position firstKnown secondKnown
  rw [Option.mem_def, ofCandidates, getElem?_positions distinct] at firstKnown secondKnown
  exact Option.some.inj (firstKnown.symm.trans secondKnown)

private theorem exists_known_iff {transaction : Ids} {position : Nat} {candidate : Ids}
    (known : candidates[position]? = some candidate) :
    (∃ other, candidates[position]? = some other ∧ other.Sublist transaction) ↔
      candidate.isSublist transaction = true := by
  rw [known, List.isSublist_iff_sublist]
  constructor
  · rintro ⟨other, same, within⟩
    exact Option.some.inj same ▸ within
  · exact fun within => ⟨candidate, rfl, within⟩

theorem count_hitsByTest {transaction : Ids} {position : Nat} {candidate : Ids}
    (known : candidates[position]? = some candidate) :
    ((ofCandidates size candidates).hitsByTest transaction).count position =
      if candidate.isSublist transaction then 1 else 0 := by
  rw [(nodup_hitsByTest transaction).count]
  simp only [mem_hitsByTest, exists_known_iff known]

theorem count_hitsByCombination (distinct : candidates.Nodup)
    (sizes : ∀ candidate ∈ candidates, candidate.length = size) {transaction : Ids}
    (increasing : transaction.Pairwise (· < ·)) {position : Nat} {candidate : Ids}
    (known : candidates[position]? = some candidate) :
    ((ofCandidates size candidates).hitsByCombination transaction).count position =
      if candidate.isSublist transaction then 1 else 0 := by
  rw [(nodup_hitsByCombination distinct increasing).count]
  simp only [mem_hitsByCombination distinct sizes, exists_known_iff known]

/-- Both ways to look for candidates hit exactly those in the transaction, and each of them once. -/
theorem count_hits (distinct : candidates.Nodup) (sizes : ∀ candidate ∈ candidates, candidate.length = size)
    {transaction : Ids} (increasing : transaction.Pairwise (· < ·)) {position : Nat} {candidate : Ids}
    (known : candidates[position]? = some candidate) :
    ((ofCandidates size candidates).hits transaction).count position =
      if candidate.isSublist transaction then 1 else 0 := by
  unfold hits
  split
  · exact count_hitsByCombination distinct sizes increasing known
  · exact count_hitsByTest known

theorem hitsByCombination_perm (distinct : candidates.Nodup)
    (sizes : ∀ candidate ∈ candidates, candidate.length = size) {transaction : Ids}
    (increasing : transaction.Pairwise (· < ·)) :
    ((ofCandidates size candidates).hitsByCombination transaction).Perm
      ((ofCandidates size candidates).hitsByTest transaction) := by
  apply (List.perm_ext_iff_of_nodup (nodup_hitsByCombination distinct increasing) (nodup_hitsByTest transaction)).mpr
  intro position
  rw [mem_hitsByCombination distinct sizes, mem_hitsByTest]

end CandidateIndex

namespace CandidateCounts

@[simp]
theorem size_hit (counts : CandidateCounts) (positions : List Nat) : (hit counts positions).size = counts.size := by
  induction positions generalizing counts with
  | nil => rfl
  | cons position rest ih => exact (ih _).trans (by simp)

private theorem getD_modify (counts : CandidateCounts) {position : Nat} (inside : position < counts.size)
    (other : Nat) :
    (counts.modify other (· + 1)).getD position 0 = counts.getD position 0 + if other = position then 1 else 0 := by
  have inside' : position < (counts.modify other (· + 1)).size := by simpa using inside
  rw [Array.getD_eq_getD_getElem?, Array.getD_eq_getD_getElem?, Array.getElem?_eq_getElem inside,
    Array.getElem?_eq_getElem inside', Array.getElem_modify]
  by_cases same : other = position
  · simp [same]
  · simp [same]

theorem getD_hit (counts : CandidateCounts) (positions : List Nat) {position : Nat} (inside : position < counts.size) :
    (hit counts positions).getD position 0 = counts.getD position 0 + positions.count position := by
  induction positions generalizing counts with
  | nil => rfl
  | cons other rest ih =>
    have rest := ih (counts.modify other (· + 1)) (by simpa using inside)
    rw [hit, List.foldl_cons, ← hit, rest, getD_modify counts inside, List.count_cons]
    by_cases same : other = position
    · simp [same]; omega
    · simp [same]

theorem hit_perm {positions positions' : List Nat} (same : positions.Perm positions') (counts : CandidateCounts) :
    hit counts positions = hit counts positions' := by
  have value (positions : List Nat) {position : Nat} (inside : position < counts.size)
      (inside' : position < (hit counts positions).size) :
      (hit counts positions)[position] = counts.getD position 0 + positions.count position := by
    rw [← getD_hit counts positions inside, Array.getD_eq_getD_getElem?, Array.getElem?_eq_getElem inside',
      Option.getD_some]
  apply Array.ext (by simp)
  intro position first second
  have inside : position < counts.size := by simpa using first
  rw [value positions inside, value positions' inside, same.count_eq]

@[simp]
theorem size_zero (index : CandidateIndex) : (zero index).size = index.candidates.length := by simp [zero]

@[simp]
theorem getD_zero (index : CandidateIndex) (position : Nat) : (zero index).getD position 0 = 0 := by
  simp only [zero, Array.getD_eq_getD_getElem?, Array.getElem?_replicate]
  split <;> rfl

theorem size_ofPart (index : CandidateIndex) (part : List Ids) :
    (ofPart index part).size = index.candidates.length := by
  unfold ofPart
  apply List.foldlRecOn (motive := fun counts : CandidateCounts => counts.size = index.candidates.length) _ _
    (size_zero index)
  intro counts counted transaction _
  rw [size_hit, counted]

variable {size : Nat} {candidates : List Ids}

private theorem getD_hits (distinct : candidates.Nodup) (sizes : ∀ candidate ∈ candidates, candidate.length = size)
    {position : Nat} {candidate : Ids} (known : candidates[position]? = some candidate) (log : List Ids)
    (increasing : ∀ transaction ∈ log, transaction.Pairwise (· < ·)) (counts : CandidateCounts)
    (inside : position < counts.size) :
    (log.foldl (fun counts transaction => hit counts ((CandidateIndex.ofCandidates size candidates).hits transaction))
      counts).getD position 0 =
        counts.getD position 0 + log.countP (fun transaction => candidate.isSublist transaction) := by
  induction log generalizing counts with
  | nil => rfl
  | cons transaction rest ih =>
    have restIncreasing : ∀ other ∈ rest, other.Pairwise (· < ·) :=
      fun other member => increasing other (by simp [member])
    rw [List.foldl_cons, ih restIncreasing _ (by simpa using inside), getD_hit _ _ inside,
      CandidateIndex.count_hits distinct sizes (increasing _ List.mem_cons_self) known, List.countP_cons]
    omega

theorem getD_ofPart (distinct : candidates.Nodup) (sizes : ∀ candidate ∈ candidates, candidate.length = size)
    {position : Nat} {candidate : Ids} (known : candidates[position]? = some candidate) (part : List Ids)
    (increasing : ∀ transaction ∈ part, transaction.Pairwise (· < ·)) :
    (ofPart (.ofCandidates size candidates) part).getD position 0 =
      part.countP (fun transaction => candidate.isSublist transaction) := by
  have inside : position < candidates.length := (List.getElem?_eq_some_iff.mp known).1
  have candidateSize := sizes candidate (List.mem_of_getElem? known)
  unfold ofPart
  rw [getD_hits distinct sizes known _
    (fun transaction member => increasing transaction (List.mem_filter.mp member).1) _
    (by simpa [CandidateIndex.ofCandidates] using inside), getD_zero, Nat.zero_add, List.countP_filter]
  -- A transaction that is too short to be looked at would not contain the candidate either.
  apply List.countP_congr
  intro transaction _
  simp only [Bool.and_eq_true, decide_eq_true_eq, List.isSublist_iff_sublist]
  exact ⟨fun both => both.1, fun within => ⟨within, candidateSize.ge.trans within.length_le⟩⟩

theorem getD_merge (first second : CandidateCounts) (same : first.size = second.size) (position : Nat) :
    (merge first second).getD position 0 = first.getD position 0 + second.getD position 0 := by
  simp only [merge, Array.getD_eq_getD_getElem?, Array.getElem?_zipWith]
  by_cases inside : position < first.size
  · have inside' : position < second.size := same ▸ inside
    simp [inside, inside']
  · have outside : second[position]? = none := by simpa using same ▸ Nat.le_of_not_lt inside
    have outside' : first[position]? = none := by simpa using Nat.le_of_not_lt inside
    simp [outside, outside']

end CandidateCounts

/-- Each candidate is counted once for each transaction that contains it, whatever the pieces, the way they are
brought together and the way in which candidates are looked for. -/
theorem countCandidates_eq {plan : Plan} (complete : plan.Complete) {chunk : Nat} (positive : 0 < chunk) {size : Nat}
    {log candidates : List Ids} (increasing : ∀ transaction ∈ log, transaction.Pairwise (· < ·))
    (distinct : candidates.Nodup) (sizes : ∀ candidate ∈ candidates, candidate.length = size) :
    (countCandidates plan chunk size log candidates).toList =
      candidates.map fun candidate => log.countP (fun transaction => candidate.isSublist transaction) := by
  let index := CandidateIndex.ofCandidates size candidates
  let parts := chunks chunk log
  have additive (position : Nat) : Gather.Additive (fun counts : CandidateCounts => counts.size = candidates.length)
      (fun counts => counts.getD position 0) (CandidateCounts.zero index) CandidateCounts.merge := by
    refine ⟨CandidateCounts.size_zero index, ?_, CandidateCounts.getD_zero index position, ?_⟩
    · intro first second firstSize secondSize
      simp [CandidateCounts.merge, firstSize, secondSize]
    · intro first second firstSize secondSize
      exact CandidateCounts.getD_merge first second (firstSize.trans secondSize.symm) position
  have covers : (plan size parts.length).Covers (parts.map (CandidateCounts.ofPart index)).length := by
    simpa using complete size parts.length
  have gathered (position : Nat) := Gather.runList_additive (additive position)
    (parts.map (CandidateCounts.ofPart index))
    (by simp [CandidateCounts.size_ofPart, index, CandidateIndex.ofCandidates]) _ covers
  have total : (countCandidates plan chunk size log candidates).size = candidates.length := (gathered 0).1
  apply List.ext_getElem (by simp [total])
  intro position inside inside'
  have inside : position < candidates.length := by simpa using inside'
  have known : candidates[position]? = some candidates[position] := List.getElem?_eq_getElem inside
  have count : (countCandidates plan chunk size log candidates).getD position 0 =
      (parts.map fun part => part.countP (fun transaction => candidates[position].isSublist transaction)).sum := by
    refine (gathered position).2.trans ?_
    rw [List.map_map]
    congr 1
    apply List.map_congr_left
    intro part member
    apply CandidateCounts.getD_ofPart distinct sizes known
    intro transaction transactionMember
    apply increasing
    rw [← flatten_chunks positive log]
    exact List.mem_flatten.mpr ⟨part, member, transactionMember⟩
  rw [sum_countP_chunks positive, Array.getD_eq_getD_getElem?, Array.getElem?_eq_getElem (total ▸ inside)] at count
  simpa using count

/-- Each candidate gets the number of transactions that contain all its members. For every transaction both ways to look
for candidates hit those that it contains, each once, and no others; so it makes no difference for which transactions
the one way is taken and for which the other. -/
theorem countCandidates_support {plan : Plan} (complete : plan.Complete) {chunk : Nat} (positive : 1 ≤ chunk)
    {size : Nat} {log candidates : List Ids} (increasing : ∀ transaction ∈ log, transaction.Pairwise (· < ·))
    (distinct : candidates.Nodup) (ordered : ∀ candidate ∈ candidates, candidate.Pairwise (· < ·))
    (sizes : ∀ candidate ∈ candidates, candidate.length = size) :
    (countCandidates plan chunk size log candidates).toList =
      candidates.map (fun candidate => log.countP fun transaction => ∀ id ∈ candidate, id ∈ transaction) ∧
    ∀ transaction ∈ log,
      (∀ counts,
        CandidateCounts.hit counts ((CandidateIndex.ofCandidates size candidates).hitsByCombination transaction) =
          CandidateCounts.hit counts ((CandidateIndex.ofCandidates size candidates).hitsByTest transaction)) ∧
      ∀ position candidate, candidates[position]? = some candidate →
        ((CandidateIndex.ofCandidates size candidates).hitsByCombination transaction).count position =
          (if ∀ id ∈ candidate, id ∈ transaction then 1 else 0) ∧
        ((CandidateIndex.ofCandidates size candidates).hitsByTest transaction).count position =
          (if ∀ id ∈ candidate, id ∈ transaction then 1 else 0) := by
  have contains : ∀ candidate ∈ candidates, ∀ transaction ∈ log,
      candidate.isSublist transaction = true ↔ ∀ id ∈ candidate, id ∈ transaction := by
    intro candidate member transaction inside
    rw [List.isSublist_iff_sublist, sublist_iff_subset (ordered candidate member) (increasing transaction inside)]
    rfl
  constructor
  · rw [countCandidates_eq complete positive increasing distinct sizes]
    apply List.map_congr_left
    intro candidate member
    apply List.countP_congr
    intro transaction inside
    rw [contains candidate member transaction inside, decide_eq_true_iff]
  · intro transaction inside
    have increasing := increasing transaction inside
    refine ⟨CandidateCounts.hit_perm (CandidateIndex.hitsByCombination_perm distinct sizes increasing), ?_⟩
    intro position candidate known
    have member := List.mem_of_getElem? known
    simp only [← contains candidate member transaction inside]
    exact ⟨CandidateIndex.count_hitsByCombination distinct sizes increasing known,
      CandidateIndex.count_hitsByTest known⟩

/-- Three files have no more pairs than there are candidates and five files have more, so one run looks in both ways. -/
theorem countCandidates_support_mixed :
    binomial 3 2 ≤ 3 ∧ ¬ binomial 5 2 ≤ 3 ∧
      (countCandidates (fun _ count => Gather.inOrder count) 2 2 [[0, 1, 2], [0, 1, 2, 3, 4], [1, 2], [4]]
        [[0, 1], [0, 2], [1, 2]]).toList = [2, 2, 3] := by
  refine ⟨by decide, by decide, ?_⟩
  have counted := (@countCandidates_support (fun _ count => Gather.inOrder count) (fun _ => Gather.inOrder_covers) 2
    (by decide) 2 [[0, 1, 2], [0, 1, 2, 3, 4], [1, 2], [4]] [[0, 1], [0, 2], [1, 2]] (by decide) (by decide) (by decide)
    (by decide)).1
  exact counted.trans (by decide)

end ChangeCoupling.Mining
