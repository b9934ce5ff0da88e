import ChangeCoupling.Proofs.CandidateCounting
import ChangeCoupling.Proofs.CandidateJoin

/-! The search level by level. A level that holds exactly the frequent itemsets of its size leads to candidates among
which are all frequent itemsets of the next size, and counting them leaves exactly these. Every part of a frequent
itemset is frequent, so nothing is lost when the search stops. -/

namespace ChangeCoupling.Mining

variable {log : List Transaction} {threshold : Nat} {names : List String}

/-- The frequent itemsets of one size, all of them and in order. -/
structure ExactLevel (log : List Transaction) (threshold : Nat) (names : List String) (size : Nat)
    (level : List Ids) : Prop where
  sorted : level.Pairwise (· < ·)
  mem_iff : ∀ ids, ids ∈ level ↔ Frequent log threshold names ids ∧ ids.length = size

theorem ExactLevel.level {size : Nat} {level : List Ids} (exact : ExactLevel log threshold names size level) :
    Level size level :=
  ⟨exact.sorted, fun ids member => ((exact.mem_iff ids).mp member).1.increasing,
    fun ids member => ((exact.mem_iff ids).mp member).2⟩

namespace ExactLevel

variable {size : Nat} {level : List Ids}

theorem mem_candidates_of_frequent (exact : ExactLevel log threshold names (size + 1) level) {ids : Ids}
    (frequent : Frequent log threshold names ids) (length : ids.length = size + 2) : ids ∈ candidates level := by
  refine (mem_candidates exact.level ids).mpr ⟨frequent.increasing, length, ?_⟩
  intro part within partLength
  exact (exact.mem_iff part).mpr ⟨frequent.part within, partLength⟩

theorem candidate_inRange (exact : ExactLevel log threshold names (size + 1) level) {candidate : Ids}
    (member : candidate ∈ candidates level) : ∀ id ∈ candidate, id < names.length := by
  obtain ⟨_, length, parts⟩ := (mem_candidates exact.level candidate).mp member
  intro id inside
  obtain ⟨position, bound, rfl⟩ := List.mem_iff_getElem.mp inside
  -- The member is still there when some other position is left out.
  obtain ⟨other, otherBound, different⟩ : ∃ other < candidate.length, position ≠ other := by
    by_cases first : position = 0
    · exact ⟨1, by omega, by omega⟩
    · exact ⟨0, by omega, first⟩
  have part := parts _ (List.eraseIdx_sublist candidate other) (by rw [List.length_eraseIdx_of_lt otherBound]; omega)
  apply ((exact.mem_iff _).mp part).1.inRange
  exact List.mem_eraseIdx_iff_getElem.mpr ⟨position, bound, different, rfl⟩

theorem countP_candidate (exact : ExactLevel log threshold names (size + 1) level) (distinct : names.Nodup)
    {candidate : Ids} (member : candidate ∈ candidates level) :
    (encodeLog names log).countP (fun transaction => candidate.isSublist transaction) =
      coverage log (decode names candidate).toFinset := by
  obtain ⟨increasing, length, _⟩ := (mem_candidates exact.level candidate).mp member
  exact countP_encodeLog distinct log increasing (exact.candidate_inRange member) (by omega)

end ExactLevel

/-- Itemsets with the numbers of transactions that contain them. -/
structure ExactCounts (log : List Transaction) (threshold : Nat) (names : List String) (sizes : Nat → Prop)
    (found : List (Ids × Nat)) : Prop where
  sorted : found.Pairwise fun first second =>
    first.1.length < second.1.length ∨ first.1.length = second.1.length ∧ first.1 < second.1
  mem_iff : ∀ ids count, (ids, count) ∈ found ↔
    (Frequent log threshold names ids ∧ count = coverage log (decode names ids).toFinset) ∧ sizes ids.length

theorem ExactCounts.level {size : Nat} {found : List (Ids × Nat)}
    (exact : ExactCounts log threshold names (· = size) found) :
    ExactLevel log threshold names size (found.map (·.1)) := by
  refine ⟨?_, ?_⟩
  · rw [List.pairwise_map]
    refine exact.sorted.imp_of_mem ?_
    rintro ⟨first, firstCount⟩ ⟨second, secondCount⟩ firstMember secondMember before
    have firstSize := ((exact.mem_iff _ _).mp firstMember).2
    have secondSize := ((exact.mem_iff _ _).mp secondMember).2
    rcases before with shorter | ⟨_, less⟩
    · dsimp only at shorter
      omega
    · exact less
  · intro ids
    constructor
    · intro member
      obtain ⟨⟨_, count⟩, entry, rfl⟩ := List.mem_map.mp member
      obtain ⟨⟨frequent, _⟩, length⟩ := (exact.mem_iff _ _).mp entry
      exact ⟨frequent, length⟩
    · rintro ⟨frequent, length⟩
      exact List.mem_map.mpr ⟨_, (exact.mem_iff ids _).mpr ⟨⟨frequent, rfl⟩, length⟩, rfl⟩

theorem ExactCounts.append {size : Nat} {small large : List (Ids × Nat)}
    (first : ExactCounts log threshold names (· = size) small)
    (second : ExactCounts log threshold names (size + 1 ≤ ·) large) :
    ExactCounts log threshold names (size ≤ ·) (small ++ large) := by
  refine ⟨?_, ?_⟩
  · refine List.pairwise_append.mpr ⟨first.sorted, second.sorted, ?_⟩
    rintro ⟨ids, count⟩ member ⟨ids', count'⟩ member'
    have smallSize := ((first.mem_iff _ _).mp member).2
    have largeSize := ((second.mem_iff _ _).mp member').2
    exact .inl (by dsimp only; omega)
  · intro ids count
    rw [List.mem_append, first.mem_iff, second.mem_iff, ← and_or_left]
    refine and_congr_right fun _ => ?_
    omega

/-- One step: the frequent ones among the candidates are the next level. -/
theorem frequentCandidates_exact {plan : Plan} (complete : plan.Complete) {chunk : Nat} (positive : 0 < chunk)
    (distinct : names.Nodup) {size : Nat} {level : List Ids}
    (exact : ExactLevel log threshold names (size + 1) level) :
    ExactCounts log threshold names (· = size + 2)
      (frequentCandidates plan threshold chunk (size + 2) (encodeLog names log) (candidates level)) := by
  have sorted := candidates_sorted exact.level
  have nodup : (candidates level).Nodup := nodup_of_pairwise List.lt_irrefl sorted
  have lengths : ∀ candidate ∈ candidates level, candidate.length = size + 2 :=
    fun candidate member => ((mem_candidates exact.level candidate).mp member).2.1
  unfold frequentCandidates
  rw [countCandidates_eq complete positive (encodeLog_increasing distinct log) nodup lengths,
    ← List.map_prod_left_eq_zip]
  refine ⟨?_, ?_⟩
  · apply List.Pairwise.filter
    rw [List.pairwise_map]
    refine sorted.imp_of_mem ?_
    intro first second firstMember secondMember less
    exact .inr ⟨by rw [lengths first firstMember, lengths second secondMember], less⟩
  · intro ids count
    simp only [List.mem_filter, List.mem_map, Prod.mk.injEq, decide_eq_true_eq]
    constructor
    · rintro ⟨⟨candidate, member, rfl, rfl⟩, enough⟩
      rw [exact.countP_candidate distinct member] at enough ⊢
      have increasing := ((mem_candidates exact.level candidate).mp member).1
      exact ⟨⟨⟨increasing, exact.candidate_inRange member, enough⟩, rfl⟩, lengths candidate member⟩
    · rintro ⟨⟨frequent, rfl⟩, length⟩
      have member := exact.mem_candidates_of_frequent frequent length
      exact ⟨⟨ids, member, rfl, exact.countP_candidate distinct member⟩, frequent.enough⟩

private theorem none_larger {size : Nat} (none : ∀ ids, ids.length = size → ¬ Frequent log threshold names ids)
    (ids : Ids) (larger : size ≤ ids.length) : ¬ Frequent log threshold names ids :=
  fun frequent => none (ids.take size) (by simp [larger]) (frequent.part (List.take_sublist size ids))

private theorem exactCounts_nil {size : Nat} (none : ∀ ids, ids.length = size → ¬ Frequent log threshold names ids) :
    ExactCounts log threshold names (size ≤ ·) [] := by
  refine ⟨List.Pairwise.nil, ?_⟩
  intro ids count
  simp only [List.not_mem_nil, false_iff]
  rintro ⟨⟨frequent, _⟩, larger⟩
  exact none_larger none ids larger frequent

/-- The whole search finds all frequent itemsets from the given size on, as long as `limit` levels are enough. -/
theorem levels_exact {plan : Plan} (complete : plan.Complete) {chunk : Nat} (positive : 0 < chunk)
    (distinct : names.Nodup) (limit : Nat) {size : Nat} {level : List Ids}
    (exact : ExactLevel log threshold names (size + 1) level)
    (bounded : ∀ ids, Frequent log threshold names ids → ids.length < size + 2 + limit) :
    ExactCounts log threshold names (size + 2 ≤ ·)
      (levels plan threshold chunk (encodeLog names log) limit (size + 2) level) := by
  -- Each level that is not the last one is exact again, so the search goes on under the same invariant.
  induction limit generalizing size level with
  | zero =>
    apply exactCounts_nil
    intro ids length frequent
    have := bounded ids frequent
    omega
  | succ limit ih =>
    have noCandidates (empty : candidates level = []) :
        ∀ ids, ids.length = size + 2 → ¬ Frequent log threshold names ids := by
      intro ids length frequent
      have member := exact.mem_candidates_of_frequent frequent length
      simp [empty] at member
    unfold levels
    split
    next few =>
      apply exactCounts_nil
      apply noCandidates
      match level, few with
      | [], _ => rfl
      | [left], _ => simp [candidates, joinAll, joins]
    next =>
      dsimp only
      split
      next empty => exact exactCounts_nil (noCandidates (List.isEmpty_iff.mp empty))
      next =>
        have found := frequentCandidates_exact complete positive distinct exact
        refine found.append (ih found.level ?_)
        intro ids frequent
        have := bounded ids frequent
        omega

end ChangeCoupling.Mining
