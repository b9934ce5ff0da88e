import ChangeCoupling.Proofs.SubsetEnumeration

/-! Two ways to go over the subsets of one size: the loop that changes the positions of a subset into those of the next
one, and the walk that chooses item after item. Both meet every subset once and in lexicographic order, and both come to
their end without ever being stopped. -/

namespace ChangeCoupling.Subset

open Mining (combinations combinations_map combinations_sorted mem_combinations Walk)

/-- The subsets of `k` of `n` positions, each of them in increasing order, in lexicographic order. -/
structure Listing (n k : Nat) (subsets : List (List Nat)) : Prop where
  sorted : subsets.Pairwise (· < ·)
  mem_iff : ∀ positions, positions ∈ subsets ↔
    positions.Pairwise (· < ·) ∧ positions.length = k ∧ ∀ position ∈ positions, position < n

theorem listing_combinations (n k : Nat) : Listing n k (combinations k (List.range n)) := by
  refine ⟨combinations_sorted k _ List.pairwise_lt_range, ?_⟩
  intro positions
  rw [mem_combinations]
  constructor
  · rintro ⟨within, length⟩
    refine ⟨List.pairwise_lt_range.sublist within, length, ?_⟩
    exact fun position member => List.mem_range.mp (within.subset member)
  · rintro ⟨increasing, length, inRange⟩
    refine ⟨(sublist_iff_subset increasing List.pairwise_lt_range).mpr ?_, length⟩
    exact fun position member => List.mem_range.mpr (inRange position member)

/-- What one step does, from the last position back: some positions are at their bounds, the first one before them moves
on, and they follow it closely. -/
private theorem next?_eq_some {bound : Nat} {positions following : List Nat}
    (step : next? bound positions = some following) :
    ∃ full position earlier, positions = full ++ position :: earlier ∧ position + full.length < bound ∧
      (∀ i place, full[i]? = some place → bound ≤ place + i) ∧
      following = (List.range' (position + 1) (full.length + 1)).reverse ++ earlier := by
  induction positions generalizing bound following with
  | nil => simp [next?] at step
  | cons position earlier ih =>
    rw [next?] at step
    split at step
    next room =>
      cases step
      exact ⟨[], position, earlier, rfl, room, by simp, rfl⟩
    next atBound =>
      split at step
      next before others earlierStep =>
        cases step
        obtain ⟨full, moved, first, rfl, room, bounds, following⟩ := ih earlierStep
        refine ⟨position :: full, moved, first, rfl, by rw [List.length_cons]; omega, ?_, ?_⟩
        · intro i place known
          cases i with
          | zero =>
            obtain rfl : position = place := by simpa using known
            omega
          | succ i =>
            have := bounds i place (by simpa using known)
            omega
        · rw [List.range'_concat, List.reverse_concat, Nat.one_mul] at following
          obtain ⟨rfl, rfl⟩ := List.cons.inj following
          rw [List.length_cons, List.range'_concat, List.range'_concat]
          simp [Nat.add_assoc]
      next => cases step

/-- The positions are written over from the first to the last. Each new one is below all old ones that are still
there. -/
private theorem written_lt {bound : Nat} {old new : List Nat} (increasing : old.Pairwise (· < ·))
    (step : next? bound old.reverse = some new.reverse) {i j place place' : Nat} (before : i < j)
    (written : new[i]? = some place) (kept : old[j]? = some place') : place < place' := by
  obtain ⟨full, position, earlier, oldSplit, room, bounds, newSplit⟩ := next?_eq_some step
  obtain rfl : old = earlier.reverse ++ position :: full.reverse := by
    rw [← List.reverse_reverse old, oldSplit]
    simp
  obtain rfl : new = earlier.reverse ++ List.range' (position + 1) (full.length + 1) := by
    rw [← List.reverse_reverse new, newSplit]
    simp
  rw [List.getElem?_append] at written
  by_cases shared : i < earlier.reverse.length
  · -- Before the position that moves, the old positions stay.
    have stays : (earlier.reverse ++ position :: full.reverse)[i]? = some place := by
      rw [List.getElem?_append_left shared]
      rwa [if_pos shared] at written
    obtain ⟨inside, rfl⟩ := List.getElem?_eq_some_iff.mp stays
    obtain ⟨inside', rfl⟩ := List.getElem?_eq_some_iff.mp kept
    exact List.pairwise_iff_getElem.mp increasing i j inside inside' before
  · rw [if_neg shared] at written
    obtain ⟨offset, rfl⟩ : ∃ offset, j = earlier.reverse.length + (offset + 1) :=
      ⟨j - earlier.reverse.length - 1, by omega⟩
    rw [List.getElem?_append_right (Nat.le_add_right _ _), Nat.add_sub_cancel_left, List.getElem?_cons_succ] at kept
    have offsetInside : offset < full.length := by simpa using (List.getElem?_eq_some_iff.mp kept).1
    rw [List.getElem?_reverse offsetInside] at kept
    have atBound := bounds _ _ kept
    rw [List.getElem?_range' (by omega)] at written
    cases written
    omega

namespace Path

variable {bound : Nat} {start last : List Nat} {visited : List (List Nat)}

theorem start_mem (path : Path bound start visited last) : start ∈ visited := by
  cases path <;> exact List.mem_cons_self

theorem next_mem (path : Path bound start visited last) (finished : next? bound last = none)
    {positions following : List Nat} (member : positions ∈ visited) (step : next? bound positions = some following) :
    following ∈ visited := by
  induction path with
  | single only =>
    obtain rfl := List.mem_singleton.mp member
    cases finished.symm.trans step
  | step move rest ih =>
    rcases List.mem_cons.mp member with rfl | later
    · cases move.symm.trans step
      exact List.mem_cons_of_mem _ rest.start_mem
    · exact List.mem_cons_of_mem _ (ih finished later)

end Path

/-- While the positions of one subset are written over by those of the next one, they stay increasing and in range. -/
private theorem written_increasing {n k : Nat} {subsets : List (List Nat)} (listing : Listing n k subsets)
    {old new : List Nat} (oldMember : old ∈ subsets) (newMember : new ∈ subsets)
    (step : next? (n - 1) old.reverse = some new.reverse) (written : Nat) :
    (new.take written ++ old.drop written).Pairwise (· < ·) ∧
      ∀ position ∈ new.take written ++ old.drop written, position < n := by
  obtain ⟨oldIncreasing, _, oldInRange⟩ := (listing.mem_iff old).mp oldMember
  obtain ⟨newIncreasing, _, newInRange⟩ := (listing.mem_iff new).mp newMember
  constructor
  · refine List.pairwise_append.mpr ⟨newIncreasing.take, oldIncreasing.drop, ?_⟩
    intro place placeMember place' placeMember'
    obtain ⟨i, taken⟩ := List.mem_iff_getElem?.mp placeMember
    obtain ⟨j, dropped⟩ := List.mem_iff_getElem?.mp placeMember'
    rw [List.getElem?_take] at taken
    rw [List.getElem?_drop] at dropped
    split at taken
    next before => exact written_lt oldIncreasing step (by omega) taken dropped
    next => cases taken
  · intro position member
    rcases List.mem_append.mp member with taken | dropped
    · exact newInRange position (List.mem_of_mem_take taken)
    · exact oldInRange position (List.mem_of_mem_drop dropped)

private theorem masks_eq (n k : Nat) : masks n k = (combinations k (List.range n)).map (mask (weights n)) := by
  have collected (subsets : List (List Nat)) (found : List Nat) :
      subsets.foldl (fun found positions => mask (weights n) positions.reverse :: found) found =
        (subsets.map fun positions => mask (weights n) positions.reverse).reverse ++ found := by
    induction subsets generalizing found with
    | nil => rfl
    | cons positions rest ih => simp [ih]
  rw [masks, fold_eq, collected, List.append_nil, List.reverse_reverse]
  apply List.map_congr_left
  intro positions member
  exact mask_reverse (((listing_combinations n k).mem_iff positions).mp member).2.2

private theorem mask_lt_two_pow {n : Nat} {positions : List Nat} (increasing : positions.Pairwise (· < ·))
    (inRange : ∀ position ∈ positions, position < n) : mask (weights n) positions < 2 ^ n := by
  apply Nat.lt_pow_two_of_testBit
  intro i high
  rw [← Bool.not_eq_true, testBit_mask increasing inRange]
  exact fun member => Nat.not_lt.mpr high (inRange i member)

private theorem combinations_eq_map (k : Nat) (items : List Nat) :
    combinations k items = (combinations k (List.range items.length)).map (List.map (items.getD · 0)) := by
  have named : items = (List.range items.length).map (items.getD · 0) := by
    apply List.ext_getElem (by simp)
    intro i inside _
    simp [inside]
  rw [← combinations_map, ← named]

/-- For any `n` and `k` there is one list of subsets, complete, without repetitions and in lexicographic order, which
both ways go over. The loop comes through it step by step to its end, with positions that stay increasing and in range
even while they are written over, and gives each subset as the number of its bits. The walk through any items chooses
those at the positions of these subsets, whatever was chosen before it, and no difference is missing on its way; through
the positions themselves it meets what the loop meets. -/
theorem subsets_enumerated (n k : Nat) :
    ∃ subsets, Listing n k subsets ∧ (n < k → subsets = []) ∧
      (k ≤ n → ∃ last, Path (n - 1) (List.range k).reverse (subsets.map List.reverse) last ∧
        next? (n - 1) last = none) ∧
      (∀ old ∈ subsets, ∀ new : List Nat, next? (n - 1) old.reverse = some new.reverse → ∀ written,
        (new.take written ++ old.drop written).Pairwise (· < ·) ∧
          ∀ position ∈ new.take written ++ old.drop written, position < n) ∧
      masks n k = subsets.map (mask (weights n)) ∧
      (∀ positions ∈ subsets, mask (weights n) positions < 2 ^ n ∧
        ∀ i, (mask (weights n) positions).testBit i = true ↔ i ∈ positions) ∧
      (∀ (β : Type) (visit : β → Nat → β) (state : β),
        fold n k (fun state positions => visit state (mask (weights n) positions)) state =
          (masks n k).foldl visit state) ∧
      ∀ (β : Type) (visit : β → List Nat → β) (walk : Walk Nat β),
        (∀ items : List Nat, items.length = n → Walk.overCombinations k items visit walk =
          some ⟨(subsets.map (List.map (items.getD · 0))).foldl visit walk.state, #[]⟩) ∧
        Walk.overCombinations k (List.range n) visit walk =
          some ⟨fold n k (fun state positions => visit state positions.reverse) walk.state, #[]⟩ := by
  have listing := listing_combinations n k
  refine ⟨combinations k (List.range n), listing, combinations_range_eq_nil, exists_run, ?_, masks_eq n k, ?_, ?_, ?_⟩
  · intro old member new step
    have fits : k ≤ n := by
      by_contra many
      simp [combinations_range_eq_nil (Nat.lt_of_not_le many)] at member
    obtain ⟨last, path, finished⟩ := exists_run fits
    have following := path.next_mem finished (List.mem_map_of_mem member) step
    have newMember : new ∈ combinations k (List.range n) := by simpa using following
    exact written_increasing listing member newMember step
  · intro positions member
    obtain ⟨increasing, _, inRange⟩ := (listing.mem_iff positions).mp member
    exact ⟨mask_lt_two_pow increasing inRange, testBit_mask increasing inRange⟩
  · intro β visit state
    rw [fold_eq, masks_eq, List.foldl_map]
    apply List.foldl_ext
    intro state positions member
    rw [mask_reverse ((listing.mem_iff positions).mp member).2.2]
  · intro β visit walk
    refine ⟨?_, ?_⟩
    · rintro items rfl
      rw [Walk.overCombinations_eq, combinations_eq_map]
    · rw [Walk.overCombinations_eq, fold_eq]
      simp only [List.reverse_reverse]

end ChangeCoupling.Subset
