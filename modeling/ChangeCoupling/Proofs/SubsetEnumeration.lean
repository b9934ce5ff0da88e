import ChangeCoupling.Proofs.Combinations
import ChangeCoupling.Scoring.Subset
import Mathlib.Data.Nat.BitIndices
import Mathlib.Data.Nat.Choose.Bounds

/-! Stepping from one subset to the next one visits the subsets of one size in lexicographic order, and the bits of
masks stand for the positions of subsets. -/

namespace ChangeCoupling.Subset

open Mining (combinations combinations_eq_nil mem_combinations length_combinations)

theorem length_next? {bound : Nat} {positions following : List Nat} (step : next? bound positions = some following) :
    following.length = positions.length := by
  induction positions generalizing bound following with
  | nil => simp [next?] at step
  | cons position earlier ih =>
    rw [next?] at step
    split at step
    · cases step
      rfl
    · split at step
      next before others earlierStep =>
        cases step
        have length := ih earlierStep
        simp only [List.length_cons] at length ⊢
        omega
      next => cases step

/-- A first position takes no part in a step that the others can make. -/
private theorem next?_append {bound : Nat} {positions following : List Nat}
    (step : next? bound positions = some following) (first : Nat) :
    next? bound (positions ++ [first]) = some (following ++ [first]) := by
  induction positions generalizing bound following with
  | nil => simp [next?] at step
  | cons position earlier ih =>
    rw [next?] at step
    rw [List.cons_append, next?]
    split at step
    next room =>
      cases step
      rw [if_pos room]
      rfl
    next full =>
      rw [if_neg full]
      split at step
      next before others earlierStep =>
        cases step
        rw [ih earlierStep]
        rfl
      next => cases step

/-- When the others are at their end, the first position moves on if it has room, and they follow closely. -/
private theorem next?_append_of_none {bound : Nat} {positions : List Nat} (finished : next? bound positions = none)
    (first : Nat) :
    next? bound (positions ++ [first]) =
      if first < bound - positions.length then some (List.range' (first + 1) (positions.length + 1)).reverse
      else none := by
  induction positions generalizing bound with
  | nil =>
    simp only [List.nil_append, next?, List.length_nil, Nat.sub_zero, Nat.zero_add, List.range'_one,
      List.reverse_singleton]
  | cons position earlier ih =>
    rw [next?] at finished
    rw [List.cons_append, next?]
    split at finished
    next => cases finished
    next full =>
      rw [if_neg full]
      have earlierFinished : next? (bound - 1) earlier = none := by
        cases earlierStep : next? (bound - 1) earlier with
        | none => rfl
        | some following =>
          cases following with
          | nil =>
            have length := length_next? earlierStep
            rw [List.eq_nil_of_length_eq_zero length.symm] at earlierStep
            cases earlierStep
          | cons before others => simp [earlierStep] at finished
      rw [ih earlierFinished, List.length_cons, Nat.sub_sub, Nat.add_comm 1]
      by_cases room : first < bound - (earlier.length + 1)
      · rw [if_pos room, if_pos room]
        -- Both runs end in the same positions, of which the longer one has one more.
        have ends (length : Nat) : (List.range' (first + 1) (length + 1)).reverse =
            (first + 1 + length) :: (List.range' (first + 1) length).reverse := by
          rw [List.range'_concat, List.reverse_concat, Nat.one_mul]
        rw [ends (earlier.length + 1), ends earlier.length]
        rfl
      · rw [if_neg room, if_neg room]

/-- A run from one subset to another one, with all subsets on the way. -/
inductive Path (bound : Nat) : List Nat → List (List Nat) → List Nat → Prop where
  | single (positions : List Nat) : Path bound positions [positions] positions
  | step {positions following last : List Nat} {visited : List (List Nat)}
      (move : next? bound positions = some following) (rest : Path bound following visited last) :
      Path bound positions (positions :: visited) last

namespace Path

variable {bound : Nat} {start last : List Nat} {visited : List (List Nat)}

theorem last_mem (path : Path bound start visited last) : last ∈ visited := by
  induction path with
  | single positions => exact List.mem_singleton_self positions
  | step move rest ih => exact List.mem_cons_of_mem _ ih

theorem append (path : Path bound start visited last) {following last' : List Nat} {visited' : List (List Nat)}
    (move : next? bound last = some following) (rest : Path bound following visited' last') :
    Path bound start (visited ++ visited') last' := by
  induction path with
  | single positions => exact .step move rest
  | step first _ ih => exact .step first (ih move)

theorem withFirst (path : Path bound start visited last) (first : Nat) :
    Path bound (start ++ [first]) (visited.map (· ++ [first])) (last ++ [first]) := by
  induction path with
  | single positions => exact .single _
  | step move _ ih => exact .step (next?_append move first) ih

/-- The loop goes along the run, provided that its limit does not stop it. -/
theorem foldFrom_eq (path : Path bound start visited last) (finished : next? bound last = none)
    (f : β → List Nat → β) {limit : Nat} (enough : visited.length ≤ limit) (state : β) :
    foldFrom bound f limit start state = visited.foldl f state := by
  induction path generalizing limit state with
  | single positions =>
    obtain ⟨limit, rfl⟩ := Nat.exists_eq_add_of_le' enough
    simp [foldFrom, finished]
  | step move rest ih =>
    obtain ⟨limit, rfl⟩ : ∃ less, limit = less + 1 := ⟨limit - 1, by simp only [List.length_cons] at enough; omega⟩
    simp only [foldFrom, move, List.foldl_cons]
    exact ih finished (by simpa using enough) _

end Path

private theorem exists_path (count first : Nat) {k : Nat} (fits : k ≤ count) :
    ∃ last, Path (first + count - 1) (List.range' first k).reverse
        ((combinations k (List.range' first count)).map List.reverse) last ∧
      next? (first + count - 1) last = none := by
  induction count generalizing first k with
  | zero =>
    obtain rfl := Nat.le_zero.mp fits
    exact ⟨[], .single [], rfl⟩
  | succ count ih =>
    cases k with
    | zero => exact ⟨[], .single [], rfl⟩
    | succ k =>
      have bound : first + (count + 1) - 1 = first + 1 + count - 1 := by omega
      have visited : (combinations (k + 1) (List.range' first (count + 1))).map List.reverse =
          ((combinations k (List.range' (first + 1) count)).map List.reverse).map (· ++ [first]) ++
            (combinations (k + 1) (List.range' (first + 1) count)).map List.reverse := by
        have long : ¬ (List.range' (first + 1) count).length < k := by
          rw [List.length_range']
          omega
        rw [List.range'_succ, combinations, if_neg long, List.map_append, List.map_map, List.map_map]
        congr 1
        apply List.map_congr_left
        intro positions _
        simp
      obtain ⟨last, path, finished⟩ := ih (first + 1) (show k ≤ count by omega)
      have lastLength : last.length = k := by
        obtain ⟨positions, member, rfl⟩ := List.mem_map.mp path.last_mem
        rw [List.length_reverse]
        exact ((mem_combinations _ _ _).mp member).2
      have start : (List.range' first (k + 1)).reverse = (List.range' (first + 1) k).reverse ++ [first] := by
        rw [List.range'_succ, List.reverse_cons]
      have turn := next?_append_of_none finished first
      rw [lastLength] at turn
      rw [bound, visited, start]
      by_cases more : k + 1 ≤ count
      · rw [if_pos (by omega)] at turn
        obtain ⟨last', path', finished'⟩ := ih (first + 1) more
        exact ⟨last', (path.withFirst first).append turn path', finished'⟩
      · rw [if_neg (by omega)] at turn
        have none : combinations (k + 1) (List.range' (first + 1) count) = [] :=
          combinations_eq_nil (by rw [List.length_range']; omega)
        rw [none, List.map_nil, List.append_nil]
        exact ⟨last ++ [first], path.withFirst first, turn⟩

/-- Step by step, the loop comes from the first subset through all of them to one that has no next one. -/
theorem exists_run {n k : Nat} (fits : k ≤ n) :
    ∃ last, Path (n - 1) (List.range k).reverse ((combinations k (List.range n)).map List.reverse) last ∧
      next? (n - 1) last = none := by
  have run := exists_path n 0 fits
  rwa [Nat.zero_add, ← List.range_eq_range', ← List.range_eq_range'] at run

theorem combinations_range_eq_nil {n k : Nat} (many : n < k) : combinations k (List.range n) = [] :=
  combinations_eq_nil (by rwa [List.length_range])

theorem fold_eq (n k : Nat) (f : β → List Nat → β) (state : β) :
    fold n k f state =
      (combinations k (List.range n)).foldl (fun state positions => f state positions.reverse) state := by
  unfold fold
  split
  next many => rw [combinations_range_eq_nil many, List.foldl_nil]
  next fits =>
    obtain ⟨last, path, finished⟩ := exists_run (Nat.le_of_not_lt fits)
    have enough : ((combinations k (List.range n)).map List.reverse).length ≤ Nat.pow 2 n := by
      rw [List.length_map, length_combinations, List.length_range]
      exact Nat.choose_le_two_pow n k
    rw [path.foldFrom_eq finished f enough, List.foldl_map]

private theorem mask_eq_sum {n : Nat} (positions : List Nat) (inRange : ∀ position ∈ positions, position < n) :
    mask (weights n) positions = (positions.map (2 ^ ·)).sum := by
  have summed : ∀ bits, positions.foldl (fun bits position => bits + (weights n).getD position 0) bits =
      bits + (positions.map (2 ^ ·)).sum := by
    induction positions with
    | nil => simp
    | cons position rest ih =>
      intro bits
      have inside : position < n := inRange position List.mem_cons_self
      have weight : (weights n).getD position 0 = 2 ^ position := by
        simp [weights, Array.getD_eq_getD_getElem?, inside]
      rw [List.foldl_cons, ih (fun other member => inRange other (by simp [member])), weight, List.map_cons,
        List.sum_cons, Nat.add_assoc]
  simpa [mask] using summed 0

theorem mask_reverse {n : Nat} {positions : List Nat} (inRange : ∀ position ∈ positions, position < n) :
    mask (weights n) positions.reverse = mask (weights n) positions := by
  rw [mask_eq_sum _ inRange, mask_eq_sum _ (by simpa using inRange), List.map_reverse, List.sum_reverse]

theorem testBit_mask {n : Nat} {positions : List Nat} (increasing : positions.Pairwise (· < ·))
    (inRange : ∀ position ∈ positions, position < n) (i : Nat) :
    (mask (weights n) positions).testBit i = true ↔ i ∈ positions := by
  rw [mask_eq_sum positions inRange, ← Nat.mem_bitIndices, Nat.bitIndices_sum_map_two_pow increasing.sortedLT]

theorem ones_eq_countP (n bits : Nat) : ones n bits = (List.range n).countP bits.testBit := by
  induction n generalizing bits with
  | zero => rfl
  | succ n ih =>
    have shifted : bits.testBit ∘ Nat.succ = (bits / 2).testBit := by
      funext i
      exact Nat.testBit_succ bits i
    rw [ones, List.range_succ_eq_map, List.countP_cons, List.countP_map, shifted, ih, Nat.testBit_zero]
    by_cases empty : bits = 0
    · have none : (List.range n).countP (Nat.testBit 0) = 0 := List.countP_eq_zero.mpr (by simp)
      simp [empty, none]
    · rw [if_neg empty]
      rcases Nat.mod_two_eq_zero_or_one bits with even | odd
      · simp [even]
      · simp [odd, Nat.add_comm]

theorem ones_mask_and_mask {n : Nat} {subset other : List Nat} (increasing : subset.Pairwise (· < ·))
    (inRange : ∀ position ∈ subset, position < n) (otherIncreasing : other.Pairwise (· < ·))
    (otherInRange : ∀ position ∈ other, position < n) :
    ones n (mask (weights n) subset.reverse &&& mask (weights n) other) = subset.countP (other.contains ·) := by
  have chosen : ((List.range n).filter (subset.contains ·)).Perm subset := by
    apply (List.perm_ext_iff_of_nodup (List.nodup_range.filter _) (increasing.imp Nat.ne_of_lt)).mpr
    intro position
    simp only [List.mem_filter, List.mem_range, List.contains_iff_mem]
    exact ⟨fun both => both.2, fun member => ⟨inRange position member, member⟩⟩
  rw [mask_reverse inRange, ones_eq_countP, ← chosen.countP_eq, List.countP_filter]
  apply List.countP_congr
  intro position _
  rw [Nat.testBit_and, Bool.and_eq_true, Bool.and_eq_true, testBit_mask increasing inRange,
    testBit_mask otherIncreasing otherInRange, List.contains_iff_mem, List.contains_iff_mem, and_comm]

end ChangeCoupling.Subset
