import ChangeCoupling.Mining.Candidate
import Mathlib.Data.List.Basic
import Mathlib.Data.List.Sublists
import Mathlib.Data.List.TakeWhile

/-! Joining loses no candidate and makes none twice. In a sorted level the itemsets that share all but the last member
stand together, so that the search for partners may stop at the first other one. -/

namespace ChangeCoupling.Mining

/-- Lists of the same length are compared before what is appended to them. -/
theorem append_lt_append {first second : Ids} (less : first < second) (same : first.length = second.length)
    (rest rest' : Ids) : first ++ rest < second ++ rest' := by
  induction first generalizing second with
  | nil => simp [List.eq_nil_of_length_eq_zero same.symm] at less
  | cons id first ih =>
    cases second with
    | nil => simp at same
    | cons id' second =>
      simp only [List.cons_append, List.cons_lt_cons_iff] at less ⊢
      rcases less with less | ⟨rfl, less⟩
      · exact .inl less
      · exact .inr ⟨rfl, ih less (by simpa using same)⟩

private theorem lt_of_append_lt (base : Ids) {first second : Ids} (less : base ++ first < base ++ second) :
    first < second := by
  induction base with
  | nil => exact less
  | cons id base ih => exact ih (List.cons_lt_cons_self.mp less)

/-- Between two itemsets that share all but the last member there are only such. -/
private theorem dropLast_between {base between : Ids} {low high : Nat} (size : between.length = base.length + 1)
    (after : base ++ [low] < between) (before : between < base ++ [high]) : between.dropLast = base := by
  induction base generalizing between with
  | nil =>
    obtain ⟨id, rfl⟩ := List.length_eq_one_iff.mp size
    rfl
  | cons id base ih =>
    cases between with
    | nil => simp at size
    | cons id' between =>
      have rest : between.length = base.length + 1 := by simpa using size
      have nonempty : between ≠ [] := List.ne_nil_of_length_eq_add_one rest
      simp only [List.cons_append, List.cons_lt_cons_iff] at after before
      rw [List.dropLast_cons_of_ne_nil nonempty]
      rcases after with less | ⟨rfl, after⟩ <;> rcases before with less' | ⟨same, before⟩
      · omega
      · omega
      · omega
      · rw [ih rest after before]

private theorem mem_takeWhile_of_before {test : α → Bool} {items : List α} {r : α → α → Prop} {item : α}
    (sorted : items.Pairwise r) (member : item ∈ items) (passes : test item)
    (before : ∀ other ∈ items, r other item → test other) : item ∈ items.takeWhile test := by
  induction items with
  | nil => cases member
  | cons head rest ih =>
    obtain ⟨first, restSorted⟩ := List.pairwise_cons.mp sorted
    rcases List.mem_cons.mp member with rfl | later
    · simp [passes]
    · have headPasses := before head (by simp) (first item later)
      rw [List.takeWhile_cons_of_pos headPasses]
      exact List.mem_cons_of_mem _ (ih restSorted later fun other inside => before other (by simp [inside]))

/-- The itemsets of one size, each in increasing order, in lexicographic order. -/
structure Level (size : Nat) (level : List Ids) : Prop where
  sorted : level.Pairwise (· < ·)
  increasing : ∀ ids ∈ level, ids.Pairwise (· < ·)
  length : ∀ ids ∈ level, ids.length = size

theorem Level.tail {size : Nat} {left : Ids} {behind : List Ids} (level : Level size (left :: behind)) :
    Level size behind :=
  ⟨level.sorted.of_cons, fun ids member => level.increasing ids (by simp [member]),
    fun ids member => level.length ids (by simp [member])⟩

private theorem mem_joins (known : Std.HashSet Ids) {size low : Nat} {base : Ids} {behind : List Ids}
    (level : Level size ((base ++ [low]) :: behind)) (candidate : Ids) :
    candidate ∈ joins known (base ++ [low]) behind ↔
      ∃ high, base ++ [high] ∈ behind ∧ candidate = base ++ [low, high] ∧ partsKnown known candidate = true := by
  have sizes : ∀ right ∈ behind, right.length = base.length + 1 := by
    intro right member
    rw [level.length right (by simp [member]), ← level.length _ List.mem_cons_self]
    simp
  obtain ⟨first, behindSorted⟩ := List.pairwise_cons.mp level.sorted
  simp only [joins, List.mem_filter, List.mem_map, List.dropLast_concat]
  constructor
  · rintro ⟨⟨right, taken, rfl⟩, parts⟩
    have member := (List.takeWhile_sublist _).subset taken
    have shared : right.dropLast = base := by simpa using List.mem_takeWhile_imp taken
    have nonempty : right ≠ [] := List.ne_nil_of_length_eq_add_one (sizes right member)
    have split := List.dropLast_append_getLast nonempty
    rw [shared] at split
    refine ⟨right.getLast nonempty, by rwa [split], ?_, parts⟩
    simp [List.getLast?_eq_some_getLast nonempty]
  · rintro ⟨high, member, rfl, parts⟩
    refine ⟨⟨base ++ [high], ?_, by simp⟩, parts⟩
    refine mem_takeWhile_of_before behindSorted member (by simp) ?_
    intro other inside before
    have shared := dropLast_between (sizes other inside) (first other inside) before
    simp [shared]

private theorem mem_joinAll (known : Std.HashSet Ids) {size : Nat} {level : List Ids} (valid : Level (size + 1) level)
    (candidate : Ids) :
    candidate ∈ joinAll known level ↔ ∃ base low high, base ++ [low] ∈ level ∧ base ++ [high] ∈ level ∧ low < high ∧
      candidate = base ++ [low, high] ∧ partsKnown known candidate = true := by
  induction level with
  | nil => simp [joinAll]
  | cons left behind ih =>
    have nonempty : left ≠ [] := List.ne_nil_of_length_eq_add_one (valid.length left List.mem_cons_self)
    obtain ⟨base, low, rfl⟩ : ∃ base low, left = base ++ [low] :=
      ⟨_, _, (List.dropLast_append_getLast nonempty).symm⟩
    have first := (List.pairwise_cons.mp valid.sorted).1
    rw [joinAll, List.mem_append, mem_joins known valid, ih valid.tail]
    constructor
    · rintro (⟨high, member, rfl, parts⟩ | ⟨base', low', high, lowMember, highMember, rest⟩)
      · have less := lt_of_append_lt base (first _ member)
        exact ⟨base, low, high, by simp, by simp [member], by simpa [List.cons_lt_cons_iff] using less, rfl, parts⟩
      · exact ⟨base', low', high, by simp [lowMember], by simp [highMember], rest⟩
    · rintro ⟨base', low', high, lowMember, highMember, less, rfl, parts⟩
      have lower : base' ++ [low'] < base' ++ [high] :=
        List.append_left_lt (by simpa [List.cons_lt_cons_iff] using less)
      rcases List.mem_cons.mp lowMember with same | lowBehind
      · obtain ⟨rfl, same⟩ := List.append_inj' same rfl
        obtain rfl : low' = low := by simpa using same
        rcases List.mem_cons.mp highMember with same' | highBehind
        · rw [same'] at lower
          exact False.elim (List.lt_irrefl _ lower)
        · exact .inl ⟨high, highBehind, rfl, parts⟩
      · rcases List.mem_cons.mp highMember with same' | highBehind
        · rw [same'] at lower
          exact False.elim (List.lt_asymm lower (first _ lowBehind))
        · exact .inr ⟨base', low', high, lowBehind, highBehind, less, rfl, parts⟩

private theorem joins_sorted (known : Std.HashSet Ids) {size : Nat} {left : Ids} {behind : List Ids}
    (level : Level (size + 1) (left :: behind)) : (joins known left behind).Pairwise (· < ·) := by
  unfold joins
  apply List.Pairwise.filter
  rw [List.pairwise_map]
  have taken := level.tail.sorted.sublist (List.takeWhile_sublist fun right => right.dropLast == left.dropLast)
  refine taken.imp_of_mem ?_
  intro right right' member member' less
  have split : ∀ right ∈ behind.takeWhile (fun right => right.dropLast == left.dropLast),
      right = left.dropLast ++ right.getLast?.toList := by
    intro right member
    have shared : right.dropLast = left.dropLast := by simpa using List.mem_takeWhile_imp member
    have inside := (List.takeWhile_sublist _).subset member
    have nonempty : right ≠ [] := List.ne_nil_of_length_eq_add_one (level.tail.length right inside)
    rw [← shared, List.getLast?_eq_some_getLast nonempty]
    exact (List.dropLast_append_getLast nonempty).symm
  apply List.append_left_lt
  rw [split right member, split right' member'] at less
  exact lt_of_append_lt _ less

private theorem joinAll_sorted (known : Std.HashSet Ids) {size : Nat} {level : List Ids}
    (valid : Level (size + 1) level) : (joinAll known level).Pairwise (· < ·) := by
  induction level with
  | nil => simp [joinAll]
  | cons left behind ih =>
    rw [joinAll, List.pairwise_append]
    refine ⟨joins_sorted known valid, ih valid.tail, ?_⟩
    intro candidate member later laterMember
    obtain ⟨base, low, high, lowMember, _, _, rfl, _⟩ := (mem_joinAll known valid.tail later).mp laterMember
    obtain ⟨right, rfl⟩ : ∃ right : List Nat, candidate = left ++ right := by
      simp only [joins, List.mem_filter, List.mem_map] at member
      obtain ⟨⟨right, _, rfl⟩, _⟩ := member
      exact ⟨_, rfl⟩
    have sizes : left.length = (base ++ [low]).length := by
      rw [valid.length left List.mem_cons_self, valid.tail.length _ lowMember]
    have less := append_lt_append ((List.pairwise_cons.mp valid.sorted).1 _ lowMember) sizes right [high]
    simpa using less

private theorem exists_eraseIdx {part whole : List α} (within : part.Sublist whole)
    (size : whole.length = part.length + 1) : ∃ position < whole.length, part = whole.eraseIdx position := by
  induction within with
  | slnil => simp at size
  | @cons part whole item within ih =>
    refine ⟨0, by simp, ?_⟩
    simpa using within.eq_of_length (by simpa using size.symm)
  | @cons_cons part whole item within ih =>
    obtain ⟨position, inside, rfl⟩ := ih (by simpa using size)
    exact ⟨position + 1, by simpa using inside, rfl⟩

theorem candidates_sorted {size : Nat} {level : List Ids} (valid : Level (size + 1) level) :
    (candidates level).Pairwise (· < ·) := joinAll_sorted _ valid

private theorem exists_append_pair {items : List α} {size : Nat} (length : items.length = size + 2) :
    ∃ base low high, items = base ++ [low, high] := by
  have nonempty : items ≠ [] := List.ne_nil_of_length_eq_add_one length
  have nonempty' : items.dropLast ≠ [] := by
    apply List.ne_nil_of_length_eq_add_one (n := size)
    simp [length]
  refine ⟨items.dropLast.dropLast, items.dropLast.getLast nonempty', items.getLast nonempty, ?_⟩
  calc items = items.dropLast ++ [items.getLast nonempty] := (List.dropLast_append_getLast nonempty).symm
    _ = _ := by
        nth_rewrite 1 [← List.dropLast_append_getLast nonempty']
        simp

private theorem increasing_join {base : Ids} {low high : Nat} (lowIncreasing : (base ++ [low]).Pairwise (· < ·))
    (highIncreasing : (base ++ [high]).Pairwise (· < ·)) (less : low < high) :
    (base ++ [low, high]).Pairwise (· < ·) := by
  simp only [List.pairwise_append, List.pairwise_cons, List.mem_cons, List.not_mem_nil, or_false] at *
  refine ⟨lowIncreasing.1, ⟨by simpa using less, by simp⟩, ?_⟩
  rintro id member other (rfl | rfl)
  · exact lowIncreasing.2.2 id member _ rfl
  · exact highIncreasing.2.2 id member _ rfl

/-- A candidate is a set all of whose parts with one member less are in the level. -/
theorem mem_candidates {size : Nat} {level : List Ids} (valid : Level (size + 1) level) (candidate : Ids) :
    candidate ∈ candidates level ↔ candidate.Pairwise (· < ·) ∧ candidate.length = size + 2 ∧
      ∀ part, part.Sublist candidate → part.length = size + 1 → part ∈ level := by
  unfold candidates
  rw [mem_joinAll _ valid]
  constructor
  · rintro ⟨base, low, high, lowMember, highMember, less, rfl, parts⟩
    have sizeBase : base.length = size := by simpa using valid.length _ lowMember
    refine ⟨increasing_join (valid.increasing _ lowMember) (valid.increasing _ highMember) less, by simp [sizeBase], ?_⟩
    intro part within partSize
    obtain ⟨position, inside, rfl⟩ := exists_eraseIdx within (by simp [partSize, sizeBase])
    simp only [List.length_append, List.length_cons, List.length_nil] at inside
    -- Leaving out one of the last two members gives one of the joined itemsets; the other parts were looked up.
    rcases Nat.lt_trichotomy position base.length with early | rfl | late
    · have known := List.all_eq_true.mp parts position (by simp [early])
      simpa using known
    · simpa [List.eraseIdx_append_of_length_le] using highMember
    · obtain rfl : position = base.length + 1 := by omega
      simpa [List.eraseIdx_append_of_length_le] using lowMember
  · rintro ⟨increasing, length, parts⟩
    obtain ⟨base, low, high, rfl⟩ := exists_append_pair length
    have sizeBase : base.length = size := by simpa using length
    refine ⟨base, low, high, ?_, ?_, ?_, rfl, ?_⟩
    · exact parts _ (by simp) (by simp [sizeBase])
    · exact parts _ (by simp) (by simp [sizeBase])
    · simpa using (List.pairwise_append.mp increasing).2.1
    · apply List.all_eq_true.mpr
      intro position inside
      have early : position < base.length := by simpa using inside
      have member := parts _ (List.eraseIdx_sublist _ position)
        (by rw [List.length_eraseIdx_of_lt (by simp; omega)]; simp [sizeBase])
      simpa using member

/-- From a level of itemsets come exactly the sets with one member more all of whose parts are in it, and they form a
level again. -/
theorem candidates_exact {size : Nat} {level : List Ids} (positive : 1 ≤ size) (valid : Level size level) :
    Level (size + 1) (candidates level) ∧ ∀ candidate, candidate ∈ candidates level ↔
      candidate.Pairwise (· < ·) ∧ candidate.length = size + 1 ∧
        ∀ part ∈ candidate.sublistsLen size, part ∈ level := by
  obtain ⟨below, rfl⟩ := Nat.exists_eq_add_of_le' positive
  refine ⟨⟨candidates_sorted valid, ?_, ?_⟩, ?_⟩
  · exact fun candidate member => ((mem_candidates valid candidate).mp member).1
  · exact fun candidate member => ((mem_candidates valid candidate).mp member).2.1
  · intro candidate
    simp only [mem_candidates valid, List.mem_sublistsLen, and_imp]

/-- The partners of one itemset end at the first other beginning, and of two joins that differ in the last member only
one has all its parts. -/
theorem candidates_exact_pairs :
    let level : List Ids := [[0, 1], [0, 2], [0, 3], [1, 2], [2, 3]]
    Level 2 level ∧ Level 3 (candidates level) ∧
      [0, 1, 2] ∈ candidates level ∧ [0, 1, 3] ∉ candidates level ∧ [0, 2, 3] ∈ candidates level := by
  intro level
  have valid : Level 2 level := ⟨by decide, by decide, by decide⟩
  obtain ⟨next, members⟩ := candidates_exact (by decide) valid
  refine ⟨valid, next, (members _).mpr (by decide), ?_, (members _).mpr (by decide)⟩
  rw [members]
  decide

end ChangeCoupling.Mining
