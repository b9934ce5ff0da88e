import ChangeCoupling.Mining.Combination
import ChangeCoupling.Proofs.Lists
import Mathlib.Data.Nat.Choose.Basic

/-! The subsequences of one length are listed completely, without repetitions and in lexicographic order. The walk goes
over them as they are listed. -/

namespace ChangeCoupling.Mining

theorem mem_combinations (k : Nat) (items part : List α) :
    part ∈ combinations k items ↔ part.Sublist items ∧ part.length = k := by
  fun_induction combinations k items generalizing part with
  | case1 items => simp +contextual [List.length_eq_zero_iff, iff_def]
  | case2 k => simp +contextual
  | case3 k item rest short =>
    simp only [List.not_mem_nil, false_iff, not_and]
    intro within length
    have bound := within.length_le
    simp only [List.length_cons] at bound
    omega
  | case4 k item rest enough withItem without =>
    rw [List.mem_append, List.mem_map, without]
    constructor
    · rintro (⟨shorter, member, rfl⟩ | ⟨within, length⟩)
      · obtain ⟨within, length⟩ := (withItem shorter).mp member
        exact ⟨within.cons_cons item, by simp [length]⟩
      · exact ⟨within.cons item, length⟩
    · rintro ⟨within, length⟩
      cases within with
      | cons _ within => exact .inr ⟨within, length⟩
      | @cons_cons shorter _ _ within =>
        exact .inl ⟨shorter, (withItem shorter).mpr ⟨within, by simpa using length⟩, rfl⟩

/-- The subsequences of an increasing list come in lexicographic order. -/
theorem combinations_sorted (k : Nat) (items : List Nat) (increasing : items.Pairwise (· < ·)) :
    (combinations k items).Pairwise (· < ·) := by
  fun_induction combinations k items with
  | case1 items => simp
  | case2 k => simp
  | case3 k item rest short => simp
  | case4 k item rest enough withItem without =>
    obtain ⟨first, restIncreasing⟩ := List.pairwise_cons.mp increasing
    rw [List.pairwise_append, List.pairwise_map]
    refine ⟨?_, without restIncreasing, ?_⟩
    · exact (withItem restIncreasing).imp fun less => List.cons_lt_cons_self.mpr less
    · intro part member later laterMember
      obtain ⟨shorter, _, rfl⟩ := List.mem_map.mp member
      obtain ⟨within, length⟩ := (mem_combinations _ _ _).mp laterMember
      cases later with
      | nil => simp at length
      | cons id later => exact List.cons_lt_cons_iff.mpr (.inl (first id (within.subset List.mem_cons_self)))

theorem combinations_nodup (k : Nat) (items : List Nat) (increasing : items.Pairwise (· < ·)) :
    (combinations k items).Nodup :=
  nodup_of_pairwise List.lt_irrefl (combinations_sorted k items increasing)

theorem length_combinations (k : Nat) (items : List α) : (combinations k items).length = items.length.choose k := by
  fun_induction combinations k items with
  | case1 items => simp
  | case2 k => simp
  | case3 k item rest short => simp [Nat.choose_eq_zero_of_lt, short]
  | case4 k item rest enough withItem without =>
    rw [List.length_append, List.length_map, withItem, without, List.length_cons, Nat.choose_succ_succ]

theorem combinations_eq_nil {k : Nat} {items : List α} (short : items.length < k) : combinations k items = [] := by
  apply List.eq_nil_of_length_eq_zero
  rw [length_combinations, Nat.choose_eq_zero_of_lt short]

theorem combinations_map (f : α → β) (k : Nat) (items : List α) :
    combinations k (items.map f) = (combinations k items).map (List.map f) := by
  fun_induction combinations k items with
  | case1 items => simp [combinations]
  | case2 k => simp [combinations]
  | case3 k item rest short => simp [combinations, short]
  | case4 k item rest enough withItem without => simp [combinations, enough, withItem, without]

theorem difference?_of_le {whole part : Nat} (fits : part ≤ whole) : difference? whole part = some (whole - part) :=
  if_pos fits

namespace Walk

/-- The walk after the subsequences that begin with the chosen items and go on with some of the others. What is chosen
stays chosen. -/
def afterAll (k : Nat) (visit : β → List α → β) (others : List α) (walk : Walk α β) : Walk α β :=
  { walk with
    state := (combinations (k - walk.chosen.size) others).foldl
      (fun state part => visit state (walk.chosen.toList ++ part)) walk.state }

variable {total k : Nat} {visit : β → List α → β}

/-- Both differences exist, provided that there are enough items for those that are missing. -/
private theorem goOver_eq {chooseUpTo : Nat → Walk α β → Option (Walk α β)} {others : List α} {walk : Walk α β}
    (notMore : walk.chosen.size ≤ k) (enough : k - walk.chosen.size ≤ total)
    (choices : walk.chosen.size < k →
      chooseUpTo (total - (k - walk.chosen.size)) walk = some (afterAll k visit others walk)) :
    goOver total k visit chooseUpTo walk = some (afterAll k visit others walk) := by
  unfold goOver
  split
  next complete => simp [afterAll, complete, combinations]
  next missing =>
    simp only [difference?_of_le notMore, difference?_of_le enough, Option.bind_eq_bind, Option.bind_some]
    exact choices (Nat.lt_of_le_of_ne notMore missing)

/-- The items from a position on are gone through. An item is taken off again after what begins with it, so that each
of them is put on top of the same chosen ones. -/
private theorem chooseUpTo_eq (others : List α) {position : Nat} {walk : Walk α β}
    (reached : position + others.length = total) (missing : walk.chosen.size < k)
    (enough : k - walk.chosen.size ≤ total) :
    chooseUpTo total k visit others position (total - (k - walk.chosen.size)) walk =
      some (afterAll k visit others walk) := by
  obtain ⟨less, lacking⟩ : ∃ less, k - walk.chosen.size = less + 1 := ⟨k - walk.chosen.size - 1, by omega⟩
  induction others generalizing position walk less with
  | nil =>
    rw [List.length_nil] at reached
    rw [chooseUpTo, if_pos (by omega), afterAll, lacking, combinations, List.foldl_nil]
  | cons item rest ih =>
    rw [List.length_cons] at reached
    rw [chooseUpTo, afterAll, lacking, combinations]
    -- The position is behind the last one just if fewer items are left than are still missing.
    by_cases short : rest.length < less
    · rw [if_pos (by omega), if_pos short, List.foldl_nil]
    · rw [if_neg (by omega), if_neg short]
      have reached' : position + 1 + rest.length = total := by omega
      have pushed : (walk.chosen.push item).size = walk.chosen.size + 1 := Array.size_push item
      have lacking' : k - (walk.chosen.push item).size = less := by omega
      have deeper : goOver total k visit (chooseUpTo total k visit rest (position + 1))
          ⟨walk.state, walk.chosen.push item⟩ = some (afterAll k visit rest ⟨walk.state, walk.chosen.push item⟩) := by
        refine goOver_eq (by dsimp only; omega) (by dsimp only; omega) fun missing' => ?_
        exact ih reached' missing' (by dsimp only; omega) (less - 1) (by dsimp only at missing' ⊢; omega)
      have behind (state : β) : chooseUpTo total k visit rest (position + 1) (total - (k - walk.chosen.size))
          ⟨state, walk.chosen⟩ = some (afterAll k visit rest ⟨state, walk.chosen⟩) :=
        @ih _ ⟨state, walk.chosen⟩ reached' missing enough less lacking
      dsimp only [afterAll] at deeper behind
      rw [lacking'] at deeper
      rw [lacking] at behind
      simp only [deeper, Option.bind_eq_bind, Option.bind_some, Array.pop_push]
      rw [behind, List.foldl_append, List.foldl_map]
      simp

/-- The walk comes to its end, goes over the subsequences in their order and leaves nothing chosen, whatever was chosen
before. -/
theorem overCombinations_eq (k : Nat) (items : List α) (visit : β → List α → β) (walk : Walk α β) :
    overCombinations k items visit walk = some ⟨(combinations k items).foldl visit walk.state, #[]⟩ := by
  unfold overCombinations
  split
  next short => rw [combinations_eq_nil short, List.foldl_nil]
  next enough =>
    have fits := Nat.le_of_not_lt enough
    have all : goOver items.length k visit (chooseUpTo items.length k visit items 0) ⟨walk.state, #[]⟩ =
        some (afterAll k visit items ⟨walk.state, #[]⟩) :=
      goOver_eq (Nat.zero_le k) fits fun missing => chooseUpTo_eq items (Nat.zero_add _) missing fits
    simpa [afterAll] using all

end Walk

end ChangeCoupling.Mining
