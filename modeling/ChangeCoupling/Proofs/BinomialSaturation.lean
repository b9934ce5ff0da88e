import ChangeCoupling.Mining.Combination
import Mathlib.Algebra.Ring.Nat
import Mathlib.Data.Nat.Choose.Basic

/-! The number of combinations, worked out in 64 bits. Each division in the loop leaves no rest, so that the loop goes
through the binomial coefficients of one row. The products before the divisions grow up to the middle of the row, and
the loop goes no further: the last product decides whether the result is exact. -/

namespace ChangeCoupling.Mining

/-- The states of the loop over `steps` factors, of which the first `i` are in the result. -/
inductive BinomialState (n steps : Nat) : Nat → Nat → Prop where
  | start : BinomialState n steps 0 1
  | next {i result : Nat} (state : BinomialState n steps i result) (more : i < steps)
      (fits : result * (n - i) ≤ Double.maxCount) : BinomialState n steps (i + 1) (result * (n - i) / (i + 1))

private theorem choose_mul_sub (n i : Nat) : n.choose i * (n - i) = (i + 1) * n.choose (i + 1) := by
  rw [← Nat.choose_succ_right_eq, Nat.mul_comm]

private theorem choose_mul_sub_div (n i : Nat) : n.choose i * (n - i) / (i + 1) = n.choose (i + 1) := by
  rw [choose_mul_sub, Nat.mul_div_cancel_left _ (Nat.succ_pos i)]

namespace BinomialState

variable {n steps i result : Nat}

theorem result_eq (state : BinomialState n steps i result) : result = n.choose i := by
  induction state with
  | start => rw [Nat.choose_zero_right]
  | next _ _ _ ih => rw [ih, choose_mul_sub_div]

theorem dvd_product (state : BinomialState n steps i result) : i + 1 ∣ result * (n - i) := by
  rw [state.result_eq, choose_mul_sub]
  exact Nat.dvd_mul_right _ _

theorem binomialFrom_eq (state : BinomialState n steps i result) :
    binomialFrom n steps 0 1 = binomialFrom n (steps - i) i result := by
  induction state with
  | start => rfl
  | @next i result _ more fits ih =>
    obtain ⟨left, remaining⟩ : ∃ left, steps - i = left + 1 := ⟨steps - i - 1, by omega⟩
    have later : steps - (i + 1) = left := by omega
    rw [ih, remaining, later, binomialFrom, if_neg (Nat.not_lt.mpr fits)]

end BinomialState

/-- Up to the middle of a row the products grow. -/
private theorem product_mono {n i j : Nat} (before : i ≤ j) (half : 2 * j ≤ n) : i * n.choose i ≤ j * n.choose j := by
  induction j, before using Nat.le_induction with
  | base => exact Nat.le_refl _
  | succ j _ ih =>
    have grows : n.choose j ≤ n.choose (j + 1) := Nat.choose_le_succ_of_lt_half_left (by omega)
    calc i * n.choose i ≤ j * n.choose j := ih (by omega)
      _ ≤ (j + 1) * n.choose (j + 1) := Nat.mul_le_mul (Nat.le_succ j) grows

/-- What the loop makes of a coefficient that it has reached: one further on in the row, unless the product that leads
to it is too great. -/
private theorem binomialFrom_choose {n : Nat} (steps i : Nat) (half : 2 * (i + steps) ≤ n)
    (fits : i * n.choose i ≤ Double.maxCount) :
    binomialFrom n steps i (n.choose i) =
      if (i + steps) * n.choose (i + steps) ≤ Double.maxCount then n.choose (i + steps) else Double.maxCount := by
  induction steps generalizing i with
  | zero => rw [binomialFrom, Nat.add_zero, if_pos fits]
  | succ steps ih =>
    have further : i + (steps + 1) = i + 1 + steps := by omega
    rw [binomialFrom, choose_mul_sub_div, choose_mul_sub, further]
    by_cases tooGreat : Double.maxCount < (i + 1) * n.choose (i + 1)
    · -- A product that is too great is followed by greater ones only, so the last one is too great as well.
      have last := product_mono (show i + 1 ≤ i + 1 + steps by omega) (show 2 * (i + 1 + steps) ≤ n by omega)
      rw [if_pos tooGreat, if_neg (by omega)]
    · rw [if_neg tooGreat, ih (i + 1) (by omega) (Nat.not_lt.mp tooGreat)]

private theorem choose_min {n k : Nat} (fits : k ≤ n) : n.choose (min k (n - k)) = n.choose k := by
  rcases Nat.le_total k (n - k) with low | high
  · rw [Nat.min_eq_left low]
  · rw [Nat.min_eq_right high, Nat.choose_symm fits]

private theorem binomial_eq (n k : Nat) :
    binomial n k = if n < k then 0
      else if min k (n - k) * n.choose (min k (n - k)) < 2 ^ 64 then n.choose k else 2 ^ 64 - 1 := by
  unfold binomial
  split
  next => rfl
  next fits =>
    have run := binomialFrom_choose (n := n) (min k (n - k)) 0 (by omega) (by simp)
    rw [Nat.choose_zero_right, Nat.zero_add] at run
    rw [run, choose_min (Nat.le_of_not_lt fits)]
    have greatest : Double.maxCount = 2 ^ 64 - 1 := rfl
    by_cases small : min k (n - k) * n.choose k < 2 ^ 64
    · rw [if_pos small, if_pos (by omega)]
    · rw [if_neg small, if_neg (by omega), greatest]

/-- The number of combinations is zero for more items than there are. Else it is exact as long as the greatest product
that leads to it has 64 bits, and the greatest count from then on. The loop divides without rest in each of its states
and never gives less than is right, as far as 64 bits reach; but it gives the greatest count for some numbers of
combinations that are less. -/
theorem binomial_saturation :
    (∀ n k : Nat,
      (binomial n k = if n < k then 0
        else if min k (n - k) * n.choose (min k (n - k)) < 2 ^ 64 then n.choose k else 2 ^ 64 - 1) ∧
      (∀ i result, BinomialState n (min k (n - k)) i result →
        (k ≤ n → binomial n k = binomialFrom n (min k (n - k) - i) i result) ∧ i + 1 ∣ result * (n - i)) ∧
      min (n.choose k) (2 ^ 64 - 1) ≤ binomial n k) ∧
    ∃ n k : Nat, n < 2 ^ 64 ∧ k < 2 ^ 64 ∧ n.choose k < 2 ^ 64 - 1 ∧ binomial n k = 2 ^ 64 - 1 := by
  refine ⟨fun n k => ⟨binomial_eq n k, ?_, ?_⟩, ?_⟩
  · intro i result state
    refine ⟨fun fits => ?_, state.dvd_product⟩
    rw [← state.binomialFrom_eq, binomial, if_neg (Nat.not_lt.mpr fits)]
  · rw [binomial_eq]
    split
    next many => simp [Nat.choose_eq_zero_of_lt many]
    next =>
      split
      · exact Nat.min_le_left _ _
      · exact Nat.min_le_right _ _
  · refine ⟨2 ^ 32 + 1, 2, by decide, by decide, ?_, by decide +kernel⟩
    rw [Nat.choose_two_right]
    decide

end ChangeCoupling.Mining
