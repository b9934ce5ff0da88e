import ChangeCoupling.Proofs.NearestDouble
import ChangeCoupling.Scoring.Overlap
import Mathlib.Algebra.Order.Field.Basic
import Mathlib.Algebra.Order.Field.Rat

/-! Shares, as doubles and as fractions. Nothing has the share zero and everything the share one. That any other share
lies between the two is a property of division, which for doubles is stated here for totals up to a limit. -/

namespace ChangeCoupling

namespace Double

private abbrev unpacked (x : Double) : Float.Model.UnpackedFloat := (Float.Model.ofBits x.bits).unpack

private theorem lt_iff_compare (x y : Double) : x < y ↔ x.unpacked.compare y.unpacked = some .lt := by
  change Float.lt _ _ = true ↔ _
  simp only [Float.lt, decide_eq_true_eq]
  change Float.Model.UnpackedFloat.lt _ _ = true ↔ _
  unfold Float.Model.UnpackedFloat.lt
  rw [beq_iff_eq]
  rfl

private theorem compare_swap (x y : Float.Model.UnpackedFloat) : y.compare x = (x.compare y).map Ordering.swap := by
  have byParts (e e' : Int) (m m' : Nat) :
      (compare e' e).then (compare m' m) = ((compare e e').then (compare m m')).swap := by
    have exponents : compare e' e = (compare e e').swap := Std.OrientedCmp.eq_swap
    have mantissas : compare m' m = (compare m m').swap := Std.OrientedCmp.eq_swap
    rw [Ordering.swap_then, exponents, mantissas]
  rcases x with ⟨_ | _⟩ | _ | ⟨_ | _⟩ | ⟨_ | _, m, e, _⟩ <;>
    rcases y with ⟨_ | _⟩ | _ | ⟨_ | _⟩ | ⟨_ | _, m', e', _⟩ <;> try rfl
  -- Only numbers of the same sign are left.
  · exact congrArg (fun order => some order.swap) (byParts e e' m m')
  · exact congrArg some (byParts e e' m m')

theorem lt_asymm {x y : Double} (less : x < y) : ¬ y < x := by
  rw [lt_iff_compare] at less ⊢
  rw [compare_swap, less]
  decide

end Double

theorem ratio_self {total : Nat} (positive : 0 < total) : ratio total total = Double.ofNat 1 := by
  have same := Double.nearest_mul_left positive 1 1
  rw [Nat.mul_one] at same
  rw [ratio, if_neg (Nat.ne_of_gt positive), same, Double.ofNat]

theorem ratio_zero (total : Nat) : ratio 0 total = Double.zero := by
  unfold ratio
  split
  · rfl
  next =>
    have bits : Double.nearestBits 0 total = 0 := by simp [Double.nearestBits, roundHalfEven]
    rw [Double.nearest, bits]
    rfl

/-- A share of some but not all files, of at most `limit` in all, is reported as a number between zero and one. -/
def ProperShares (limit : Nat) : Prop :=
  ∀ total, total ≤ limit → ∀ matched, matched < total → 0 < matched →
    Double.zero < ratio matched total ∧ ratio matched total < Double.ofNat 1

instance (limit : Nat) : Decidable (ProperShares limit) :=
  inferInstanceAs (Decidable (∀ total, total ≤ limit → ∀ matched, matched < total → 0 < matched →
    Double.zero < ratio matched total ∧ ratio matched total < Double.ofNat 1))

theorem ProperShares.mono {limit larger : Nat} (proper : ProperShares larger) (atMost : limit ≤ larger) :
    ProperShares limit :=
  fun total bounded => proper total (bounded.trans atMost)

def exactShare (matched total : Nat) : ℚ := matched / total

/-- What has to be known of a division to compare shares by it, for totals up to `limit`. -/
structure ShareLaws [LT α] (limit : Nat) (share : Nat → Nat → α) (zero one : α) : Prop where
  asymm : ∀ {x y : α}, x < y → ¬ y < x
  zero_lt_one : zero < one
  nothing : ∀ total, share 0 total = zero
  everything : ∀ total, 0 < total → share total total = one
  proper : ∀ total, total ≤ limit → ∀ matched, matched < total → 0 < matched →
    zero < share matched total ∧ share matched total < one

namespace ShareLaws

theorem reported {limit : Nat} (proper : ProperShares limit) :
    ShareLaws limit ratio Double.zero (Double.ofNat 1) where
  asymm := Double.lt_asymm
  zero_lt_one := by decide +kernel
  nothing := ratio_zero
  everything _ := ratio_self
  proper := proper

theorem exact (limit : Nat) : ShareLaws limit exactShare 0 1 where
  asymm := lt_asymm
  zero_lt_one := one_pos
  nothing := by simp [exactShare]
  everything total positive := div_self (by exact_mod_cast Nat.ne_of_gt positive)
  proper total _ matched less positive := by
    have total_pos : (0 : ℚ) < total := by exact_mod_cast Nat.lt_trans positive less
    exact ⟨div_pos (by exact_mod_cast positive) total_pos, (div_lt_one total_pos).mpr (by exact_mod_cast less)⟩

variable [LT α] {limit : Nat} {share : Nat → Nat → α} {zero one : α} {matched total : Nat}

theorem irrefl (laws : ShareLaws limit share zero one) (x : α) : ¬ x < x :=
  fun less => laws.asymm less less

theorem lt_one (laws : ShareLaws limit share zero one) (bounded : total ≤ limit) (atMost : matched ≤ total)
    (incomplete : ¬ (0 < matched ∧ matched = total)) : share matched total < one := by
  by_cases positive : 0 < matched
  · exact (laws.proper total bounded matched (by omega) positive).2
  · obtain rfl : matched = 0 := by omega
    rw [laws.nothing]
    exact laws.zero_lt_one

theorem not_one_lt (laws : ShareLaws limit share zero one) (bounded : total ≤ limit) (atMost : matched ≤ total) :
    ¬ one < share matched total := by
  by_cases complete : 0 < matched ∧ matched = total
  · obtain ⟨positive, rfl⟩ := complete
    rw [laws.everything matched positive]
    exact laws.irrefl one
  · exact laws.asymm (laws.lt_one bounded atMost complete)

theorem not_lt_zero (laws : ShareLaws limit share zero one) (bounded : total ≤ limit) (atMost : matched ≤ total) :
    ¬ share matched total < zero := by
  rcases Nat.eq_zero_or_pos matched with rfl | positive
  · rw [laws.nothing]
    exact laws.irrefl zero
  rcases Nat.lt_or_eq_of_le atMost with less | rfl
  · exact laws.asymm (laws.proper total bounded matched less positive).1
  · rw [laws.everything matched positive]
    exact laws.asymm laws.zero_lt_one

end ShareLaws

end ChangeCoupling
