import ChangeCoupling.Proofs.ExponentBounds

/-! Two orders of doubles. In the total order every NaN and both zeros have their places, and the ranks of doubles are
these places. Positive numbers are also compared as numbers, and there the bits alone decide. -/

namespace ChangeCoupling.Double

/-- Numbers, infinity and NaNs, by their distance from zero. -/
def kind (x : Double) : Nat := if x.isNaN then 3 else if x.isInfinite then 2 else 1

/-- The distance from zero among doubles of one kind. NaNs have their fractions to tell them apart. -/
def extent (x : Double) : Nat := if x.isFinite then x.units else x.fraction

/-- A distance with the sign of a double. Negative zero has it as well. -/
def signed (x : Double) (distance : Nat) : Int := if x.isNegative then -distance else distance

/-- The total order of doubles: the negative NaNs, negative infinity, the negative numbers up to negative zero, the
positive numbers from zero on, infinity, the positive NaNs. -/
def Before (x y : Double) : Prop :=
  x.signed x.kind < y.signed y.kind ∨
    x.signed x.kind = y.signed y.kind ∧ x.signed x.extent < y.signed y.extent

instance (x y : Double) : Decidable (Before x y) :=
  inferInstanceAs (Decidable (x.signed x.kind < y.signed y.kind ∨
    x.signed x.kind = y.signed y.kind ∧ x.signed x.extent < y.signed y.extent))

example : [nan.negate, infinity.negate, (ofNat 1).negate, zero.negate, zero, ofNat 1, infinity, nan].Pairwise
    Before := by decide +kernel

section Ranks
variable {x y : Double}

theorem rank_eq (x : Double) : x.rank =
    if x.isNegative then 0x7FFFFFFFFFFFFFFF - x.abs.bits.toNat else 0x8000000000000000 + x.abs.bits.toNat := by
  have bound := x.bits.toNat_lt
  rw [toNat_bits_abs, rank, exponentField, fraction]
  simp only [isNegative, decide_eq_true_eq]
  split <;> omega

/-- Without the sign, greater bits stand for a greater number. -/
theorem units_lt_units (nearer : x.abs.bits.toNat < y.abs.bits.toNat) : x.units < y.units := by
  rw [toNat_bits_abs, toNat_bits_abs] at nearer
  have fraction := x.fraction_lt
  have fraction' := y.fraction_lt
  rcases Nat.lt_or_ge x.exponentField y.exponentField with less | atLeast
  · -- A power of two lies between numbers of different exponents.
    have above : 2 ^ 52 * 2 ^ x.exponentField ≤ y.units := by
      rw [units, if_neg (by omega)]
      exact Nat.mul_le_mul (by omega) (Nat.pow_le_pow_right (by decide) (by omega))
    apply Nat.lt_of_lt_of_le _ above
    by_cases subnormal : x.exponentField = 0
    · rw [units, if_pos subnormal, subnormal]
      omega
    · have below := units_lt (Nat.le_refl x.exponentField)
      have power : 2 ^ 53 * 2 ^ (x.exponentField - 1) = 2 ^ 52 * 2 ^ x.exponentField := by
        rw [← Nat.pow_add, ← Nat.pow_add]
        congr 1
        omega
      rwa [power] at below
  · have same : x.exponentField = y.exponentField := by omega
    have less : x.fraction < y.fraction := by omega
    rw [units, units, same]
    split
    · exact less
    · exact Nat.mul_lt_mul_of_pos_right (by omega) (Nat.two_pow_pos _)

theorem units_lt_iff : x.units < y.units ↔ x.abs.bits.toNat < y.abs.bits.toNat := by
  refine ⟨fun less => ?_, units_lt_units⟩
  rcases Nat.lt_trichotomy x.abs.bits.toNat y.abs.bits.toNat with nearer | same | farther
  · exact nearer
  · have units : x.units = y.units := by rw [← units_abs x, ext_toNat same, units_abs]
    exact absurd less (Nat.not_lt_of_le units.ge)
  · exact absurd (units_lt_units farther) (Nat.lt_asymm less)

theorem kind_of_isFinite (finite : x.isFinite = true) : x.kind = 1 := by
  simp [kind, isNaN, isInfinite, bne_iff_ne.mp finite]

theorem kind_of_not_isFinite (beyond : ¬ x.isFinite = true) :
    x.kind = (if x.fraction = 0 then 2 else 3) ∧ x.abs.bits.toNat = 0x7FF0000000000000 + x.fraction := by
  have exponent : x.exponentField = 2047 := by simpa [isFinite] using beyond
  refine ⟨?_, by rw [toNat_bits_abs, exponent]⟩
  by_cases none : x.fraction = 0 <;> simp [kind, isNaN, isInfinite, exponent, none]

theorem abs_bits_lt_of_isFinite (finite : x.isFinite = true) : x.abs.bits.toNat < 0x7FF0000000000000 := by
  have exponent := isFinite_iff.mp finite
  have fraction := x.fraction_lt
  rw [toNat_bits_abs]
  omega

theorem abs_bits_lt_iff : x.abs.bits.toNat < y.abs.bits.toNat ↔
    x.kind < y.kind ∨ x.kind = y.kind ∧ x.extent < y.extent := by
  by_cases finite : x.isFinite = true <;> by_cases finite' : y.isFinite = true
  · simp [extent, finite, finite', kind_of_isFinite, units_lt_iff]
  · have near := abs_bits_lt_of_isFinite finite
    obtain ⟨kind, bits⟩ := kind_of_not_isFinite finite'
    rw [kind_of_isFinite finite, kind]
    split <;> omega
  · have near := abs_bits_lt_of_isFinite finite'
    obtain ⟨kind, bits⟩ := kind_of_not_isFinite finite
    rw [kind_of_isFinite finite', kind]
    split <;> omega
  · obtain ⟨kind, bits⟩ := kind_of_not_isFinite finite
    obtain ⟨kind', bits'⟩ := kind_of_not_isFinite finite'
    rw [extent, extent, if_neg finite, if_neg finite', kind, kind', bits, bits']
    split <;> split <;> omega

theorem abs_bits_lt (x : Double) : x.abs.bits.toNat < 0x8000000000000000 := by
  have exponent := x.exponentField_lt
  have fraction := x.fraction_lt
  rw [toNat_bits_abs]
  omega

theorem kind_pos (x : Double) : 0 < x.kind := by
  unfold kind
  cases x.isNaN <;> cases x.isInfinite <;> decide

/-- The ranks of doubles are their places in the total order. -/
theorem rank_lt_iff : x.rank < y.rank ↔ Before x y := by
  have bound := x.abs_bits_lt
  have bound' := y.abs_bits_lt
  have positive := x.kind_pos
  have positive' := y.kind_pos
  have nearer : x.abs.bits.toNat < y.abs.bits.toNat ↔ _ := abs_bits_lt_iff
  have farther : y.abs.bits.toNat < x.abs.bits.toNat ↔ _ := abs_bits_lt_iff
  rw [rank_eq, rank_eq, Before, signed, signed, signed, signed]
  -- On the negative side the order is turned round, and kinds of different signs are on different sides of zero.
  cases x.isNegative <;> cases y.isNegative <;> simp only [if_true, if_false, Bool.false_eq_true] <;> omega

theorem rank_inj (same : x.rank = y.rank) : x = y := by
  have bound := x.bits.toNat_lt
  have bound' := y.bits.toNat_lt
  apply ext_toNat
  simp only [rank, isNegative, decide_eq_true_eq] at same
  split at same <;> split at same <;> omega

theorem eq_or_before (ordered : x.rank ≤ y.rank) : x = y ∨ Before x y := by
  rcases Nat.lt_or_eq_of_le ordered with less | same
  · exact .inr (rank_lt_iff.mp less)
  · exact .inl (rank_inj same)

end Ranks

section Numbers
open Float.Model Float.Model.UnpackedFloat
variable {x y : Double}

end Numbers

end ChangeCoupling.Double
