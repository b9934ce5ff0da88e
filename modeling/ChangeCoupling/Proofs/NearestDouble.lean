import ChangeCoupling.Number.Nearest
import Mathlib.Tactic.Ring

/-! The double nearest to a quotient. It depends only on the value of the quotient, which bounds its exponent, and a
value that is a double is its own nearest double. A count that was read off a double can therefore be written and read
again. -/

namespace ChangeCoupling

theorem log2_mul_two_pow {n : Nat} (nonzero : n ≠ 0) (k : Nat) : (n * 2 ^ k).log2 = n.log2 + k := by
  obtain ⟨lower, upper⟩ := (Nat.log2_eq_iff nonzero).mp rfl
  rw [Nat.log2_eq_iff (Nat.mul_ne_zero nonzero (Nat.two_pow_pos k).ne')]
  constructor
  · rw [Nat.pow_add]
    exact Nat.mul_le_mul_right _ lower
  · rw [Nat.add_right_comm, Nat.pow_add]
    exact Nat.mul_lt_mul_of_pos_right upper (Nat.two_pow_pos k)

theorem log2_le_of_lt_two_pow {n count : Nat} (less : n < 2 ^ count) : n.log2 ≤ count - 1 := by
  by_cases zero : n = 0
  · simp [zero]
  · have log := (Nat.log2_lt zero).mpr less
    omega

theorem roundHalfEven_mul_left {factor : Nat} (positive : 0 < factor) (numerator denominator : Nat) :
    roundHalfEven (factor * numerator) (factor * denominator) = roundHalfEven numerator denominator := by
  have rest : 2 * (factor * (numerator % denominator)) = factor * (2 * (numerator % denominator)) := by
    rw [Nat.mul_left_comm]
  simp only [roundHalfEven, Nat.mul_div_mul_left _ _ positive, Nat.mul_mod_mul_left, rest,
    Nat.mul_lt_mul_left positive]

theorem roundHalfEven_mul_right (whole : Nat) {denominator : Nat} (positive : 0 < denominator) :
    roundHalfEven (whole * denominator) denominator = whole := by
  simp [roundHalfEven, positive]

theorem roundHalfEven_le (numerator denominator : Nat) :
    numerator / denominator ≤ roundHalfEven numerator denominator ∧
      roundHalfEven numerator denominator ≤ numerator / denominator + 1 := by
  simp only [roundHalfEven]
  split
  · omega
  · split <;> omega

namespace Double

theorem ext_toNat {x y : Double} (same : x.bits.toNat = y.bits.toNat) : x = y := by
  cases x
  cases y
  exact congrArg mk (UInt64.toNat_inj.mp same)

theorem unitsPerOne_pos : 0 < unitsPerOne := by
  unfold unitsPerOne
  generalize 1074 = exponent
  exact Nat.two_pow_pos exponent

theorem two_pow_add_units (exponent : Nat) : 2 ^ (exponent + 1074) = 2 ^ exponent * unitsPerOne := by
  unfold unitsPerOne
  generalize 1074 = least
  exact Nat.pow_add 2 exponent least

theorem fraction_lt (x : Double) : x.fraction < 0x10000000000000 := Nat.mod_lt _ (by decide)

theorem exponentField_lt (x : Double) : x.exponentField < 0x800 := Nat.mod_lt _ (by decide)

theorem isFinite_iff {x : Double} : x.isFinite = true ↔ x.exponentField ≤ 2046 := by
  have bound := x.exponentField_lt
  rw [isFinite, bne_iff_ne]
  omega

section Nearest

theorem nearest_mul_left {factor : Nat} (positive : 0 < factor) (numerator denominator : Nat) :
    nearest (factor * numerator) (factor * denominator) = nearest numerator denominator := by
  simp only [nearest, nearestBits, Nat.mul_assoc, Nat.mul_div_mul_left _ _ positive, roundHalfEven_mul_left positive]

theorem nearest_congr {numerator denominator numerator' denominator' : Nat} (positive : 0 < denominator)
    (positive' : 0 < denominator') (same : numerator * denominator' = numerator' * denominator) :
    nearest numerator denominator = nearest numerator' denominator' := by
  rw [← nearest_mul_left positive' numerator, ← nearest_mul_left positive numerator', Nat.mul_comm _ numerator, same,
    Nat.mul_comm denominator numerator', Nat.mul_comm denominator' denominator]

theorem toNat_bits_nearest (numerator denominator : Nat) :
    (nearest numerator denominator).bits.toNat = nearestBits numerator denominator := by
  have bounded : nearestBits numerator denominator ≤ 0x7FF0000000000000 := Nat.min_le_left _ _
  change (UInt64.ofNat _).toNat = _
  rw [UInt64.toNat_ofNat', Nat.mod_eq_of_lt]
  omega

/-- Before it is rounded, the significand has at most 53 binary digits. -/
theorem significand_lt (numerator denominator : Nat) :
    numerator / (denominator * 2 ^ ((numerator / denominator).log2 - 52)) < 2 ^ 53 := by
  rw [← Nat.div_div_eq_div_mul, Nat.div_lt_iff_lt_mul (Nat.two_pow_pos _), ← Nat.pow_add]
  refine Nat.lt_log2_self.trans_le (Nat.pow_le_pow_right (by decide) ?_)
  omega

theorem nearestBits_le {numerator denominator exponent : Nat} (bounded : exponent ≤ 1023)
    (small : numerator < 2 ^ exponent * denominator) :
    nearestBits numerator denominator ≤ (exponent + 1023) * 0x10000000000000 := by
  have quotient : numerator * unitsPerOne / denominator < 2 ^ (exponent + 1074) := by
    rw [Nat.div_lt_iff_lt_mul (Nat.pos_of_lt_mul_left small), two_pow_add_units, Nat.mul_right_comm]
    exact Nat.mul_lt_mul_of_pos_right small unitsPerOne_pos
  have length := log2_le_of_lt_two_pow quotient
  have rounded := (roundHalfEven_le (numerator * unitsPerOne) (denominator *
    2 ^ ((numerator * unitsPerOne / denominator).log2 - 52))).2
  have significand := significand_lt (numerator * unitsPerOne) denominator
  simp only [nearestBits, Nat.pow_eq]
  omega

theorem exponentField_nearest_le {numerator denominator exponent : Nat} (bounded : exponent ≤ 1023)
    (small : numerator < 2 ^ exponent * denominator) :
    (nearest numerator denominator).exponentField ≤ exponent + 1023 := by
  have bits := nearestBits_le bounded small
  rw [exponentField, toNat_bits_nearest]
  omega

theorem exponentField_nearest_ge {numerator denominator exponent : Nat} (positive : 0 < denominator)
    (bounded : exponent ≤ 1024) (atLeast : 2 ^ exponent * denominator ≤ numerator) :
    exponent + 1023 ≤ (nearest numerator denominator).exponentField := by
  have quotient : 2 ^ (exponent + 1074) ≤ numerator * unitsPerOne / denominator := by
    rw [two_pow_add_units, Nat.le_div_iff_mul_le positive, Nat.mul_right_comm]
    exact Nat.mul_le_mul_right _ atLeast
  have nonzero : numerator * unitsPerOne / denominator ≠ 0 := (Nat.lt_of_lt_of_le (Nat.two_pow_pos _) quotient).ne'
  have length := (Nat.le_log2 nonzero).mpr quotient
  have significand : 2 ^ 52 ≤ numerator * unitsPerOne /
      (denominator * 2 ^ ((numerator * unitsPerOne / denominator).log2 - 52)) := by
    rw [← Nat.div_div_eq_div_mul, Nat.le_div_iff_mul_le (Nat.two_pow_pos _), ← Nat.pow_add,
      Nat.add_sub_cancel' (by omega)]
    exact Nat.log2_self_le nonzero
  have rounded := (roundHalfEven_le (numerator * unitsPerOne) (denominator *
    2 ^ ((numerator * unitsPerOne / denominator).log2 - 52))).1
  have bits : (exponent + 1023) * 0x10000000000000 ≤ nearestBits numerator denominator ∧
      nearestBits numerator denominator ≤ 0x7FF0000000000000 := by
    simp only [nearestBits, Nat.pow_eq]
    omega
  rw [exponentField, toNat_bits_nearest]
  omega

theorem exponentField_ofNat_le {n : Nat} (bounded : n ≤ maxCount) : (ofNat n).exponentField ≤ 1087 := by
  have small : n < 2 ^ 64 * 1 := by
    unfold maxCount at bounded
    omega
  exact exponentField_nearest_le (by decide) small

theorem isFinite_ofNat {n : Nat} (bounded : n ≤ maxCount) : (ofNat n).isFinite = true := by
  have field := exponentField_ofNat_le bounded
  exact isFinite_iff.mpr (field.trans (by decide))

end Nearest

section Fields

theorem toNat_bits_abs (x : Double) : x.abs.bits.toNat = x.exponentField * 0x10000000000000 + x.fraction := by
  have bound := x.bits.toNat_lt
  unfold abs isNegative
  split
  next negative =>
    rw [decide_eq_true_iff] at negative
    have low : (x.bits ^^^ 0x8000000000000000).toNat % 2 ^ 63 = x.bits.toNat % 2 ^ 63 := by
      rw [UInt64.toNat_xor, Nat.xor_mod_two_pow]
      exact Nat.xor_zero _
    have high : (x.bits ^^^ 0x8000000000000000).toNat / 2 ^ 63 = 0 := by
      have top : x.bits.toNat / 2 ^ 63 = 1 := by omega
      rw [UInt64.toNat_xor, Nat.xor_div_two_pow, top]
      exact Nat.xor_self 1
    unfold exponentField fraction negate
    dsimp only
    omega
  next positive =>
    rw [decide_eq_true_iff] at positive
    unfold exponentField fraction
    omega

theorem exponentField_abs (x : Double) : x.abs.exponentField = x.exponentField := by
  have fraction := x.fraction_lt
  have exponent := x.exponentField_lt
  rw [Double.exponentField, toNat_bits_abs]
  omega

theorem units_abs (x : Double) : x.abs.units = x.units := by
  have fraction : x.abs.fraction = x.fraction := by
    have fraction := x.fraction_lt
    rw [Double.fraction, toNat_bits_abs]
    omega
  rw [units, units, exponentField_abs, fraction]

theorem units_lt {x : Double} {limit : Nat} (bounded : x.exponentField ≤ limit) :
    x.units < 2 ^ 53 * 2 ^ (limit - 1) := by
  have fraction := x.fraction_lt
  unfold units
  split
  next => exact Nat.lt_of_lt_of_le (by omega : x.fraction < 2 ^ 53) (Nat.le_mul_of_pos_right _ (Nat.two_pow_pos _))
  next =>
    apply Nat.lt_of_lt_of_le (Nat.mul_lt_mul_of_pos_right (by omega : 0x10000000000000 + x.fraction < 2 ^ 53)
      (Nat.two_pow_pos _))
    exact Nat.mul_le_mul_left _ (Nat.pow_le_pow_right (by decide) (by omega))

/-- Every finite double is the nearest one to its own value. -/
theorem nearest_units {x : Double} (finite : x.isFinite = true) : nearest x.units unitsPerOne = x.abs := by
  have fraction := x.fraction_lt
  have exponent := isFinite_iff.mp finite
  apply ext_toNat
  rw [toNat_bits_nearest, toNat_bits_abs]
  simp only [nearestBits, Nat.pow_eq]
  rw [Nat.mul_div_cancel _ unitsPerOne_pos, Nat.mul_comm x.units, roundHalfEven_mul_left unitsPerOne_pos]
  unfold units
  split
  next subnormal =>
    have shift : x.fraction.log2 - 52 = 0 := by
      have length := log2_le_of_lt_two_pow (show x.fraction < 2 ^ 52 from fraction)
      omega
    have exact := roundHalfEven_mul_right x.fraction Nat.one_pos
    rw [Nat.mul_one] at exact
    rw [shift, subnormal, Nat.pow_zero, exact]
    omega
  next normal =>
    have significand : (0x10000000000000 + x.fraction).log2 = 52 :=
      (Nat.log2_eq_iff (by omega)).mpr ⟨by omega, by omega⟩
    rw [Nat.pow_eq, log2_mul_two_pow (by omega), significand, Nat.add_sub_cancel_left,
      roundHalfEven_mul_right _ (Nat.two_pow_pos _)]
    omega

end Fields

section Counts

/-- A count of at most 53 binary digits is a double. -/
theorem units_ofNat {n : Nat} (small : n < 2 ^ 53) : (ofNat n).units = n * unitsPerOne := by
  by_cases none : n = 0
  · subst none
    rw [Nat.zero_mul]
    decide +kernel
  · have log := log2_le_of_lt_two_pow small
    have length : (n * unitsPerOne).log2 - 52 = n.log2 + 1022 := by
      have whole : (n * unitsPerOne).log2 = n.log2 + 1074 := log2_mul_two_pow none 1074
      omega
    have filled : n * unitsPerOne = n * 2 ^ (52 - n.log2) * 2 ^ (n.log2 + 1022) := by
      rw [Nat.mul_assoc, ← Nat.pow_add, show 52 - n.log2 + (n.log2 + 1022) = 1074 by omega]
      rfl
    have significand : 2 ^ 52 ≤ n * 2 ^ (52 - n.log2) ∧ n * 2 ^ (52 - n.log2) < 2 ^ 53 := by
      have digits := log2_mul_two_pow none (52 - n.log2)
      rw [Nat.add_sub_cancel' (by omega), Nat.log2_eq_iff (Nat.mul_ne_zero none (Nat.two_pow_pos _).ne')] at digits
      exact digits
    have bits : (ofNat n).bits.toNat = (n.log2 + 1022) * 0x10000000000000 + n * 2 ^ (52 - n.log2) := by
      rw [ofNat, toNat_bits_nearest]
      simp only [nearestBits, Nat.div_one, Nat.one_mul, Nat.pow_eq, length]
      rw [filled, roundHalfEven_mul_right _ (Nat.two_pow_pos _)]
      omega
    rw [filled, units, exponentField, fraction, bits]
    generalize n * 2 ^ (52 - n.log2) = digits at significand ⊢
    have field : ((n.log2 + 1022) * 0x10000000000000 + digits) / 0x10000000000000 % 0x800 = n.log2 + 1023 := by omega
    have rest : ((n.log2 + 1022) * 0x10000000000000 + digits) % 0x10000000000000 = digits - 0x10000000000000 := by omega
    rw [field, rest, if_neg (by omega), Nat.add_sub_cancel' (by omega)]
    rfl

theorem unitsPerOne_dvd_two_pow {exponent : Nat} (large : 1074 ≤ exponent) : unitsPerOne ∣ 2 ^ exponent := by
  obtain ⟨more, rfl⟩ := Nat.exists_eq_add_of_le' large
  rw [two_pow_add_units]
  exact Nat.dvd_mul_left _ _

/-- Every count is nearest to a whole number, since doubles of more digits than fit are whole. -/
theorem unitsPerOne_dvd_units_ofNat (n : Nat) : unitsPerOne ∣ (ofNat n).units := by
  by_cases small : n < 2 ^ 53
  · rw [units_ofNat small]
    exact Nat.dvd_mul_left _ _
  · have field := @exponentField_nearest_ge n 1 53 Nat.one_pos (by decide) (by omega)
    rw [ofNat, units, if_neg (by omega)]
    exact Nat.dvd_mul_left_of_dvd (unitsPerOne_dvd_two_pow (by omega)) _

theorem le_maxCount_of_toCount? {x : Double} {n : Nat} (counts : x.toCount? = some n) : n ≤ maxCount := by
  unfold toCount? at counts
  split at counts
  · cases counts
  split at counts
  · cases counts
  · cases counts
    exact Nat.min_le_left _ _

theorem toCount?_abs (x : Double) (whole : x.units % unitsPerOne = 0) :
    x.abs.toCount? = some (min maxCount (x.units / unitsPerOne)) := by
  have positive : x.abs.isNegative = false := by
    have fraction := x.fraction_lt
    have exponent := x.exponentField_lt
    rw [isNegative, toNat_bits_abs, decide_eq_false_iff_not]
    omega
  simp [toCount?, positive, units_abs, whole]

/-- On the double of a count the conversion back is the cast that stops at the greatest count. -/
theorem toCount?_ofNat_eq (n : Nat) : (ofNat n).toCount? = some (min maxCount ((ofNat n).units / unitsPerOne)) := by
  have whole := Nat.mod_eq_zero_of_dvd (unitsPerOne_dvd_units_ofNat n)
  have positive : (ofNat n).isNegative = false := by
    have bounded : nearestBits n 1 ≤ 0x7FF0000000000000 := Nat.min_le_left _ _
    rw [isNegative, decide_eq_false_iff_not, ofNat, toNat_bits_nearest]
    omega
  simp [toCount?, positive, whole]

/-- A count that was read off a double is the count of its own double. -/
theorem toCount?_ofNat {x : Double} (finite : x.isFinite = true) {n : Nat} (counts : x.toCount? = some n) :
    (ofNat n).toCount? = some n := by
  unfold toCount? at counts
  split at counts
  · cases counts
  split at counts
  · cases counts
  next whole =>
    have whole : x.units % unitsPerOne = 0 := by simpa using whole
    by_cases small : x.units / unitsPerOne ≤ maxCount
    · rw [Nat.min_eq_right small, Option.some.injEq] at counts
      have value : ofNat n = x.abs := by
        rw [← nearest_units finite]
        apply nearest_congr Nat.one_pos unitsPerOne_pos
        rw [← counts, Nat.div_mul_cancel (Nat.dvd_of_mod_eq_zero whole), Nat.mul_one]
      rw [value, toCount?_abs x whole, Nat.min_eq_right small, counts]
    · rw [Nat.min_eq_left (by omega), Option.some.injEq] at counts
      rw [← counts]
      decide +kernel

example : (ofNat 9007199254740993).toCount? = some 9007199254740992 := by decide +kernel

end Counts

end Double

end ChangeCoupling
