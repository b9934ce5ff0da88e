import ChangeCoupling.FileStats
import ChangeCoupling.Proofs.NearestDouble
import Mathlib

/-! How far the exponents of a product and of a quotient can go. Both are bounded by the exponents of the operands and
one more, for a significand that rounds up. The averages of a file are therefore finite, whatever its counts are. -/

namespace ChangeCoupling

namespace Double

open Float.Model Float.Model.UnpackedFloat

/-- A number, zero among them, whose magnitude is below `2 ^ limit`. -/
def Below (limit : Int) : UnpackedFloat → Prop
  | .zero _ => True
  | .finite _ mantissa exponent _ => totalExponent mantissa exponent ≤ limit
  | .infinity _ => False
  | .notANumber => False

theorem Below.cases {limit : Int} {number : UnpackedFloat} (below : Below limit number) :
    (∃ sign, number = .zero sign) ∨ ∃ sign mantissa exponent positive,
      number = .finite sign mantissa exponent positive ∧ totalExponent mantissa exponent ≤ limit := by
  cases number with
  | zero sign => exact .inl ⟨sign, rfl⟩
  | finite sign mantissa exponent positive => exact .inr ⟨sign, mantissa, exponent, positive, rfl, below⟩
  | infinity => exact below.elim
  | notANumber => exact below.elim

section Rounding

theorem mantissa_shiftRight (extended : ExtendedMantissa) (count : Nat) :
    (extended >>> count).mantissa = extended.mantissa / 2 ^ count := by
  change (count.repeat ExtendedMantissa.shiftRightOne extended).mantissa = _
  induction count with
  | zero => simp [Nat.repeat]
  | succ count ih =>
    rw [Nat.repeat, ExtendedMantissa.shiftRightOne, ih, Nat.div_div_eq_div_mul, Nat.pow_succ]

theorem mantissa_ofMantissaAndAccuracy (mantissa : Nat) (accuracy : Accuracy) :
    (ExtendedMantissa.ofMantissaAndAccuracy mantissa accuracy).mantissa = mantissa := by
  unfold ExtendedMantissa.ofMantissaAndAccuracy
  split <;> rfl

theorem roundedMantissa_le (extended : ExtendedMantissa) : extended.roundedMantissa ≤ extended.mantissa + 1 := by
  unfold ExtendedMantissa.roundedMantissa Accuracy.roundToNearestEven
  split <;> omega

theorem log2_div_two_pow {n count : Nat} (nonzero : n / 2 ^ count ≠ 0) : (n / 2 ^ count).log2 + count = n.log2 := by
  have positive : n ≠ 0 := by
    intro zero
    exact nonzero (by rw [zero, Nat.zero_div])
  obtain ⟨lower, upper⟩ := (Nat.log2_eq_iff nonzero).mp rfl
  rw [Eq.comm, Nat.log2_eq_iff positive]
  rw [Nat.le_div_iff_mul_le (Nat.two_pow_pos count), ← Nat.pow_add] at lower
  rw [Nat.div_lt_iff_lt_mul (Nat.two_pow_pos count), ← Nat.pow_add, Nat.add_right_comm] at upper
  exact ⟨lower, upper⟩

theorem totalExponent_div_two_pow {mantissa count : Nat} (nonzero : mantissa / 2 ^ count ≠ 0) (exponent : Int) :
    totalExponent (mantissa / 2 ^ count) (exponent + count) = totalExponent mantissa exponent := by
  have kept := log2_div_two_pow nonzero
  simp only [totalExponent]
  omega

theorem targetExponent_binary64 (total : Int) : Format.binary64.targetExponent total = max (total - 53) (-1074) := by
  simp [Format.targetExponent, Format.mantissaBits, Format.minExponent]

theorem totalExponent_roundedMantissa {mantissa : Nat} {exponent limit : Int} (accuracy : Accuracy)
    (bounded : totalExponent mantissa exponent ≤ limit) (normal : -1074 ≤ limit) :
    let shifted := shiftToTargetExponent Format.binary64 mantissa exponent accuracy
    totalExponent shifted.1.roundedMantissa shifted.2 ≤ limit + 1 := by
  simp only [shiftToTargetExponent, shiftToExponent, targetExponent_binary64, totalExponent] at bounded ⊢
  generalize shiftIs : (max (_ - 53) (-1074) - exponent).toNat = shift
  have rounded := roundedMantissa_le (ExtendedMantissa.ofMantissaAndAccuracy mantissa accuracy >>> shift)
  rw [mantissa_shiftRight, mantissa_ofMantissaAndAccuracy] at rounded
  generalize (ExtendedMantissa.ofMantissaAndAccuracy mantissa accuracy >>> shift).roundedMantissa = result at rounded ⊢
  by_cases vanished : mantissa / 2 ^ shift = 0
  · -- Only the least exponent shifts all digits out.
    have small : mantissa < 2 ^ shift := by simpa using vanished
    have mantissa_log := log2_le_of_lt_two_pow small
    have result_log := log2_le_of_lt_two_pow (show result < 2 ^ 1 by omega)
    omega
  · have kept := log2_div_two_pow vanished
    generalize mantissa / 2 ^ shift = quotient at rounded vanished kept
    have below : quotient < 2 ^ (quotient.log2 + 1) := Nat.lt_log2_self
    have carried : result < 2 ^ (quotient.log2 + 2) := by
      rw [Nat.pow_succ]
      omega
    have result_log := log2_le_of_lt_two_pow carried
    omega

theorem below_roundWithAccuracy {mantissa : Nat} {exponent limit : Int} (sign : Sign) (accuracy : Accuracy)
    (bounded : totalExponent mantissa exponent ≤ limit) (normal : -1074 ≤ limit) :
    Below (limit + 1) (roundWithAccuracy Format.binary64 sign mantissa exponent accuracy) := by
  have rounded := totalExponent_roundedMantissa accuracy bounded normal
  unfold roundWithAccuracy
  generalize shiftToTargetExponent Format.binary64 mantissa exponent accuracy = shifted at rounded ⊢
  obtain ⟨extended, exponent⟩ := shifted
  simp only [shiftToTargetExponent, shiftToExponent, mantissa_shiftRight, mantissa_ofMantissaAndAccuracy]
  split
  next => trivial
  next nonzero =>
    rw [Below, totalExponent_div_two_pow nonzero]
    exact rounded

end Rounding

section Packing

/-- The bits that hold the exponent. -/
abbrev exponentBits (bits : BitVec 64) : BitVec 11 := @unpackExponent Format.binary64 bits

theorem exponentBits_pack_le {number : UnpackedFloat} {limit : Int} (below : Below limit number)
    (small : limit ≤ 972) : ((exponentBits (pack Format.binary64 number)).toNat : Int) ≤ max 0 (limit + 1022) := by
  obtain ⟨sign, rfl⟩ | ⟨sign, mantissa, exponent, positive, rfl, total⟩ := below.cases
  · rw [UnpackedFloat.pack, packedZero, exponentBits, unpackExponent_packComponents]
    exact Int.le_max_left _ _
  rw [totalExponent] at total
  rw [UnpackedFloat.pack]
  dsimp only
  split
  next large =>
    have infinite : 2048 ≤ (exponent + 1023 + 52).toNat + 1 := large
    omega
  next =>
    split
    next full =>
      have log : mantissa.log2 + 1 = 53 := full
      rw [exponentBits, unpackExponent_packComponents, BitVec.toNat_ofNat]
      change (((exponent + 1023 + 52).toNat % 2048 : Nat) : Int) ≤ _
      omega
    next =>
      rw [exponentBits, unpackExponent_packComponents]
      exact Int.le_max_left _ _

theorem append_one (fraction : BitVec 52) : (1#1 ++ fraction).toNat = 2 ^ 52 + fraction.toNat := by
  rw [BitVec.toNat_append, ← Nat.shiftLeft_add_eq_or_of_lt fraction.isLt]
  simp [Nat.shiftLeft_eq]

theorem unpack_normal {bits : BitVec 64} (finite : (exponentBits bits).toNat ≠ 2047)
    (normal : (exponentBits bits).toNat ≠ 0) :
    ∃ sign mantissa positive, mantissa.log2 = 52 ∧
      unpack Format.binary64 bits = .finite sign mantissa ((exponentBits bits).toNat - 1075) positive := by
  have notLast : exponentBits bits ≠ -1#11 := fun last => finite (congrArg BitVec.toNat last)
  have notFirst : exponentBits bits ≠ 0#11 := fun first => normal (congrArg BitVec.toNat first)
  have fraction : (@unpackMantissa Format.binary64 bits).toNat < 2 ^ 52 := BitVec.isLt _
  rw [UnpackedFloat.unpack]
  dsimp only
  rw [if_neg notLast, if_neg notFirst]
  refine ⟨_, _, _, ?_, rfl⟩
  rw [append_one, Nat.log2_eq_iff (by omega)]
  constructor <;> omega

theorem below_unpack {bits : BitVec 64} (finite : (exponentBits bits).toNat ≠ 2047) :
    Below ((exponentBits bits).toNat - 1022) (unpack Format.binary64 bits) := by
  by_cases normal : (exponentBits bits).toNat = 0
  · have notLast : exponentBits bits ≠ -1#11 := fun last => finite (congrArg BitVec.toNat last)
    have fraction : (@unpackMantissa Format.binary64 bits).toNat.log2 ≤ 51 :=
      log2_le_of_lt_two_pow (BitVec.isLt _)
    rw [UnpackedFloat.unpack]
    dsimp only
    rw [if_neg notLast, if_pos (BitVec.eq_of_toNat_eq normal)]
    split
    next => trivial
    next =>
      change (Nat.log2 _ : Int) + 1 + ((exponentBits bits).toNat - (1023 + 52) + 1) ≤ _
      omega
  · obtain ⟨sign, mantissa, positive, log, unpacked⟩ := unpack_normal finite normal
    rw [unpacked, Below, totalExponent]
    omega

end Packing

section Arithmetic

theorem exponentField_eq (x : Double) : x.exponentField = (exponentBits x.bits.toBitVec).toNat := by
  simp [exponentField, exponentBits, unpackExponent, Nat.shiftRight_eq_div_pow]

theorem unpack_toFloat {x : Double} (finite : x.isFinite = true) :
    x.toFloat.toModel.unpack = unpack Format.binary64 x.bits.toBitVec := by
  rw [isFinite, bne_iff_ne, exponentField_eq] at finite
  have notLast : exponentBits x.bits.toBitVec ≠ -1#11 := fun last => finite (congrArg BitVec.toNat last)
  have number : @isNaNBits Format.binary64 x.bits.toBitVec = false := decide_eq_false fun nan => notLast nan.1
  change unpack Format.binary64 (pack Format.binary64 (unpack Format.binary64 x.bits.toBitVec)) = _
  rw [pack_unpack, number]
  rfl

theorem below_toFloat {x : Double} (finite : x.isFinite = true) :
    Below (x.exponentField - 1022) x.toFloat.toModel.unpack := by
  rw [unpack_toFloat finite]
  rw [isFinite, bne_iff_ne] at finite
  rw [exponentField_eq] at finite ⊢
  exact below_unpack finite

theorem toFloat_normal {x : Double} (finite : x.isFinite = true) (normal : x.exponentField ≠ 0) :
    ∃ sign mantissa positive, mantissa.log2 = 52 ∧
      x.toFloat.toModel.unpack = .finite sign mantissa (x.exponentField - 1075) positive := by
  rw [unpack_toFloat finite]
  rw [isFinite, bne_iff_ne] at finite
  rw [exponentField_eq] at finite normal ⊢
  exact unpack_normal finite normal

theorem exponentField_le_of_below {number : UnpackedFloat} {x : Double} {limit : Nat}
    (packed : x.bits.toBitVec = pack Format.binary64 number) (below : Below (limit - 1022) number)
    (small : limit ≤ 1994) : x.exponentField ≤ limit := by
  have bound := exponentBits_pack_le below (by omega)
  rw [exponentField_eq, packed]
  omega

theorem unpacked_sub_self {number : UnpackedFloat} {limit : Int} (below : Below limit number) :
    UnpackedFloat.sub Format.binary64 number number = .zero .positive := by
  obtain ⟨sign, rfl⟩ | ⟨sign, mantissa, exponent, positive, rfl, _⟩ := below.cases
  · cases sign <;> rfl
  · rw [UnpackedFloat.sub]
    simp only [Int.sub_self]
    rfl

theorem sub_self {x : Double} (finite : x.isFinite = true) : x - x = zero := by
  change ofFloat ⟨Float.Model.pack (UnpackedFloat.sub Format.binary64 x.toFloat.toModel.unpack
    x.toFloat.toModel.unpack)⟩ = _
  rw [unpacked_sub_self (below_toFloat finite)]
  decide +kernel

theorem log2_mul_le (m n : Nat) : (m * n).log2 ≤ m.log2 + n.log2 + 1 := by
  have left : m < 2 ^ (m.log2 + 1) := Nat.lt_log2_self
  have right : n < 2 ^ (n.log2 + 1) := Nat.lt_log2_self
  have product := Nat.mul_lt_mul'' left right
  rw [← Nat.pow_add] at product
  have log := log2_le_of_lt_two_pow product
  omega

/-- The exponents of two factors add up, and a carry adds one. -/
theorem exponentField_mul_le {x y : Double} {limit : Nat} (finite : x.isFinite = true) (finite' : y.isFinite = true)
    (bounded : x.exponentField + y.exponentField ≤ limit + 1021) (small : limit ≤ 1994) :
    (x * y).exponentField ≤ limit := by
  refine exponentField_le_of_below (show (x * y).bits.toBitVec =
    pack Format.binary64 (UnpackedFloat.mul Format.binary64 x.toFloat.toModel.unpack y.toFloat.toModel.unpack) from rfl)
    ?_ small
  obtain ⟨sign, left⟩ | ⟨sign, m, e, positive, left, total⟩ := (below_toFloat finite).cases <;>
    obtain ⟨sign', right⟩ | ⟨sign', m', e', positive', right, total'⟩ := (below_toFloat finite').cases <;>
    rw [left, right, UnpackedFloat.mul]
  -- Only the last case is about two numbers that are not zero.
  · trivial
  · trivial
  · trivial
  · have digits := log2_mul_le m m'
    rw [totalExponent] at total total'
    have product : totalExponent (m * m') (e + e') ≤ limit - 1023 := by
      rw [totalExponent]
      omega
    have rounded := below_roundWithAccuracy (sign * sign') .exact product (by omega)
    rwa [show (limit : Int) - 1023 + 1 = limit - 1022 by omega] at rounded

theorem log2_div_le {m n : Nat} (positive : 0 < n) : (m / n).log2 ≤ m.log2 - n.log2 := by
  have numerator : m < 2 ^ (m.log2 + 1) := Nat.lt_log2_self
  have denominator : 2 ^ n.log2 ≤ n := Nat.log2_self_le positive.ne'
  have quotient : m / n < 2 ^ (m.log2 + 1 - n.log2) := by
    apply Nat.div_lt_of_lt_mul
    calc m < 2 ^ (m.log2 + 1) := numerator
      _ ≤ 2 ^ (n.log2 + (m.log2 + 1 - n.log2)) := Nat.pow_le_pow_right (by decide) (by omega)
      _ = 2 ^ n.log2 * 2 ^ (m.log2 + 1 - n.log2) := Nat.pow_add ..
      _ ≤ n * 2 ^ (m.log2 + 1 - n.log2) := Nat.mul_le_mul_right _ denominator
  have log := log2_le_of_lt_two_pow quotient
  omega

/-- The exponent of the divisor is taken off that of the dividend; a quotient of significands is below two, and a carry
adds one. -/
theorem exponentField_div_le {x y : Double} {limit : Nat} (finite : x.isFinite = true) (finite' : y.isFinite = true)
    (normal : y.exponentField ≠ 0) (bounded : x.exponentField + 1024 ≤ limit + y.exponentField)
    (small : limit ≤ 1994) : (x / y).exponentField ≤ limit := by
  refine exponentField_le_of_below (show (x / y).bits.toBitVec =
    pack Format.binary64 (UnpackedFloat.div Format.binary64 x.toFloat.toModel.unpack y.toFloat.toModel.unpack) from rfl)
    ?_ small
  obtain ⟨sign', m', positive', log, right⟩ := toFloat_normal finite' normal
  obtain ⟨sign, left⟩ | ⟨sign, m, e, positive, left, total⟩ := (below_toFloat finite).cases <;>
    rw [left, right, UnpackedFloat.div]
  · trivial
  · rw [totalExponent] at total
    have quotient : totalExponent (divCore Format.binary64 m e m' (y.exponentField - 1075)).1
        (divCore Format.binary64 m e m' (y.exponentField - 1075)).2.1 ≤ limit - 1023 := by
      simp only [divCore, totalExponent, targetExponent_binary64, log, Nat.shiftLeft_eq]
      generalize shiftIs : (_ - _ - min _ _ : Int).toNat = shift
      have digits := log2_div_le (m := m * 2 ^ shift) positive'
      rw [log2_mul_two_pow positive.ne', log] at digits
      omega
    have rounded := below_roundWithAccuracy (sign / sign')
      (divCore Format.binary64 m e m' (y.exponentField - 1075)).2.2 quotient (by omega)
    rwa [show (limit : Int) - 1023 + 1 = limit - 1022 by omega] at rounded

theorem exponentField_round_le {x : Double} {digits : Nat} (bounded : x.exponentField ≤ digits + 1022)
    (small : digits < 1023) : x.round.exponentField ≤ digits + 1024 := by
  have units : x.units < 2 ^ digits * unitsPerOne := by
    have units := units_lt bounded
    rwa [← Nat.pow_add, show 53 + (digits + 1022 - 1) = digits + 1074 by omega, two_pow_add_units] at units
  have rounded : roundHalfUp x.units unitsPerOne < 2 ^ (digits + 1) * 1 := by
    rw [roundHalfUp, Nat.div_lt_iff_lt_mul (Nat.mul_pos (by decide) unitsPerOne_pos), Nat.pow_succ]
    have one := Nat.le_mul_of_pos_left unitsPerOne (Nat.two_pow_pos digits)
    rw [Nat.mul_one, Nat.mul_assoc, Nat.mul_left_comm, Nat.mul_left_comm (2 ^ digits)]
    omega
  exact exponentField_nearest_le small rounded

end Arithmetic

end Double

/-- Counts of 64 bits are too small for any step of an average to reach infinity. -/
theorem isFinite_perCommit {total commits : Nat} (totalBounded : total ≤ Double.maxCount)
    (commitsBounded : commits ≤ Double.maxCount) : (perCommit total commits).isFinite = true := by
  unfold perCommit
  split
  next => rfl
  next nonzero =>
    dsimp only
    have hundred : (Double.ofNat 100).exponentField = 1029 := by decide +kernel
    have finiteHundred : (Double.ofNat 100).isFinite = true := Double.isFinite_ofNat (by decide)
    have dividend := Double.exponentField_ofNat_le totalBounded
    have divisor : 1023 ≤ (Double.ofNat commits).exponentField :=
      @Double.exponentField_nearest_ge commits 1 0 Nat.one_pos (by decide) (by omega)
    have quotient : (Double.ofNat total / Double.ofNat commits).exponentField ≤ 1088 :=
      Double.exponentField_div_le (Double.isFinite_ofNat totalBounded) (Double.isFinite_ofNat commitsBounded)
        (by omega) (by omega) (by decide)
    have product : (Double.ofNat total / Double.ofNat commits * Double.ofNat 100).exponentField ≤ 74 + 1022 :=
      Double.exponentField_mul_le (Double.isFinite_iff.mpr (by omega)) finiteHundred (by omega) (by decide)
    have rounded := Double.exponentField_round_le product (by decide)
    generalize (Double.ofNat total / Double.ofNat commits * Double.ofNat 100).round = whole at rounded ⊢
    have average : (whole / Double.ofNat 100).exponentField ≤ 1093 :=
      Double.exponentField_div_le (Double.isFinite_iff.mpr (by omega)) finiteHundred
        (by omega) (by omega) (by decide)
    exact Double.isFinite_iff.mpr (by omega)

end ChangeCoupling
