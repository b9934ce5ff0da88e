import ChangeCoupling.Number.Cell
import ChangeCoupling.Proofs.LinesAndWords
import ChangeCoupling.Proofs.NearestDouble
import ChangeCoupling.Text.Row

/-! Numbers as text. The full text of a finite double reads back as that double, and the digits of a count read as the
double nearest to it. All that matters of a decimal is its value: zeros may move between coefficient and exponent. -/

namespace ChangeCoupling

namespace Number

theorem digitsValue_eq (digits : List Char) : digitsValue digits = Nat.ofDigitChars 10 digits 0 := by
  rw [Nat.ofDigitChars_eq_foldl]
  rfl

theorem digitsValue_append_zeros (digits : List Char) (count : Nat) :
    digitsValue (digits ++ zeros count) = digitsValue digits * 10 ^ count := by
  simp only [digitsValue_eq, zeros]
  rw [Nat.ofDigitChars_append, Nat.ofDigitChars_replicate_zero, Nat.mul_comm]

theorem digitsValue_zeros_append (count : Nat) (digits : List Char) :
    digitsValue (zeros count ++ digits) = digitsValue digits := by
  simp only [digitsValue_eq, zeros]
  rw [Nat.ofDigitChars_append, Nat.ofDigitChars_replicate_zero, Nat.mul_zero]

theorem digitsValue_toDigits (n : Nat) : digitsValue (Nat.toDigits 10 n) = n := by
  rw [digitsValue_eq, Nat.ofDigitChars_ten_toDigits]

theorem isDigit_of_mem_toDigits {n : Nat} {c : Char} (member : c ∈ Nat.toDigits 10 n) : isDigit c = true := by
  have digit := Nat.isDigit_of_mem_toDigits (by decide) (by decide) member
  simpa [isDigit, Char.isDigit, Char.le_def] using digit

theorem toDigits_ne_nil (n : Nat) : Nat.toDigits 10 n ≠ [] := List.ne_nil_of_length_pos Nat.length_toDigits_pos

end Number

namespace Double

theorem digitCount_le {n count : Nat} (positive : 0 < count) (power : n < Nat.pow 10 count) : digitCount n ≤ count := by
  rwa [digitCount, Nat.length_toDigits_le_iff (by decide) positive]

theorem lt_digitCount {n count : Nat} (power : Nat.pow 10 count ≤ n) : count < digitCount n := by
  rw [Nat.pow_eq] at power
  cases count with
  | zero => exact Nat.length_toDigits_pos
  | succ count =>
    rw [← Nat.not_le, digitCount, Nat.length_toDigits_le_iff (by decide) count.succ_pos]
    omega

theorem ofDecimal_zero (exponent : Int) : ofDecimal 0 exponent = zero := by simp [ofDecimal]

theorem ofDecimal_eq_nearest {coefficient : Nat} {exponent : Int} (nonzero : coefficient ≠ 0)
    (lower : -324 < digitCount coefficient + exponent) (upper : digitCount coefficient + exponent < 310) :
    ofDecimal coefficient exponent =
      nearest (coefficient * Nat.pow 10 exponent.toNat) (Nat.pow 10 (-exponent).toNat) := by
  simp only [ofDecimal, nonzero, decide_false, Bool.false_or, decide_eq_true_eq]
  rw [if_neg (by omega), if_neg (by omega)]

theorem ofDecimal_count {n : Nat} (bounded : n ≤ maxCount) : ofDecimal n 0 = ofNat n := by
  by_cases zero : n = 0
  · rw [zero, ofDecimal_zero]
    decide +kernel
  · have digits : digitCount n ≤ 20 := digitCount_le (by decide) (Nat.lt_of_le_of_lt bounded (by decide))
    rw [ofDecimal_eq_nearest zero (by omega) (by omega)]
    exact congrArg (nearest · 1) (Nat.mul_one n)

/-- A binary fraction has as many decimal places as binary ones. The conditions on `low` and `high` keep its digits
within the range in which they are looked at. -/
theorem ofDecimal_mul_five_pow {units bound places low high : Nat} (nonzero : units ≠ 0) (less : units < bound)
    (lower : Nat.pow 10 low ≤ Nat.pow 5 places) (upper : bound * Nat.pow 5 places < Nat.pow 10 high)
    (least : places < low + 325) (greatest : high < places + 310) :
    ofDecimal (units * Nat.pow 5 places) (-places) = nearest units (Nat.pow 2 places) := by
  have positive : 0 < Nat.pow 5 places := Nat.pow_pos (by decide)
  have product : units * Nat.pow 5 places ≠ 0 := Nat.mul_ne_zero nonzero positive.ne'
  have many := lt_digitCount (lower.trans (Nat.le_mul_of_pos_left _ (Nat.pos_of_ne_zero nonzero)))
  have few : digitCount (units * Nat.pow 5 places) ≤ high := by
    have less := (Nat.mul_lt_mul_of_pos_right less positive).trans upper
    cases high with
    | zero => exact absurd (Nat.lt_one_iff.mp less) product
    | succ high => exact digitCount_le high.succ_pos less
  rw [ofDecimal_eq_nearest product (by omega) (by omega), Int.toNat_neg_natCast, Int.neg_neg, Int.toNat_natCast]
  simp only [Nat.pow_eq]
  apply nearest_congr (Nat.pow_pos (by decide)) (Nat.two_pow_pos places)
  rw [Nat.pow_zero, Nat.mul_one, Nat.mul_assoc, ← Nat.mul_pow]

theorem toDigits_mul_ten_pow {n : Nat} (positive : 0 < n) (count : Nat) :
    Nat.toDigits 10 (n * 10 ^ count) = Nat.toDigits 10 n ++ Number.zeros count := by
  induction count with
  | zero => simp [Number.zeros]
  | succ count ih =>
    have last := Nat.toDigits_append_toDigits (b := 10) (n := n * 10 ^ count) (d := 0) (by decide)
      (Nat.mul_pos positive (Nat.pow_pos (by decide))) (by decide)
    rw [Nat.pow_succ, ← Nat.mul_assoc, Nat.mul_comm _ 10, ← Nat.add_zero (10 * _), ← last, ih, List.append_assoc]
    simp [Number.zeros, List.replicate_succ']

theorem digitCount_mul_ten_pow {n : Nat} (positive : 0 < n) (count : Nat) :
    digitCount (n * 10 ^ count) = digitCount n + count := by
  simp [digitCount, toDigits_mul_ten_pow positive, Number.zeros]

/-- Zeros at the end of the coefficient count like so much more in the exponent. -/
theorem ofDecimal_mul_ten_pow (coefficient count : Nat) (exponent : Int) :
    ofDecimal (coefficient * 10 ^ count) exponent = ofDecimal coefficient (exponent + count) := by
  cases Nat.eq_zero_or_pos coefficient with
  | inl zero => rw [zero, Nat.zero_mul, ofDecimal_zero, ofDecimal_zero]
  | inr positive =>
    have nonzero : coefficient * 10 ^ count ≠ 0 := Nat.mul_ne_zero positive.ne' (Nat.pow_pos (by decide)).ne'
    have point : ((digitCount coefficient + count : Nat) : Int) + exponent =
        digitCount coefficient + (exponent + count) := by omega
    simp only [ofDecimal, digitCount_mul_ten_pow positive, point, nonzero, positive.ne', decide_false, Bool.false_or,
      Nat.pow_eq]
    split
    · rfl
    split
    · rfl
    apply nearest_congr (Nat.pow_pos (by decide)) (Nat.pow_pos (by decide))
    have powers : count + exponent.toNat + (-(exponent + count)).toNat =
        (exponent + count).toNat + (-exponent).toNat := by omega
    simp only [Nat.mul_assoc, ← Nat.pow_add]
    rw [powers]

end Double

namespace Number

section Reading

theorem takeWhile_digits (digits rest : List Char) (areDigits : ∀ c ∈ digits, isDigit c = true)
    (ends : ∀ c ∈ rest.head?, isDigit c = false) :
    (digits ++ rest).takeWhile isDigit = digits ∧ (digits ++ rest).dropWhile isDigit = rest := by
  rw [List.takeWhile_append_of_pos areDigits, List.dropWhile_append_of_pos areDigits]
  cases rest with
  | nil => simp
  | cons c rest => simp [ends c rfl]

theorem readDecimal_whole {digits : List Char} (areDigits : ∀ c ∈ digits, isDigit c = true) (nonempty : digits ≠ []) :
    readDecimal digits = some (Double.ofDecimal (digitsValue digits) 0) := by
  obtain ⟨taken, left⟩ := takeWhile_digits digits [] areDigits (by simp)
  rw [List.append_nil] at taken left
  simp [readDecimal, taken, left, splitFraction, readExponent, nonempty]

theorem readDecimal_point (whole behind : List Char) (areDigits : ∀ c ∈ whole ++ behind, isDigit c = true)
    (nonempty : whole ≠ []) :
    readDecimal (whole ++ '.' :: behind) =
      some (Double.ofDecimal (digitsValue (whole ++ behind)) (-behind.length)) := by
  obtain ⟨taken, left⟩ := takeWhile_digits whole ('.' :: behind)
    (fun c member => areDigits c (List.mem_append_left _ member)) (by simp; decide)
  obtain ⟨taken', left'⟩ := takeWhile_digits behind []
    (fun c member => areDigits c (List.mem_append_right _ member)) (by simp)
  rw [List.append_nil] at taken' left'
  simp [readDecimal, taken, left, splitFraction, taken', left', readExponent, nonempty]

/-- Wherever the decimal point stands, the digits are read with their value. -/
theorem readDecimal_positional {digits : List Char} (areDigits : ∀ c ∈ digits, isDigit c = true)
    (nonempty : digits ≠ []) (point : Int) :
    readDecimal (positional digits point) =
      some (Double.ofDecimal (digitsValue digits) (point - digits.length)) := by
  have zeroDigits (count : Nat) : ∀ c ∈ zeros count, isDigit c = true := by
    intro c member
    rw [List.eq_of_mem_replicate member]
    decide
  unfold positional
  split
  next small =>
    have read := readDecimal_point ['0'] (zeros (-point).toNat ++ digits) ?_ (by simp)
    · have value : digitsValue (['0'] ++ (zeros (-point).toNat ++ digits)) = digitsValue digits :=
        (digitsValue_zeros_append 1 _).trans (digitsValue_zeros_append _ digits)
      have exponent : -((zeros (-point).toNat ++ digits).length : Int) = point - digits.length := by
        simp only [zeros, List.length_append, List.length_replicate]
        omega
      rw [value, exponent] at read
      exact read
    · intro c member
      rw [List.mem_append, List.mem_append] at member
      rcases member with first | zero | digit
      · exact zeroDigits 1 c first
      · exact zeroDigits _ c zero
      · exact areDigits c digit
  next =>
    split
    next long =>
      rw [readDecimal_whole ?_ (by simp [nonempty]), digitsValue_append_zeros, Double.ofDecimal_mul_ten_pow]
      · congr 2
        omega
      · intro c member
        exact (List.mem_append.mp member).elim (areDigits c) (zeroDigits _ c)
    next short =>
      rw [readDecimal_point _ _ ?_ ?_, List.take_append_drop]
      · congr 2
        simp only [List.length_drop]
        omega
      · rwa [List.take_append_drop]
      · simp [nonempty]
        omega

end Reading

end Number

namespace Decimal

/-- Only zeros are taken off the digits. -/
theorem toDigits_coefficient (d : Decimal) :
    ∃ count, Nat.toDigits 10 d.coefficient = d.digits ++ Number.zeros count := by
  refine ⟨((Nat.toDigits 10 d.coefficient).reverse.takeWhile (· == '0')).length, ?_⟩
  have zeros : (Nat.toDigits 10 d.coefficient).reverse.takeWhile (· == '0') =
      List.replicate ((Nat.toDigits 10 d.coefficient).reverse.takeWhile (· == '0')).length '0' := by
    apply List.eq_replicate_of_mem
    intro c member
    simpa using List.all_eq_true.mp List.all_takeWhile c member
  have split := congrArg List.reverse
    (List.takeWhile_append_dropWhile (p := (· == '0')) (l := (Nat.toDigits 10 d.coefficient).reverse))
  rw [List.reverse_append, List.reverse_reverse, zeros, List.reverse_replicate] at split
  exact split.symm

theorem isDigit_of_mem_digits {d : Decimal} {c : Char} (member : c ∈ d.digits) : Number.isDigit c = true := by
  obtain ⟨count, digits⟩ := d.toDigits_coefficient
  apply Number.isDigit_of_mem_toDigits (n := d.coefficient)
  rw [digits]
  exact List.mem_append_left _ member

theorem digits_ne_nil {d : Decimal} (nonzero : d.coefficient ≠ 0) : d.digits ≠ [] := by
  obtain ⟨count, digits⟩ := d.toDigits_coefficient
  intro empty
  apply nonzero
  have value := Number.digitsValue_append_zeros d.digits count
  rw [← digits, Number.digitsValue_toDigits, empty] at value
  simpa [Number.digitsValue] using value

/-- The digits with the point at its place are read as the double nearest to the decimal. -/
theorem readDecimal_digits {d : Decimal} (nonzero : d.coefficient ≠ 0) :
    Number.readDecimal (Number.positional d.digits d.point) = some d.toDouble := by
  obtain ⟨count, digits⟩ := d.toDigits_coefficient
  have value : d.coefficient = Number.digitsValue d.digits * 10 ^ count := by
    rw [← Number.digitsValue_append_zeros, ← digits, Number.digitsValue_toDigits]
  have exponent : d.point - d.digits.length = d.exponent + count := by
    simp only [point, Double.digitCount, digits, Number.zeros, List.length_append, List.length_replicate]
    omega
  rw [Number.readDecimal_positional (fun _ => isDigit_of_mem_digits) (digits_ne_nil nonzero), exponent,
    ← Double.ofDecimal_mul_ten_pow, ← value, toDouble]

theorem search_toDouble {tie : Tie} {x : Double} {grids : Nat} {exponent : Int} {d : Decimal}
    (found : search tie x grids exponent = some d) : d.toDouble = x := by
  induction grids generalizing exponent with
  | zero => cases found
  | succ grids ih =>
    rw [search, Option.orElse_eq_orElse, Option.orElse_eq_or, Option.or_eq_some_iff] at found
    cases found with
    | inl near =>
      have accepted := List.find?_some near
      simpa using accepted
    | inr finer => exact ih finer.2

theorem exact_toDouble {x : Double} (finite : x.isFinite = true) (nonzero : x.units ≠ 0) :
    (exact x).toDouble = x.abs := by
  have units := Double.units_lt (Double.isFinite_iff.mp finite)
  have lower : Nat.pow 10 750 ≤ Nat.pow 5 1074 := by decide +kernel
  have upper : 2 ^ 53 * 2 ^ (2046 - 1) * Nat.pow 5 1074 < Nat.pow 10 1383 := by decide +kernel
  have range : 1074 < 750 + 325 ∧ 1383 < 1074 + 310 := by decide
  have exponent : (-1074 : Int) = -(1074 : Nat) := rfl
  rw [← Double.nearest_units finite]
  unfold toDouble exact Double.unitsPerOne
  -- No step may compute the powers.
  generalize 1074 = places at lower upper range exponent ⊢
  rw [exponent]
  exact Double.ofDecimal_mul_five_pow nonzero units lower upper range.1 range.2

/-- Whichever grid the shortest decimal is found on, it reads as the double that it was made for. -/
theorem shortest_toDouble (tie : Tie) {x : Double} (finite : x.isFinite = true) (nonzero : x.units ≠ 0) :
    (shortest tie x.abs).toDouble = x.abs := by
  unfold shortest
  cases found : search tie x.abs 17 (places x.abs - 1) with
  | some d => exact search_toDouble found
  | none =>
    rw [Option.getD_none, exact, Double.units_abs]
    exact exact_toDouble finite nonzero

end Decimal

namespace Double

theorem negate_negate (x : Double) : x.negate.negate = x := by
  simp only [negate, UInt64.xor_assoc, UInt64.xor_self, UInt64.xor_zero]

theorem ite_negate_abs (x : Double) : (if x.isNegative then x.abs.negate else x.abs) = x := by
  unfold abs
  split
  next => exact x.negate_negate
  next => rfl

theorem abs_of_units_eq_zero {x : Double} (none : x.units = 0) : x.abs = zero := by
  apply ext_toNat
  rw [toNat_bits_abs]
  unfold units at none
  split at none
  next subnormal => 
    rw [subnormal, none]
    rfl
  next => 
    have power := Nat.two_pow_pos (x.exponentField - 1)
    have := Nat.mul_ne_zero (show 0x10000000000000 + x.fraction ≠ 0 by omega) power.ne'
    exact absurd none this

theorem isInfinite_of_isNaN {x : Double} (undefined : x.isNaN = true) : x.isInfinite = false := by
  simp only [isNaN, Bool.and_eq_true, bne_iff_ne] at undefined
  simp [isInfinite, undefined.2]

/-- A number that is not defined counts as zero. -/
def orZero (x : Double) : Double := if x.isNaN then zero else x

theorem isInfinite_orZero (x : Double) : x.orZero.isInfinite = x.isInfinite := by
  unfold orZero
  split
  next undefined => rw [isInfinite_of_isNaN undefined]; rfl
  next => rfl

theorem orZero_orZero (x : Double) : x.orZero.orZero = x.orZero := by
  by_cases undefined : x.isNaN = true
  · simp only [orZero, undefined, if_true]
    rfl
  · simp [orZero, undefined]

end Double

namespace Number

theorem splitSign_digit {c : Char} {rest : List Char} (digit : isDigit c = true) :
    splitSign (c :: rest) = (false, c :: rest) := by
  unfold splitSign
  split
  next same =>
    cases same
    exact absurd digit (by decide)
  next same =>
    cases same
    exact absurd digit (by decide)
  next => rfl

theorem read_digits {c : Char} {rest : List Char} {x : Double} (digit : isDigit c = true)
    (reads : readDecimal (c :: rest) = some x) : read (String.ofList (c :: rest)) = some x := by
  simp [read, splitSign_digit digit, reads]

theorem read_signed {x : Double} {c : Char} {rest : List Char} (digit : isDigit c = true)
    (reads : readDecimal (c :: rest) = some x.abs) : read (signed x (c :: rest)) = some x := by
  have value := x.ite_negate_abs
  unfold signed
  split
  next negative =>
    rw [if_pos negative] at value
    simp [read, splitSign, reads, value]
  next positive =>
    rw [if_neg positive] at value
    rw [read_digits digit reads, value]

theorem positional_head {digits : List Char} (areDigits : ∀ c ∈ digits, isDigit c = true) (nonempty : digits ≠ [])
    (point : Int) : ∃ c rest, positional digits point = c :: rest ∧ isDigit c = true := by
  obtain ⟨first, others, rfl⟩ := List.exists_cons_of_ne_nil nonempty
  have digit := areDigits first List.mem_cons_self
  unfold positional
  split
  next => exact ⟨'0', _, rfl, by decide⟩
  next => 
    split
    next => exact ⟨first, _, rfl, digit⟩
    next =>
      obtain ⟨count, positive⟩ : ∃ count, point.toNat = count + 1 := ⟨point.toNat - 1, by omega⟩
      rw [positive]
      exact ⟨first, _, rfl, digit⟩

theorem plain_of_isFinite {x : Double} (finite : x.isFinite = true) :
    plain x = signed x (if x.units = 0 then ['0'] else
      positional (Decimal.shortest .up x.abs).digits (Decimal.shortest .up x.abs).point) := by
  have exponent := bne_iff_ne.mp finite
  unfold plain
  rw [if_neg (by simp [Double.isNaN, exponent]), if_neg (by simp [Double.isInfinite, exponent])]
  split <;> rfl

/-- The full text of a finite double reads as that double, with the sign of a zero. -/
theorem read_plain {x : Double} (finite : x.isFinite = true) : read (plain x) = some x := by
  rw [plain_of_isFinite finite]
  split
  next none =>
    apply read_signed (by decide)
    rw [Double.abs_of_units_eq_zero none]
    rfl
  next nonzero =>
    have reads := Decimal.shortest_toDouble .up finite nonzero
    generalize Decimal.shortest .up x.abs = d at reads ⊢
    have coefficient : d.coefficient ≠ 0 := by
      intro zero
      apply nonzero
      rw [← x.units_abs, ← reads, Decimal.toDouble, zero, Double.ofDecimal_zero]
      rfl
    obtain ⟨c, rest, text, digit⟩ :=
      positional_head (fun _ => Decimal.isDigit_of_mem_digits) (Decimal.digits_ne_nil coefficient) d.point
    rw [text]
    apply read_signed digit
    rw [← text, Decimal.readDecimal_digits coefficient, reads]

theorem mem_positional {digits : List Char} {point : Int} {c : Char} (member : c ∈ positional digits point) :
    c ∈ digits ∨ c = '0' ∨ c = '.' := by
  have zero {count : Nat} (member : c ∈ zeros count) : c = '0' := List.eq_of_mem_replicate member
  unfold positional at member
  split at member
  next =>
    simp only [List.cons_append, List.mem_cons, List.mem_append] at member
    rcases member with first | mark | missing | digit
    · exact .inr (.inl first)
    · exact .inr (.inr mark)
    · exact .inr (.inl (zero missing))
    · exact .inl digit
  next =>
    split at member
    next =>
      rcases List.mem_append.mp member with digit | missing
      · exact .inl digit
      · exact .inr (.inl (zero missing))
    next =>
      simp only [List.mem_append, List.mem_cons] at member
      rcases member with before | mark | behind
      · exact .inl (List.mem_of_mem_take before)
      · exact .inr (.inr mark)
      · exact .inl (List.mem_of_mem_drop behind)

theorem mem_plain {x : Double} (finite : x.isFinite = true) {c : Char} (member : c ∈ (plain x).toList) :
    isDigit c = true ∨ c = '.' ∨ c = '-' := by
  have magnitude {c : Char} (member : c ∈ if x.units = 0 then ['0'] else
      positional (Decimal.shortest .up x.abs).digits (Decimal.shortest .up x.abs).point) :
      isDigit c = true ∨ c = '.' ∨ c = '-' := by
    split at member
    next =>
      rw [List.mem_singleton.mp member]
      decide
    next =>
      rcases mem_positional member with digit | rfl | rfl
      · exact .inl (Decimal.isDigit_of_mem_digits digit)
      · decide
      · decide
  rw [plain_of_isFinite finite, signed, String.toList_ofList] at member
  split at member
  next =>
    cases member with
    | head => decide
    | tail _ member => exact magnitude member
  next => exact magnitude member

theorem isBlank_of_isDigit {c : Char} (digit : isDigit c = true) : Text.isBlank c = false := by
  simp only [isDigit, Bool.and_eq_true, decide_eq_true_eq, Char.le_def, UInt32.le_iff_toNat_le] at digit
  have lower : 48 ≤ c.toNat := digit.1
  have upper : c.toNat ≤ 57 := digit.2
  simp only [Text.isBlank, Bool.or_eq_false_iff, Bool.and_eq_false_iff, decide_eq_false_iff_not, beq_eq_false_iff_ne]
  omega

theorem isWord_plain {x : Double} (finite : x.isFinite = true) : Text.IsWord (plain x) := by
  refine ⟨?_, ?_⟩
  · intro empty
    have reads := read_plain finite
    rw [empty, show read "" = none by decide +kernel] at reads
    exact absurd reads (by simp)
  · intro c member
    rcases mem_plain finite member with digit | rfl | rfl
    · exact isBlank_of_isDigit digit
    · decide
    · decide

/-- NaN and the infinities are written by name. -/
theorem plain_of_not_isFinite {x : Double} (named : ¬ x.isFinite = true) :
    x.isNaN = true ∧ plain x = "NaN" ∨ x.isInfinite = true ∧ (plain x = "inf" ∨ plain x = "-inf") := by
  have exponent : x.exponentField = 2047 := by simpa [Double.isFinite] using named
  by_cases whole : x.fraction = 0
  · refine .inr ⟨by simp [Double.isInfinite, exponent, whole], ?_⟩
    cases negative : x.isNegative with
    | true => exact .inr (by simp [plain, signed, Double.isNaN, Double.isInfinite, exponent, whole, negative])
    | false => exact .inl (by simp [plain, signed, Double.isNaN, Double.isInfinite, exponent, whole, negative])
  · exact .inl ⟨by simp [Double.isNaN, exponent, whole], by simp [plain, Double.isNaN, exponent, whole]⟩

theorem isWord_repr (n : Nat) : Text.IsWord n.repr := by
  rw [Nat.repr_eq_ofList_toDigits]
  refine ⟨?_, ?_⟩
  · simp
  · intro c member
    rw [String.toList_ofList] at member
    exact isBlank_of_isDigit (isDigit_of_mem_toDigits member)

theorem read_repr {n : Nat} (bounded : n ≤ Double.maxCount) : read n.repr = some (Double.ofNat n) := by
  have reads := readDecimal_whole (fun _ => isDigit_of_mem_toDigits) (toDigits_ne_nil n)
  obtain ⟨c, rest, digits⟩ := List.exists_cons_of_ne_nil (toDigits_ne_nil n)
  have digit : isDigit c = true := isDigit_of_mem_toDigits (digits ▸ List.mem_cons_self)
  rw [digitsValue_toDigits, Double.ofDecimal_count bounded, digits] at reads
  rw [Nat.repr_eq_ofList_toDigits, digits, read_digits digit reads]

namespace Cell

theorem number?_of_read {text : String} {x : Double} (isWord : Text.IsWord text) (reads : read text = some x)
    (finite : x.isFinite = true) : number? text = some x := by
  rw [number?, Text.trim_of_isWord isWord]
  simp [isWord.1, reads, finite]

theorem number?_plain {x : Double} (finite : x.isFinite = true) : number? (plain x) = some x :=
  number?_of_read (isWord_plain finite) (read_plain finite) finite

/-- A number comes back from its cell, unless it is infinite; one that is not defined comes back as zero. -/
theorem number?_write (x : Double) : number? (write x) = if x.isInfinite then none else some x.orZero := by
  by_cases finite : x.isFinite = true
  · have exponent := bne_iff_ne.mp finite
    have defined : x.isNaN = false := by simp [Double.isNaN, exponent]
    have bounded : x.isInfinite = false := by simp [Double.isInfinite, exponent]
    simp [write, Double.orZero, defined, bounded, number?_plain finite]
  · rcases plain_of_not_isFinite finite with ⟨undefined, _⟩ | ⟨unbounded, text⟩
    · have zero : number? "0" = some Double.zero := by decide +kernel
      simp [write, Double.orZero, undefined, Double.isInfinite_of_isNaN undefined, zero]
    · have defined : ¬ x.isNaN = true := by
        intro undefined
        simp [Double.isInfinite_of_isNaN undefined] at unbounded
      have unread : number? "inf" = none ∧ number? "-inf" = none := by decide +kernel
      rcases text with text | text
      all_goals simp [write, defined, unbounded, text, unread]

theorem needsQuotes_write (x : Double) : Text.Row.needsQuotes (write x).toList = false := by
  unfold write
  split
  next => decide
  next defined =>
    by_cases finite : x.isFinite = true
    · rw [Text.Row.needsQuotes, List.any_eq_false]
      intro c member special
      simp only [Bool.or_eq_true, beq_iff_eq] at special
      have allowed := mem_plain finite member
      rcases special with ((rfl | rfl) | rfl) | rfl
      all_goals exact absurd allowed (by decide)
    · rcases plain_of_not_isFinite finite with undefined | ⟨_, text | text⟩
      · exact absurd undefined.1 defined
      · rw [text]; decide
      · rw [text]; decide

theorem count?_repr {n : Nat} (bounded : n ≤ Double.maxCount) : count? n.repr = (Double.ofNat n).toCount? := by
  rw [count?, number?_of_read (isWord_repr n) (read_repr bounded) (Double.isFinite_ofNat bounded), Option.bind_some]

end Cell

end Number

end ChangeCoupling
