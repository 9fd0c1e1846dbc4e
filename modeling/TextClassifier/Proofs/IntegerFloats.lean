import Mathlib
import TextClassifier.Number.Dyadic

/-!
# Integers as floating-point numbers

A natural number that has no more bits than the mantissas of a format is itself a number of the format, so
nothing is rounded when it becomes one (`equalsInt_ofInt`). Its bits are an exponent and a fraction side by side
(`finiteBits`), and the fraction behind them is the number again (`ofFloat?_finiteBits`).
-/
namespace TextClassifier.Number

/-! ## Bits of finite numbers -/

/-- The bits of a number that is not negative: an exponent, with its bias, and a fraction. -/
def finiteBits (biased fraction : Nat) : UInt64 := UInt64.ofNat (biased * leadingBit + fraction)

theorem leadingBit_eq : leadingBit = 2 ^ 52 := rfl

variable {biased fraction : Nat}

theorem toNat_finiteBits (small : biased < 2048) (inside : fraction < 2 ^ 52) :
    (finiteBits biased fraction).toNat = biased * 2 ^ 52 + fraction := by
  rw [finiteBits, leadingBit_eq, UInt64.toNat_ofNat']
  omega

/-- Numbers with the same bits are the same. -/
theorem eq_of_toBits {x y : Float} (same : x.toBits = y.toBits) : x = y := by
  obtain ⟨⟨_, _⟩⟩ := x
  obtain ⟨⟨_, _⟩⟩ := y
  cases same
  rfl

/-- Bits that are no infinity's and not those of what is no number are the bits of their number. -/
theorem toBits_ofBits {b : UInt64} (finite : b.toNat / 2 ^ 52 % 2 ^ 11 ≠ 2047) : (Float.ofBits b).toBits = b := by
  have number : @Float.Model.UnpackedFloat.isNaNBits .binary64 b.toBitVec = false := by
    rw [Float.Model.UnpackedFloat.isNaNBits, decide_eq_false_iff_not]
    rintro ⟨exponent, -⟩
    rw [Float.Model.UnpackedFloat.unpackExponent_def] at exponent
    have same := congrArg BitVec.toNat exponent
    rw [BitVec.extractLsb'_toNat, Nat.shiftRight_eq_div_pow] at same
    exact finite same
  have packed := @Float.Model.UnpackedFloat.pack_unpack .binary64 b.toBitVec (by decide)
  rw [number] at packed
  exact congrArg UInt64.ofBitVec packed

/-- The fraction behind the bits of a number. -/
theorem ofFloat?_finiteBits (positive : 0 < biased) (small : biased < 2047) (inside : fraction < 2 ^ 52) :
    Dyadic.ofFloat? (Float.ofBits (finiteBits biased fraction)) =
      some ⟨false, 2 ^ 52 + fraction, (biased : Int) - 1075⟩ := by
  have value : (finiteBits biased fraction).toNat = biased * 2 ^ 52 + fraction := toNat_finiteBits (by omega) inside
  have bits : (Float.ofBits (finiteBits biased fraction)).toBits = finiteBits biased fraction :=
    toBits_ofBits (by rw [value]; omega)
  have sign : (finiteBits biased fraction >>> 63 == 1) = false := by
    rw [beq_eq_false_iff_ne, ne_eq, ← UInt64.toNat_inj, UInt64.toNat_shiftRight, value, Nat.shiftRight_eq_div_pow]
    simp
    omega
  have exponent : ((finiteBits biased fraction >>> 52) &&& 0x7FF).toNat = biased := by
    rw [UInt64.toNat_and, UInt64.toNat_shiftRight, value, Nat.shiftRight_eq_div_pow]
    show (biased * 2 ^ 52 + fraction) / 2 ^ 52 &&& 2 ^ 11 - 1 = biased
    rw [Nat.and_two_pow_sub_one_eq_mod]
    omega
  have rest : (finiteBits biased fraction &&& 0xFFFFFFFFFFFFF).toNat = fraction := by
    rw [UInt64.toNat_and, value]
    show (biased * 2 ^ 52 + fraction) &&& 2 ^ 52 - 1 = fraction
    rw [Nat.and_two_pow_sub_one_eq_mod]
    omega
  rw [Dyadic.ofFloat?, bits]
  simp only [sign, exponent, rest, if_neg (Nat.ne_of_lt small), if_neg (Nat.ne_of_gt positive), leadingBit_eq]

/-! ## Natural numbers -/

/-- A number of at most 53 bits, with its leading bit in the place of a mantissa's. -/
theorem scaled_bounds {n : Nat} (positive : 0 < n) (small : n < 2 ^ 53) : n.log2 ≤ 52 ∧
    2 ^ 52 ≤ n * 2 ^ (52 - n.log2) ∧ n * 2 ^ (52 - n.log2) < 2 ^ 53 := by
  have least : 2 ^ n.log2 ≤ n := Nat.log2_self_le (Nat.ne_of_gt positive)
  have greatest : n < 2 ^ (n.log2 + 1) := Nat.lt_log2_self
  have places : n.log2 ≤ 52 := Nat.le_of_lt_succ ((Nat.log2_lt (Nat.ne_of_gt positive)).mpr small)
  refine ⟨places, ?_, ?_⟩
  · calc 2 ^ 52 = 2 ^ n.log2 * 2 ^ (52 - n.log2) := by rw [← Nat.pow_add, Nat.add_sub_cancel' places]
      _ ≤ n * 2 ^ (52 - n.log2) := Nat.mul_le_mul_right _ least
  · calc n * 2 ^ (52 - n.log2) < 2 ^ (n.log2 + 1) * 2 ^ (52 - n.log2) :=
          Nat.mul_lt_mul_of_pos_right greatest (Nat.two_pow_pos _)
      _ = 2 ^ 53 := by rw [← Nat.pow_add]; congr 1; omega

/-- The bits of a natural number of at most 53 bits. -/
theorem toFloat_natural {n : Nat} (positive : 0 < n) (small : n < 2 ^ 53) :
    Dyadic.toFloat ⟨false, n, 0⟩ =
      Float.ofBits (finiteBits (n.log2 + 1023) (n * 2 ^ (52 - n.log2) - 2 ^ 52)) := by
  obtain ⟨places, low, high⟩ := scaled_bounds positive small
  have inside : n * 2 ^ (52 - n.log2) - 2 ^ 52 < 2 ^ 52 := by omega
  have scaled : shift n (52 - (n.log2 : Int)) = n * 2 ^ (52 - n.log2) := by
    rw [shift, if_pos (by omega), show (52 - (n.log2 : Int)).toNat = 52 - n.log2 by omega]
    rfl
  have exponent : ((0 : Int) + n.log2 + 1023).toNat = n.log2 + 1023 := by omega
  have together : (0 : UInt64) ||| ((n.log2 + 1023).toUInt64 <<< 52) |||
      (n * 2 ^ (52 - n.log2) - 2 ^ 52).toUInt64 = finiteBits (n.log2 + 1023) (n * 2 ^ (52 - n.log2) - 2 ^ 52) := by
    have front : (n.log2 + 1023).toUInt64.toNat = n.log2 + 1023 := by
      rw [Nat.toUInt64, UInt64.toNat_ofNat']
      omega
    have back : (n * 2 ^ (52 - n.log2) - 2 ^ 52).toUInt64.toNat = n * 2 ^ (52 - n.log2) - 2 ^ 52 := by
      rw [Nat.toUInt64, UInt64.toNat_ofNat']
      omega
    have apart := Nat.two_pow_add_eq_or_of_lt inside (n.log2 + 1023)
    rw [← UInt64.toNat_inj, toNat_finiteBits (by omega) inside, UInt64.toNat_or, UInt64.toNat_or,
      UInt64.toNat_shiftLeft, front, back, Nat.shiftLeft_eq, Nat.mul_comm (n.log2 + 1023) (2 ^ 52), apart]
    show 0 ||| (n.log2 + 1023) * 2 ^ 52 % 2 ^ 64 ||| _ = _
    rw [Nat.zero_or, Nat.mod_eq_of_lt (by omega), Nat.mul_comm]
  rw [Dyadic.toFloat, if_neg (Nat.ne_of_gt positive)]
  simp only [scaled, exponent, leadingBit_eq]
  rw [if_pos (by omega)]
  exact congrArg Float.ofBits together

/-- A natural number that a mantissa has room for is itself after rounding. -/
theorem round_natural {f : Format} {n : Nat} (least : f.least ≤ 0)
    (greatest : f.precision ≤ f.greatest + 1) (positive : 0 < n) (small : n < 2 ^ f.precision) :
    Dyadic.round f ⟨false, n, 0⟩ = Dyadic.toFloat ⟨false, n, 0⟩ := by
  have places : n.log2 < f.precision := (Nat.log2_lt (Nat.ne_of_gt positive)).mpr small
  have unit : max (0 + (n.log2 : Int) - (f.precision - 1)) f.least ≤ 0 := by omega
  rw [Dyadic.round, if_neg (Nat.ne_of_gt positive)]
  simp only [if_pos unit]
  rw [if_neg fun ⟨_, tooLarge⟩ => by omega]

/-- The fraction of a natural number, with the leading bit in the place of a mantissa's. -/
theorem ofFloat?_natural {n : Nat} (positive : 0 < n) (small : n < 2 ^ 53) :
    Dyadic.ofFloat? (Dyadic.toFloat ⟨false, n, 0⟩) =
      some ⟨false, n * 2 ^ (52 - n.log2), (n.log2 : Int) - 52⟩ := by
  obtain ⟨places, low, high⟩ := scaled_bounds positive small
  have mantissa : 2 ^ 52 + (n * 2 ^ (52 - n.log2) - 2 ^ 52) = n * 2 ^ (52 - n.log2) := Nat.add_sub_cancel' low
  have exponent : ((n.log2 + 1023 : Nat) : Int) - 1075 = n.log2 - 52 := by omega
  rw [toFloat_natural positive small, ofFloat?_finiteBits (by omega) (by omega) (by omega), mantissa, exponent]

/-- A fraction that is a natural number is found equal to it. -/
theorem equalsInt_scaled (n : Nat) {k : Nat} (places : k ≤ 52) :
    Dyadic.equalsInt ⟨false, n * 2 ^ (52 - k), (k : Int) - 52⟩ n = true := by
  have size : shift (n * 2 ^ (52 - k)) ((k : Int) - 52) = n := by
    rw [shift]
    split
    · obtain rfl : k = 52 := by omega
      simp
    · rw [show (-((k : Int) - 52)).toNat = 52 - k by omega]
      exact Nat.mul_div_cancel n (Nat.two_pow_pos _)
  have whole : Dyadic.truncate ⟨false, n * 2 ^ (52 - k), (k : Int) - 52⟩ = n := by
    simp [Dyadic.truncate, size]
  have again : shift n (-((k : Int) - 52)) = n * 2 ^ (52 - k) := by
    rw [shift, if_pos (by omega), show (-((k : Int) - 52)).toNat = 52 - k by omega]
    rfl
  rw [Dyadic.equalsInt, whole]
  simp only [Int.natAbs_natCast, again, beq_self_eq_true, Bool.and_self]

/-- A natural number that has no more bits than the mantissas of a format becomes itself. -/
theorem equalsInt_ofInt {f : Format} {n : Nat} (precise : f.precision ≤ 53) (least : f.least ≤ 0)
    (greatest : f.precision ≤ f.greatest + 1) (small : n < 2 ^ f.precision) : equalsInt (ofInt f n) n = true := by
  have fraction : Dyadic.ofInt (n : Int) = ⟨false, n, 0⟩ := by
    rw [Dyadic.ofInt, Int.natAbs_natCast, decide_eq_false (by omega)]
  rw [equalsInt, ofInt, fraction]
  rcases Nat.eq_zero_or_pos n with rfl | positive
  · have zero : Dyadic.round f ⟨false, 0, 0⟩ = Float.ofBits 0 := rfl
    rw [zero]
    decide +kernel
  · have small' : n < 2 ^ 53 := Nat.lt_of_lt_of_le small (Nat.pow_le_pow_right (by decide) precise)
    have places : n.log2 ≤ 52 := (scaled_bounds positive small').1
    rw [round_natural least greatest positive small, ofFloat?_natural positive small']
    exact equalsInt_scaled n places

/-- A number is at most one integer. -/
theorem eq_of_equalsInt {x : Float} {n m : Int} (first : equalsInt x n = true) (second : equalsInt x m = true) :
    n = m := by
  rw [equalsInt] at first second
  split at first
  · next d fraction =>
    simp only [fraction] at second
    simp only [Dyadic.equalsInt, Bool.and_eq_true, beq_iff_eq] at first second
    exact first.1.symm.trans second.1
  · cases first

/-- A natural number within the precision of a format is the only integer that its number equals. -/
theorem equalsInt_ofInt_iff {f : Format} {n : Nat} {m : Int} (precise : f.precision ≤ 53) (least : f.least ≤ 0)
    (greatest : f.precision ≤ f.greatest + 1) (small : n < 2 ^ f.precision) :
    equalsInt (ofInt f n) m = true ↔ (n : Int) = m := by
  have itself := equalsInt_ofInt precise least greatest small
  exact ⟨eq_of_equalsInt itself, fun same => same ▸ itself⟩

end TextClassifier.Number
