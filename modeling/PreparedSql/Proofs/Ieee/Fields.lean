import Mathlib.Algebra.Order.Field.Rat
import Mathlib.Algebra.Order.Ring.Int
import Mathlib.Tactic.Ring
import PreparedSql.Proofs.Ieee.Exact
import PreparedSql.Text.BigEndian

/-!
# Numbers read off their fields

A word of binary64 has a sign, an exponent of 11 bits and a fraction of 52 bits. Read as a rational
number through these, the word of a finite number is its magnitude in least units with its sign
(`Binary64.valueOfWord?_bits`), and that of a whole number which fits the significand is the number
itself.
-/
namespace PreparedSql.Ieee.Binary64

open Text

/-- The number that a word stands for, if it is finite. There is a one before the fraction unless
the exponent is zero, which then counts like an exponent of one. -/
def valueOfWord? (word : ℕ) : Option ℚ :=
  let sign : ℕ := word / 2 ^ 63
  let exponent : ℕ := word / 2 ^ 52 % 2 ^ 11
  let fraction := ((word % 2 ^ 52 : ℕ) : ℚ) / 2 ^ 52
  if exponent = 2 ^ 11 - 1 then none
  else if exponent = 0 then some ((-1) ^ sign * (fraction * 2 ^ (-1022 : ℤ)))
  else some ((-1) ^ sign * ((1 + fraction) * 2 ^ ((exponent : ℤ) - 1023)))

def valueOfBytes? (bytes : List UInt8) : Option ℚ :=
  if bytes.length = 8 then valueOfWord? (natOfBigEndian bytes) else none

def leastUnit : ℚ :=
  2 ^ (-(binary64.unitExponent : ℤ))

theorem leastUnit_eq : leastUnit = 2 ^ (-1022 : ℤ) / 2 ^ 52 := by
  have hunit : -(binary64.unitExponent : ℤ) = -1022 - (52 : ℕ) := rfl
  rw [leastUnit, hunit, zpow_sub₀ two_ne_zero, zpow_natCast]

theorem two_pow_mul_leastUnit : (2 : ℚ) ^ binary64.unitExponent * leastUnit = 1 := by
  rw [leastUnit, ← zpow_natCast, ← zpow_add₀ two_ne_zero, add_neg_cancel, zpow_zero]

theorem magnitude_mul_leastUnit (bits : ℕ) :
    (binary64.magnitude bits : ℚ) * leastUnit =
      if bits / 2 ^ 52 = 0 then ((bits % 2 ^ 52 : ℕ) : ℚ) / 2 ^ 52 * 2 ^ (-1022 : ℤ)
      else (1 + ((bits % 2 ^ 52 : ℕ) : ℚ) / 2 ^ 52) *
        2 ^ (((bits / 2 ^ 52 : ℕ) : ℤ) - 1023) := by
  have hspan : binary64.span = 2 ^ 52 := rfl
  have hhidden (fraction : ℕ) :
      ((2 ^ 52 + fraction : ℕ) : ℚ) = (1 + (fraction : ℚ) / 2 ^ 52) * 2 ^ 52 := by
    push_cast
    ring
  simp only [Format.magnitude, hspan]
  rw [leastUnit_eq]
  split
  · rw [mul_div_assoc', div_mul_eq_mul_div]
  · next hexponent =>
    have hplace : ((bits / 2 ^ 52 : ℕ) : ℤ) - 1023 = ((bits / 2 ^ 52 - 1 : ℕ) : ℤ) + -1022 := by
      omega
    rw [hplace, zpow_add₀ two_ne_zero, zpow_natCast, Nat.cast_mul, hhidden, Nat.pow_eq,
      Nat.cast_pow, Nat.cast_ofNat]
    generalize (2 : ℚ) ^ (-1022 : ℤ) = unit
    ring

/-- The fields of a finite number are its magnitude and its sign. -/
theorem valueOfWord?_bits {x : Binary64} (h : x.isFinite = true) :
    valueOfWord? x.bits.toNat =
      some ((if x.isNegative then -1 else 1) * ((x.magnitude : ℚ) * leastUnit)) := by
  have hword := x.bits.toNat_lt
  have hbits : x.unsignedBits = x.bits.toNat % 2 ^ 63 := rfl
  have hexponent : x.bits.toNat / 2 ^ 52 % 2 ^ 11 = x.unsignedBits / 2 ^ 52 := by omega
  have hfraction : x.bits.toNat % 2 ^ 52 = x.unsignedBits % 2 ^ 52 := by omega
  have hsign : (-1 : ℚ) ^ (x.bits.toNat / 2 ^ 63) = if x.isNegative then -1 else 1 := by
    have hnegative : x.isNegative = decide (2 ^ 63 ≤ x.bits.toNat) := rfl
    rw [hnegative]
    by_cases hhigh : 2 ^ 63 ≤ x.bits.toNat
    · have hone : x.bits.toNat / 2 ^ 63 = 1 := by omega
      rw [hone, decide_eq_true hhigh, pow_one, if_pos rfl]
    · have hzero : x.bits.toNat / 2 ^ 63 = 0 := by omega
      rw [hzero, decide_eq_false hhigh, pow_zero, if_neg Bool.false_ne_true]
  have hfinite : x.unsignedBits / 2 ^ 52 ≠ 2 ^ 11 - 1 := by
    have hinfinity : binary64.infinity = (2 ^ 11 - 1) * 2 ^ 52 := rfl
    have hless := of_decide_eq_true h
    omega
  simp only [valueOfWord?, hexponent, hfraction, hsign]
  rw [if_neg hfinite, magnitude, magnitude_mul_leastUnit]
  split <;> rfl

theorem valueOfBytes?_bigEndian (x : Binary64) :
    valueOfBytes? (bigEndian 8 x.bits.toNat) = valueOfWord? x.bits.toNat := by
  have hword : x.bits.toNat < 256 ^ 8 := x.bits.toNat_lt
  rw [valueOfBytes?, if_pos (length_bigEndian 8 _), natOfBigEndian_bigEndian]
  exact congrArg valueOfWord? (Nat.mod_eq_of_lt hword)

theorem sign_mul_natAbs (n : ℤ) :
    (if decide (n < 0) = true then -1 else 1) * (n.natAbs : ℚ) = n := by
  rw [Nat.cast_natAbs]
  rcases lt_or_ge n 0 with hneg | hnonneg
  · rw [decide_eq_true hneg, if_pos rfl, abs_of_neg hneg, Int.cast_neg, neg_one_mul, neg_neg]
  · rw [decide_eq_false hnonneg.not_gt, if_neg Bool.false_ne_true, abs_of_nonneg hnonneg, one_mul]

/-- No whole number up to `2 ^ 53` is rounded. -/
theorem valueOfWord?_ofInt {n : ℤ} (h : n.natAbs ≤ 2 ^ 53) :
    valueOfWord? (ofInt n).bits.toNat = some (n : ℚ) := by
  obtain ⟨hfinite, hnegative, hmagnitude⟩ := ofInt_exact h
  rw [valueOfWord?_bits hfinite, hnegative, hmagnitude, Nat.cast_mul, Nat.cast_pow, mul_assoc,
    Nat.cast_ofNat, two_pow_mul_leastUnit, mul_one, sign_mul_natAbs]

end PreparedSql.Ieee.Binary64
