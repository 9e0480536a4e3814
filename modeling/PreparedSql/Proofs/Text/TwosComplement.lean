import Mathlib.Algebra.Ring.Int.Defs
import PreparedSql.Proofs.Decimal.Reading
import PreparedSql.Text.BigEndian

/-!
# Two's complement

The bytes of a number read back as that number if there are enough of them. The numbers for which
there are enough make up the signed range of the width.
-/
namespace PreparedSql.Text

open Decimal

/-- The number whose bytes are given in two's complement, highest first. -/
def intOfTwosComplement (bytes : List UInt8) : Int :=
  let n : Int := natOfBigEndian bytes
  if 2 * n < 256 ^ bytes.length then n else n - 256 ^ bytes.length

@[simp] theorem length_twosComplement (width : Nat) (n : Int) :
    (twosComplement width n).length = width :=
  length_bigEndian width _

theorem natOfBigEndian_twosComplement (width : Nat) (n : Int) :
    (natOfBigEndian (twosComplement width n) : Int) = n % 256 ^ width := by
  have hpow : ((Nat.pow 256 width : Nat) : Int) = 256 ^ width := Int.natCast_pow 256 width
  have hpos : (0 : Int) < 256 ^ width := Int.pow_pos (by decide)
  have hlow := Int.emod_nonneg n (Int.ne_of_gt hpos)
  have hhigh := Int.emod_lt_of_pos n hpos
  rw [twosComplement, natOfBigEndian_bigEndian, hpow, Nat.mod_eq_of_lt (by omega)]
  exact Int.toNat_of_nonneg hlow

def Fits (width : Nat) (n : Int) : Prop :=
  -2 ^ (8 * width - 1) ≤ n ∧ n < 2 ^ (8 * width - 1)

instance (width : Nat) (n : Int) : Decidable (Fits width n) :=
  inferInstanceAs (Decidable (_ ∧ _))

theorem two_mul_half_pow {width : Nat} (hwidth : 0 < width) :
    2 * (2 : Int) ^ (8 * width - 1) = 256 ^ width := by
  have hnat : 2 * 2 ^ (8 * width - 1) = 256 ^ width := by
    rw [show 256 = 2 ^ 8 by decide, ← Nat.pow_mul, ← Nat.pow_succ']
    congr 1
    omega
  exact_mod_cast hnat

/-- A negative number is stored as the number that lies `256 ^ width` above it, in the upper half
of what the bytes hold. -/
theorem intOfTwosComplement_twosComplement {width : Nat} {n : Int} (hwidth : 0 < width)
    (h : Fits width n) : intOfTwosComplement (twosComplement width n) = n := by
  have hhalf := two_mul_half_pow hwidth
  have hbytes := natOfBigEndian_twosComplement width n
  obtain ⟨hleast, hgreatest⟩ := h
  simp only [intOfTwosComplement, length_twosComplement]
  by_cases hneg : n < 0
  · have hmod : n % 256 ^ width = n + 256 ^ width := by
      rw [← Int.add_emod_right, Int.emod_eq_of_lt (by omega) (by omega)]
    rw [hbytes, hmod, if_neg (by omega), Int.add_sub_cancel]
  · have hmod : n % 256 ^ width = n := Int.emod_eq_of_lt (by omega) (by omega)
    rw [hbytes, hmod, if_pos (by omega)]

theorem holds_signed_iff {width : Nat} {n : Int} :
    (Range.signed width).holds n = true ↔ Fits width n := by
  have hpow : ((Nat.pow 2 (8 * width - 1) : Nat) : Int) = 2 ^ (8 * width - 1) :=
    Int.natCast_pow 2 _
  rw [Range.holds_iff, Range.signed, Fits, hpow, Int.le_sub_one_iff]

theorem holds_signed_zero (width : Nat) : (Range.signed width).holds 0 = true := by
  have hpos : (0 : Int) < 2 ^ (8 * width - 1) := Int.pow_pos (by decide)
  rw [holds_signed_iff, Fits]
  omega

end PreparedSql.Text
