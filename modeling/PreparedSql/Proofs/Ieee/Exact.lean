import Mathlib.Algebra.Ring.Nat
import PreparedSql.Ieee.Binary

/-!
# Exact conversions

A magnitude that needs no more bits than the significand has is its own nearest number
(`Format.magnitude_nearest`). So are the whole numbers up to the first one whose successor is lost
(`Binary64.magnitude_ofInt`).
-/
namespace PreparedSql.Ieee

theorem roundHalfEven_of_dvd {num den : Nat} (hden : 0 < den) (h : den ∣ num) :
    roundHalfEven num den = num / den := by
  have hless : compare (2 * (num % den)) den = .lt := by
    rw [Nat.mod_eq_zero_of_dvd h]
    exact Nat.compare_eq_lt.mpr hden
  simp only [roundHalfEven, hless]

namespace Format

variable (f : Format)

theorem span_pos : 0 < f.span :=
  Nat.two_pow_pos _

theorem magnitude_of_lt {fraction : Nat} (h : fraction < f.span) :
    f.magnitude fraction = fraction := by
  rw [magnitude, Nat.div_eq_of_lt h, Nat.mod_eq_of_lt h]
  rfl

/-- The leading bit of a significand raises the exponent by one, which is how it is hidden. -/
theorem magnitude_of_normal {shift significand : Nat} (hleast : f.span ≤ significand)
    (hgreatest : significand < 2 * f.span) :
    f.magnitude (shift * f.span + significand) = significand * 2 ^ shift := by
  have hsplit : shift * f.span + significand =
      (significand - f.span) + f.span * (shift + 1) := by
    rw [Nat.mul_succ, Nat.mul_comm]
    omega
  have hexponent : (shift * f.span + significand) / f.span = shift + 1 := by
    rw [hsplit, Nat.add_mul_div_left _ _ f.span_pos, Nat.div_eq_of_lt (by omega), Nat.zero_add]
  have hfraction : (shift * f.span + significand) % f.span = significand - f.span := by
    rw [hsplit, Nat.add_mul_mod_self_left, Nat.mod_eq_of_lt (by omega)]
  simp only [magnitude, hexponent, hfraction, Nat.add_sub_cancel, Nat.add_sub_of_le hleast]
  rw [if_neg (Nat.succ_ne_zero shift)]
  rfl

variable {f}

theorem two_mul_span (hprecision : 1 ≤ f.precision) : 2 * f.span = 2 ^ f.precision := by
  change 2 * 2 ^ (f.precision - 1) = _
  rw [← Nat.pow_succ', Nat.succ_eq_add_one, Nat.sub_add_cancel hprecision]

section Significand

variable {n : Nat} (hprecision : 1 ≤ f.precision)
include hprecision

theorem excess_le {k : Nat} (h : n < 2 ^ (f.precision + k)) : f.excess n ≤ k := by
  rcases Nat.eq_zero_or_pos n with rfl | hpos
  · rw [excess, Nat.log2_zero]
    omega
  · have hlog := (Nat.log2_lt (Nat.ne_of_gt hpos)).mpr h
    simp only [excess]
    omega

theorem lt_two_mul_span : n / 2 ^ f.excess n < 2 * f.span := by
  have hbound : n < 2 ^ (Nat.log2 n + 1) := Nat.lt_log2_self
  rw [two_mul_span hprecision, Nat.div_lt_iff_lt_mul (Nat.two_pow_pos _), ← Nat.pow_add]
  apply Nat.lt_of_lt_of_le hbound
  apply Nat.pow_le_pow_right (by decide)
  simp only [excess]
  omega

theorem span_le (h : 0 < f.excess n) : f.span ≤ n / 2 ^ f.excess n := by
  have hne : n ≠ 0 := by
    rintro rfl
    simp only [excess, Nat.log2_zero] at h
    omega
  have hbound : 2 ^ Nat.log2 n ≤ n := Nat.log2_self_le hne
  rw [Nat.le_div_iff_mul_le (Nat.two_pow_pos _)]
  change 2 ^ (f.precision - 1) * _ ≤ n
  rw [← Nat.pow_add]
  refine Nat.le_trans (Nat.pow_le_pow_right (by decide) ?_) hbound
  simp only [excess] at h ⊢
  omega

variable (hdvd : 2 ^ f.excess n ∣ n) (hrange : f.excess n + 2 ≤ 2 ^ f.exponentBits - 1)
include hdvd hrange

/-- A magnitude whose bits beyond the significand are zero is not rounded. -/
theorem nearest_of_dvd :
    f.nearest n 1 = f.excess n * f.span + n / 2 ^ f.excess n ∧ f.nearest n 1 < f.infinity := by
  have hrounded : roundHalfEven n (1 * Nat.pow 2 (f.excess n)) = n / 2 ^ f.excess n := by
    rw [Nat.one_mul]
    exact roundHalfEven_of_dvd (Nat.two_pow_pos _) hdvd
  have hfinite : f.excess n * f.span + n / 2 ^ f.excess n < f.infinity :=
    calc f.excess n * f.span + n / 2 ^ f.excess n
      _ < f.excess n * f.span + 2 * f.span :=
        Nat.add_lt_add_left (lt_two_mul_span hprecision) _
      _ = (f.excess n + 2) * f.span := (Nat.add_mul _ _ _).symm
      _ ≤ f.infinity := Nat.mul_le_mul_right _ hrange
  have hnearest : f.nearest n 1 = f.excess n * f.span + n / 2 ^ f.excess n := by
    simp only [nearest, Nat.div_one, hrounded]
    exact Nat.min_eq_right (Nat.le_of_lt hfinite)
  exact ⟨hnearest, hnearest ▸ hfinite⟩

theorem magnitude_nearest_of_dvd : f.magnitude (f.nearest n 1) = n := by
  have hgreatest := lt_two_mul_span (n := n) hprecision
  rw [(nearest_of_dvd hprecision hdvd hrange).1]
  rcases Nat.eq_zero_or_pos (f.excess n) with hshift | hshift
  · rw [hshift, Nat.pow_zero, Nat.div_one] at hgreatest ⊢
    rcases Nat.lt_or_ge n f.span with hsmall | hnormal
    · rw [Nat.zero_mul, Nat.zero_add, magnitude_of_lt f hsmall]
    · rw [magnitude_of_normal f hnormal hgreatest, Nat.pow_zero, Nat.mul_one]
  · rw [magnitude_of_normal f (span_le hprecision hshift) hgreatest, Nat.div_mul_cancel hdvd]

end Significand

section Scaled

variable {m k : Nat} (hprecision : 1 ≤ f.precision) (hm : m ≤ 2 ^ f.precision)
include hprecision hm

theorem excess_mul_two_pow_le : f.excess (m * 2 ^ k) ≤ k + 1 := by
  apply excess_le hprecision
  calc m * 2 ^ k
    _ ≤ 2 ^ f.precision * 2 ^ k := Nat.mul_le_mul_right _ hm
    _ = 2 ^ (f.precision + k) := (Nat.pow_add _ _ _).symm
    _ < 2 ^ (f.precision + (k + 1)) := Nat.pow_lt_pow_succ (by decide)

/-- The significand may also be the least one that is too long, since its last bit is zero. -/
theorem two_pow_excess_dvd : 2 ^ f.excess (m * 2 ^ k) ∣ m * 2 ^ k := by
  rcases Nat.lt_or_eq_of_le hm with hless | rfl
  · apply Nat.dvd_mul_left_of_dvd
    apply Nat.pow_dvd_pow 2
    apply excess_le hprecision
    rw [Nat.pow_add]
    exact Nat.mul_lt_mul_of_pos_right hless (Nat.two_pow_pos k)
  · have hexcess := excess_mul_two_pow_le (k := k) hprecision hm
    rw [← Nat.pow_add] at hexcess ⊢
    exact Nat.pow_dvd_pow 2 (by omega)

end Scaled

end Format

namespace Binary64

section Parts

variable {negative : Bool} {bits : Nat} (h : bits < 2 ^ 63)
include h

theorem toNat_bits_ofParts :
    (ofParts negative bits).bits.toNat = (if negative then 2 ^ 63 else 0) + bits := by
  change (UInt64.ofNat ((if negative then 2 ^ 63 else 0) + bits)).toNat = _
  rw [UInt64.toNat_ofNat_of_lt']
  simp only [UInt64.size]
  split <;> omega

theorem unsignedBits_ofParts : (ofParts negative bits).unsignedBits = bits := by
  change (ofParts negative bits).bits.toNat % 2 ^ 63 = bits
  rw [toNat_bits_ofParts h]
  split <;> omega

theorem isNegative_ofParts : (ofParts negative bits).isNegative = negative := by
  change decide (2 ^ 63 ≤ (ofParts negative bits).bits.toNat) = negative
  rw [toNat_bits_ofParts h]
  cases negative with
  | false =>
    rw [if_neg Bool.false_ne_true, Nat.zero_add]
    exact decide_eq_false (Nat.not_le.mpr h)
  | true =>
    rw [if_pos rfl]
    exact decide_eq_true (Nat.le_add_right _ _)

end Parts

section Integers

variable {n : Int} (h : n.natAbs ≤ 2 ^ 53)
include h

/-- A whole number that a significand can hold keeps its sign and its magnitude. -/
theorem ofInt_exact : (ofInt n).isFinite = true ∧ (ofInt n).isNegative = decide (n < 0) ∧
    (ofInt n).magnitude = n.natAbs * 2 ^ binary64.unitExponent := by
  have hprecision : 1 ≤ binary64.precision := by decide
  have hdvd := Format.two_pow_excess_dvd (k := binary64.unitExponent) hprecision h
  have hexcess := Format.excess_mul_two_pow_le (k := binary64.unitExponent) hprecision h
  have hrange : binary64.excess (n.natAbs * 2 ^ binary64.unitExponent) + 2 ≤
      2 ^ binary64.exponentBits - 1 :=
    Nat.le_trans (Nat.add_le_add_right hexcess 2) (by decide)
  have hfinite := (Format.nearest_of_dvd hprecision hdvd hrange).2
  have hmagnitude := Format.magnitude_nearest_of_dvd hprecision hdvd hrange
  have hbits := Nat.lt_trans hfinite (show binary64.infinity < 2 ^ 63 by decide)
  rw [ofInt, ofRatio, Nat.pow_eq]
  generalize binary64.nearest (n.natAbs * 2 ^ binary64.unitExponent) 1 = bits at *
  refine ⟨?_, isNegative_ofParts hbits, ?_⟩
  · rw [isFinite, unsignedBits_ofParts hbits, decide_eq_true_eq]
    exact hfinite
  · rw [magnitude, unsignedBits_ofParts hbits, hmagnitude]

end Integers

end Binary64

end PreparedSql.Ieee
