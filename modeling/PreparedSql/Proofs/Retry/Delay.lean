import Mathlib.Algebra.Ring.Nat
import PreparedSql.Retry

/-!
# Delays

The delay after an attempt is the base delay times a power of two, cut off by the policy's limit.
Power and product are computed in words and stop at the greatest ones. The longest duration lies
above every limit, so that in nanoseconds only the cap on the factor shows
(`RetryPolicy.delayAfter_doubles`).
-/
namespace PreparedSql.RetryPolicy

theorem toNat_doublings (n : Nat) : (doublings n).toNat = min (2 ^ n) (2 ^ 32 - 1) := by
  unfold doublings
  split
  · next hlt =>
    have hpow : 2 ^ n ≤ 2 ^ 31 := Nat.pow_le_pow_right (by decide) (by omega)
    have hsize : Nat.pow 2 n < UInt32.size := Nat.lt_of_le_of_lt hpow (by decide)
    rw [UInt32.toNat_ofNat_of_lt' hsize, Nat.min_eq_left (by omega)]
    rfl
  · next hnot =>
    have hpow : 2 ^ 32 ≤ 2 ^ n := Nat.pow_le_pow_right (by decide) (by omega)
    rw [Nat.min_eq_right (by omega)]
    rfl

variable (p : RetryPolicy)

theorem nanos_delayAfter (attempt : Nat) :
    (p.delayAfter attempt).nanos =
      min (p.baseDelay.nanos * min (2 ^ (attempt - 1)) (2 ^ 32 - 1)) p.maxDelay.nanos := by
  have hlimit := p.maxDelay.nanos_le
  rw [delayAfter, Duration.nanos_atMost, Duration.nanos_times, toNat_doublings]
  omega

theorem nanos_delayAfter_le (attempt : Nat) :
    (p.delayAfter attempt).nanos ≤ p.maxDelay.nanos := by
  rw [nanos_delayAfter]
  exact Nat.min_le_right _ _

theorem nanos_delayAfter_le_of_le {p q : RetryPolicy} {attempt later : Nat}
    (hbase : p.baseDelay ≤ q.baseDelay) (hlimit : p.maxDelay ≤ q.maxDelay)
    (hattempt : attempt ≤ later) : (p.delayAfter attempt).nanos ≤ (q.delayAfter later).nanos := by
  have hbase' := Duration.le_iff_nanos_le.mp hbase
  have hlimit' := Duration.le_iff_nanos_le.mp hlimit
  have hpow : 2 ^ (attempt - 1) ≤ 2 ^ (later - 1) :=
    Nat.pow_le_pow_right (by decide) (Nat.sub_le_sub_right hattempt 1)
  have hfactor : min (2 ^ (attempt - 1)) (2 ^ 32 - 1) ≤ min (2 ^ (later - 1)) (2 ^ 32 - 1) := by
    omega
  have hproduct := Nat.mul_le_mul hbase' hfactor
  rw [nanos_delayAfter, nanos_delayAfter, Nat.le_min]
  exact ⟨Nat.le_trans (Nat.min_le_left _ _) hproduct, Nat.le_trans (Nat.min_le_right _ _) hlimit'⟩

/-- Up to the last attempt whose power of two fits the word, the factor is that power. -/
theorem nanos_delayAfter_of_le {attempt : Nat} (h : attempt ≤ 32) :
    (p.delayAfter attempt).nanos =
      min (p.baseDelay.nanos * 2 ^ (attempt - 1)) p.maxDelay.nanos := by
  have hpow : 2 ^ (attempt - 1) ≤ 2 ^ 31 := Nat.pow_le_pow_right (by decide) (by omega)
  have hfactor : min (2 ^ (attempt - 1)) (2 ^ 32 - 1) = 2 ^ (attempt - 1) := by omega
  rw [nanos_delayAfter, hfactor]

theorem nanos_delayAfter_succ {attempt : Nat} (hfirst : 1 ≤ attempt) (hlast : attempt ≤ 31) :
    (p.delayAfter (attempt + 1)).nanos =
      min (2 * p.baseDelay.nanos * 2 ^ (attempt - 1)) p.maxDelay.nanos := by
  have hpow : 2 ^ attempt = 2 * 2 ^ (attempt - 1) := by
    rw [← Nat.pow_succ', Nat.succ_eq_add_one, Nat.sub_add_cancel hfirst]
  rw [nanos_delayAfter_of_le p (by omega), Nat.add_sub_cancel, hpow, Nat.mul_left_comm,
    Nat.mul_assoc]

/-- In nanoseconds and without any bound on their number, the delay after an attempt is the base
delay times a power of two, or times the greatest factor, and at most the limit. A later attempt, a
longer base delay and a higher limit do not make it shorter. It doubles up to the limit as long as
the power of two fits a word of 32 bits. -/
theorem delayAfter_doubles (attempt : UInt32) :
    (p.delayAfter attempt.toNat).nanos =
        min (p.baseDelay.nanos * min (2 ^ (max attempt.toNat 1 - 1)) (2 ^ 32 - 1))
          p.maxDelay.nanos ∧
      p.delayAfter attempt.toNat ≤ p.maxDelay ∧
      (∀ (q : RetryPolicy) (later : UInt32), p.baseDelay ≤ q.baseDelay → p.maxDelay ≤ q.maxDelay →
        attempt ≤ later → p.delayAfter attempt.toNat ≤ q.delayAfter later.toNat) ∧
      (1 ≤ attempt → attempt ≤ 31 →
        (p.delayAfter (attempt + 1).toNat).nanos =
            min (2 * p.baseDelay.nanos * 2 ^ (attempt.toNat - 1)) p.maxDelay.nanos ∧
          (p.delayAfter (attempt + 1).toNat).nanos =
            min (2 * (p.delayAfter attempt.toNat).nanos) p.maxDelay.nanos) := by
  refine ⟨?_, ?_, ?_, ?_⟩
  · have hcounted : max attempt.toNat 1 - 1 = attempt.toNat - 1 := by omega
    rw [hcounted, nanos_delayAfter]
  · exact Duration.le_iff_nanos_le.mpr (p.nanos_delayAfter_le attempt.toNat)
  · intro q later hbase hlimit hattempt
    exact Duration.le_iff_nanos_le.mpr
      (nanos_delayAfter_le_of_le hbase hlimit (UInt32.le_iff_toNat_le.mp hattempt))
  · intro hfirst hlast
    have hlast' : attempt.toNat ≤ 31 := UInt32.le_iff_toNat_le.mp hlast
    have hdouble := p.nanos_delayAfter_succ (UInt32.le_iff_toNat_le.mp hfirst) hlast'
    have hnext : (attempt + 1).toNat = attempt.toNat + 1 := by
      rw [UInt32.toNat_add, UInt32.toNat_one]
      omega
    rw [hnext]
    refine ⟨hdouble, ?_⟩
    rw [hdouble, nanos_delayAfter_of_le p (by omega), Nat.mul_assoc]
    omega

/-- The product of the longest duration does not fit, nor does the power of two after 33 attempts.
-/
example : (delayAfter ⟨5, .longest, .longest⟩ 2).nanos = greatestNanos ∧
    (delayAfter ⟨5, .ofNanos 1, .longest⟩ 33).nanos = 2 ^ 32 - 1 := by
  decide

end PreparedSql.RetryPolicy
