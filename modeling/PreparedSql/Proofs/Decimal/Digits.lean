import Mathlib.Algebra.Ring.Nat
import PreparedSql.Decimal.Integer

/-!
# Runs of digits

A run of characters of one kind is found again in a longer text if something else follows it. What
`padded` writes is such a run of digits. It denotes the number and has just the width if the number
is small enough.
-/
namespace PreparedSql

/-- Whether a run of characters ends where a text goes on. -/
def Stops (p : Char → Bool) (cs : List Char) : Prop :=
  ∀ c ∈ cs.head?, p c = false

section Stops

variable {p : Char → Bool} {cs rest : List Char}

theorem stops_cons {c : Char} (hc : p c = false) (rest : List Char) : Stops p (c :: rest) := by
  intro d hd
  obtain rfl : c = d := Option.some.inj hd
  exact hc

theorem Stops.take (h : Stops p rest) (n : Nat) : Stops p (rest.take n) := by
  intro c hc
  cases n with
  | zero =>
    rw [List.take_zero] at hc
    cases hc
  | succ n =>
    rw [List.head?_take, if_neg (Nat.succ_ne_zero n)] at hc
    exact h c hc

theorem takeWhile_append_of_stops (hcs : ∀ c ∈ cs, p c = true) (hrest : Stops p rest) :
    (cs ++ rest).takeWhile p = cs := by
  rw [List.takeWhile_append_of_pos hcs]
  cases rest with
  | nil => simp
  | cons c rest =>
    have hc := hrest c rfl
    simp [hc]

theorem dropWhile_append_of_stops (hcs : ∀ c ∈ cs, p c = true) (hrest : Stops p rest) :
    (cs ++ rest).dropWhile p = rest := by
  rw [List.dropWhile_append_of_pos hcs]
  cases rest with
  | nil => simp
  | cons c rest =>
    have hc := hrest c rfl
    simp [hc]

end Stops

namespace Decimal

variable {width n : Nat}

theorem length_digits_le (h : n < 10 ^ (width + 1)) : (digits n).length ≤ width + 1 := by
  induction width generalizing n with
  | zero => exact Nat.le_of_eq (congrArg List.length (digits_of_lt h))
  | succ width ih =>
    by_cases hn : n < 10
    · rw [digits_of_lt hn, List.length_singleton]
      omega
    · have hquotient : n / 10 < 10 ^ (width + 1) := by
        apply Nat.div_lt_of_lt_mul
        rwa [Nat.mul_comm, ← Nat.pow_succ]
      rw [digits_of_le (Nat.le_of_not_lt hn), List.length_append, List.length_singleton]
      exact Nat.add_le_add_right (ih hquotient) 1

theorem length_padded (hwidth : 0 < width) (h : n < 10 ^ width) :
    (padded width n).length = width := by
  obtain ⟨width, rfl⟩ := Nat.exists_eq_add_of_lt hwidth
  rw [Nat.zero_add] at h ⊢
  have hle := length_digits_le h
  rw [padded, List.length_append, List.length_replicate]
  omega

theorem isDigit_of_mem_padded {c : Char} (hc : c ∈ padded width n) : isDigit c = true := by
  rw [padded, List.mem_append] at hc
  rcases hc with hzero | hdigit
  · rw [List.eq_of_mem_replicate hzero]
    decide
  · exact isDigit_of_mem_digits hdigit

theorem padded_ne_nil (width n : Nat) : padded width n ≠ [] := by
  intro h
  exact digits_ne_nil n (List.append_eq_nil_iff.mp h).2

theorem natOfDigits?_padded (width n : Nat) : natOfDigits? 0 (padded width n) = some n := by
  rw [padded]
  induction width - (digits n).length with
  | zero => exact natOfDigits?_digits n
  | succ zeros ih => exact ih

end Decimal

end PreparedSql
