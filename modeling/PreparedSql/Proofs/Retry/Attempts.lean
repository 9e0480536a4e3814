import Mathlib.Algebra.Ring.Nat
import Mathlib.Data.Nat.Find
import Mathlib.Order.Bounds.Basic
import PreparedSql.Proofs.Retry.Delay

/-!
# Attempts

Work is done again after every failed serialization, until none is left of the attempts that the
policy allows. A run is told by the number of its last attempt, the least one that no further one
may follow: each attempt before it is repeated by the same three actions
(`RetryPolicy.runFrom_eq`).
-/
namespace PreparedSql

variable {α : Type}

def IsConflict (outcome : Except Error α) : Prop :=
  ∃ text, outcome = .error (.serialization text)

def conflictText : Except Error α → String
  | .error (.serialization text) => text
  | _ => ""

theorem IsConflict.eq_text {outcome : Except Error α} (h : IsConflict outcome) :
    outcome = .error (.serialization (conflictText outcome)) := by
  obtain ⟨text, rfl⟩ := h
  rfl

namespace RetryPolicy

theorem toNat_attempts (p : RetryPolicy) : p.attempts.toNat = max 1 p.maxAttempts.toNat := by
  change (if 1 ≤ p.maxAttempts then p.maxAttempts else 1).toNat = _
  have hle : 1 ≤ p.maxAttempts ↔ 1 ≤ p.maxAttempts.toNat := UInt32.le_iff_toNat_le
  split
  · next h => rw [Nat.max_eq_right (hle.mp h)]
  · next h => rw [Nat.max_eq_left (Nat.le_of_not_le (mt hle.mpr h)), UInt32.toNat_one]

theorem one_le_attempts (p : RetryPolicy) : 1 ≤ p.attempts.toNat := by
  rw [toNat_attempts]
  exact Nat.le_max_left _ _

section Runs

variable (p : RetryPolicy) (outcome : Nat → Except Error α)

def IsLast (i : Nat) : Prop :=
  i = p.attempts.toNat ∨ ¬ IsConflict (outcome i)

/-- The repetition after an attempt that is not the last one. -/
def repetition (i : Nat) : Repetition :=
  ⟨i, p.delayAfter i, conflictText (outcome i)⟩

def repeatActions (i : Nat) : List RetryAction :=
  [.attempt i, .report (p.repetition outcome i), .sleep (p.delayAfter i)]

theorem exists_isLeast_isLast : ∃ k, IsLeast {i | 1 ≤ i ∧ p.IsLast outcome i} k := by
  have hmost : ∃ i, 1 ≤ i ∧ p.IsLast outcome i :=
    ⟨p.attempts.toNat, p.one_le_attempts, Or.inl rfl⟩
  classical
  refine ⟨Nat.find hmost, Nat.find_spec hmost, ?_⟩
  intro i hi
  exact Nat.find_min' hmost hi

variable {p outcome} {made : Nat} {counter : UInt32}

theorem runFrom_of_isLast (hcounter : counter.toNat = made + 1)
    (h : p.IsLast outcome (made + 1)) :
    p.runFrom outcome made counter = .final (outcome (made + 1)) (made + 1) := by
  unfold runFrom
  split
  · next text hconflict =>
    have hmost : made + 1 = p.attempts.toNat := h.resolve_right (not_not_intro ⟨text, hconflict⟩)
    have hnot : ¬ counter < p.attempts := by
      rw [UInt32.lt_iff_toNat_lt]
      omega
    rw [dif_neg hnot, hcounter, hconflict]
  · rw [hcounter]

theorem runFrom_of_not_isLast (hcounter : counter.toNat = made + 1)
    (hle : made + 1 ≤ p.attempts.toNat) (h : ¬ p.IsLast outcome (made + 1)) :
    p.runFrom outcome made counter =
      .repeated (p.repetition outcome (made + 1)) (p.runFrom outcome (made + 1) (counter + 1)) := by
  obtain ⟨hmost, hconflict⟩ := not_or.mp h
  have hlt : counter < p.attempts := by
    rw [UInt32.lt_iff_toNat_lt]
    omega
  rw [runFrom]
  split
  · next text htext => rw [dif_pos hlt, repetition, htext, hcounter, conflictText]
  · next hother =>
    obtain ⟨text, htext⟩ := not_not.mp hconflict
    exact absurd htext (hother text)

/-- A run goes through all attempts up to its last one. -/
theorem runFrom_eq (n : Nat) (hcounter : counter.toNat = made + 1)
    (hle : made + 1 + n ≤ p.attempts.toNat)
    (hbefore : ∀ i, made < i → i < made + 1 + n → ¬ p.IsLast outcome i)
    (hlast : p.IsLast outcome (made + 1 + n)) :
    (p.runFrom outcome made counter).result = outcome (made + 1 + n) ∧
      (p.runFrom outcome made counter).actions =
        (List.range' (made + 1) n).flatMap (p.repeatActions outcome) ++
          [.attempt (made + 1 + n)] := by
  -- Each repetition leaves one attempt less before the last one; the counter keeps pace with them.
  induction n generalizing made counter with
  | zero =>
    rw [runFrom_of_isLast hcounter hlast]
    exact ⟨rfl, rfl⟩
  | succ n ih =>
    have hplace : made + 1 + (n + 1) = made + 1 + 1 + n := by omega
    have hfirst : ¬ p.IsLast outcome (made + 1) := hbefore (made + 1) (by omega) (by omega)
    have hlt : counter < p.attempts := by
      rw [UInt32.lt_iff_toNat_lt]
      omega
    have hnext : (counter + 1).toNat = made + 1 + 1 := by rw [toNat_succ_of_lt hlt, hcounter]
    rw [hplace] at hle hbefore hlast ⊢
    obtain ⟨hresult, hactions⟩ := ih hnext hle (fun i hi => hbefore i (by omega)) hlast
    rw [runFrom_of_not_isLast hcounter (by omega) hfirst]
    refine ⟨hresult, ?_⟩
    rw [List.range'_succ, List.flatMap_cons, List.append_assoc, ← hactions]
    rfl

section Actions

variable (p outcome) (numbers : List Nat) (k : Nat)

theorem countP_isAttempt :
    (numbers.flatMap (p.repeatActions outcome) ++ [RetryAction.attempt k]).countP
      RetryAction.isAttempt = numbers.length + 1 := by
  induction numbers with
  | nil => rfl
  | cons i numbers ih =>
    rw [List.flatMap_cons, List.append_assoc, List.countP_append, ih, List.length_cons]
    exact Nat.add_comm 1 _

theorem filterMap_repetition? :
    (numbers.flatMap (p.repeatActions outcome) ++ [RetryAction.attempt k]).filterMap
      RetryAction.repetition? = numbers.map (p.repetition outcome) := by
  induction numbers with
  | nil => rfl
  | cons i numbers ih =>
    rw [List.flatMap_cons, List.append_assoc, List.filterMap_append, ih]
    rfl

theorem filterMap_delay? :
    (numbers.flatMap (p.repeatActions outcome) ++ [RetryAction.attempt k]).filterMap
      RetryAction.delay? =
      numbers.map p.delayAfter := by
  induction numbers with
  | nil => rfl
  | cons i numbers ih =>
    rw [List.flatMap_cons, List.append_assoc, List.filterMap_append, ih]
    rfl

end Actions

theorem sum_nanos_delays_le (numbers : List Nat) :
    ((numbers.map p.delayAfter).map Duration.nanos).sum ≤ numbers.length * p.maxDelay.nanos := by
  induction numbers with
  | nil => exact Nat.zero_le _
  | cons i numbers ih =>
    rw [List.map_cons, List.map_cons, List.sum_cons, List.length_cons, Nat.succ_mul, Nat.add_comm]
    exact Nat.add_le_add ih (p.nanos_delayAfter_le i)

variable (p outcome)

theorem exists_last_run :
    ∃ k, IsLeast {i | 1 ≤ i ∧ p.IsLast outcome i} k ∧ k ≤ p.attempts.toNat ∧
      (p.run outcome).result = outcome k ∧
      (p.run outcome).actions =
        (List.range' 1 (k - 1)).flatMap (p.repeatActions outcome) ++ [.attempt k] := by
  obtain ⟨k, hk⟩ := p.exists_isLeast_isLast outcome
  have hle : k ≤ p.attempts.toNat := hk.2 ⟨p.one_le_attempts, Or.inl rfl⟩
  obtain ⟨n, rfl⟩ := Nat.exists_eq_add_of_le' hk.1.1
  have hbefore : ∀ i, 0 < i → i < n + 1 → ¬ p.IsLast outcome i := by
    intro i hi hlt hlast
    exact absurd (hk.2 ⟨hi, hlast⟩) (Nat.not_le.mpr hlt)
  have hplace : 0 + 1 + n = n + 1 := by omega
  have hcounter : (1 : UInt32).toNat = 0 + 1 := rfl
  rw [← hplace] at hle hbefore hk
  have hrun := runFrom_eq n hcounter hle hbefore hk.1.2
  rw [hplace] at hle hk hrun
  exact ⟨n + 1, hk, hle, hrun⟩

theorem calls_run {k : Nat} (hk : 1 ≤ k)
    (hactions : (p.run outcome).actions =
      (List.range' 1 (k - 1)).flatMap (p.repeatActions outcome) ++ [.attempt k]) :
    (p.run outcome).calls = k := by
  rw [RetryRun.calls, hactions, countP_isAttempt, List.length_range', Nat.sub_add_cancel hk]

theorem one_le_calls : 1 ≤ (p.run outcome).calls := by
  obtain ⟨k, hk, -, -, hactions⟩ := p.exists_last_run outcome
  rw [p.calls_run outcome hk.1.1 hactions]
  exact hk.1.1

/-- An attempt that was made is repeated if it was a conflict and attempts are left. -/
theorem lt_calls_iff {i : Nat} (hi : 1 ≤ i) (hmade : i ≤ (p.run outcome).calls) :
    i < (p.run outcome).calls ↔ i < p.attempts.toNat ∧ IsConflict (outcome i) := by
  obtain ⟨k, hk, hle, -, hactions⟩ := p.exists_last_run outcome
  rw [p.calls_run outcome hk.1.1 hactions] at hmade ⊢
  constructor
  · intro hlt
    refine ⟨Nat.lt_of_lt_of_le hlt hle, ?_⟩
    by_contra hother
    exact absurd (hk.2 ⟨hi, Or.inr hother⟩) (Nat.not_le.mpr hlt)
  · rintro ⟨hleft, hconflict⟩
    apply Nat.lt_of_le_of_ne hmade
    rintro rfl
    exact hk.1.2.elim (Nat.ne_of_lt hleft) fun hother => hother hconflict

end Runs

/-- The work is done up to the first attempt that is the last one allowed or ends with anything but
a failed serialization, and the run ends with its outcome. After each attempt before it, the
repetition is reported as a warning and then its delay is slept through. The counter of attempts, a
word of 32 bits, shows their numbers. -/
theorem run_repeats_conflicts (p : RetryPolicy) (outcome : Nat → Except Error α) :
    let most := max 1 p.maxAttempts.toNat
    let run := p.run outcome
    ∃ (k : Nat) (texts : Nat → String),
      IsLeast {i | 1 ≤ i ∧ (i = most ∨ ∀ text, outcome i ≠ .error (.serialization text))} k ∧
      (∀ i, 1 ≤ i → i < k → outcome i = .error (.serialization (texts i))) ∧
      run.result = outcome k ∧ run.calls = k ∧
      run.actions = (List.range' 1 (k - 1)).flatMap (fun i =>
        [.attempt i, .report ⟨i, p.delayAfter i, texts i⟩, .sleep (p.delayAfter i)]) ++
          [.attempt k] ∧
      run.repetitions.map p.event = (List.range' 1 (k - 1)).map (fun i =>
        .retrying i most ((p.delayAfter i).nanos / 1000000 % 2 ^ 64) (texts i)) ∧
      run.repetitions.map (fun r => ((p.event r).level, (p.event r).message)) =
        List.replicate (k - 1) ("WARN", "serialization failure, retrying") ∧
      run.delays = (List.range' 1 (k - 1)).map p.delayAfter ∧
      (run.delays.map Duration.nanos).sum ≤ (k - 1) * p.maxDelay.nanos ∧
      k ≤ most ∧ most < 2 ^ 32 := by
  intro most run
  obtain ⟨k, hk, hle, hresult, hactions⟩ := p.exists_last_run outcome
  have hlast : {i | 1 ≤ i ∧ p.IsLast outcome i} =
      {i | 1 ≤ i ∧ (i = most ∨ ∀ text, outcome i ≠ .error (.serialization text))} := by
    ext i
    simp only [IsLast, IsConflict, toNat_attempts, not_exists, ne_eq, most]
  have hrepetitions : run.repetitions = (List.range' 1 (k - 1)).map (p.repetition outcome) := by
    rw [RetryRun.repetitions, hactions, filterMap_repetition?]
  have hdelays : run.delays = (List.range' 1 (k - 1)).map p.delayAfter := by
    rw [RetryRun.delays, hactions, filterMap_delay?]
  refine ⟨k, fun i => conflictText (outcome i), hlast ▸ hk, ?_, hresult, ?_, hactions, ?_, ?_,
    hdelays, ?_, ?_, ?_⟩
  · intro i hi hlt
    by_contra hother
    have hfinal : ¬ IsConflict (outcome i) := fun h => hother h.eq_text
    exact absurd (hk.2 ⟨hi, Or.inr hfinal⟩) (Nat.not_le.mpr hlt)
  · exact p.calls_run outcome hk.1.1 hactions
  · rw [hrepetitions, List.map_map]
    apply List.map_congr_left
    intro i _
    change Event.retrying i p.attempts.toNat _ _ = _
    rw [p.toNat_attempts]
    rfl
  · rw [hrepetitions, List.map_map]
    apply List.eq_replicate_iff.mpr
    refine ⟨by rw [List.length_map, List.length_range'], ?_⟩
    intro head hhead
    obtain ⟨i, -, rfl⟩ := List.mem_map.mp hhead
    rfl
  · rw [hdelays]
    have hsum := p.sum_nanos_delays_le (List.range' 1 (k - 1))
    rwa [List.length_range'] at hsum
  · rwa [p.toNat_attempts] at hle
  · have hbound := p.attempts.toNat_lt
    rwa [p.toNat_attempts] at hbound

end RetryPolicy

end PreparedSql
