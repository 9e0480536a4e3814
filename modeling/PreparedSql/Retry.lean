import PreparedSql.Duration
import PreparedSql.Error
import PreparedSql.Event

/-!
# Retrying

Work that lost against a concurrent transaction is tried again after a delay, which doubles with
every attempt up to a limit. Any other outcome is final.
-/
namespace PreparedSql

structure RetryPolicy where
  /-- Attempts in all; none counts as one. -/
  maxAttempts : UInt32
  /-- The delay before the second attempt. -/
  baseDelay : Duration
  maxDelay : Duration
  deriving Repr

namespace RetryPolicy

def standard : RetryPolicy where
  maxAttempts := 5
  baseDelay := .ofNanos 10000000
  maxDelay := .ofNanos 1000000000

/-- Two to the power `n`, or the greatest word. -/
def doublings (n : Nat) : UInt32 :=
  if n < 32 then UInt32.ofNat (Nat.pow 2 n) else 4294967295

def delayAfter (p : RetryPolicy) (attempt : Nat) : Duration :=
  (p.baseDelay.times (doublings (attempt - 1))).atMost p.maxDelay

/-- Attempts in all; none counts as one. -/
def attempts (p : RetryPolicy) : UInt32 :=
  max 1 p.maxAttempts

end RetryPolicy

/-- A repetition: the attempt that failed, the delay after it, and what it failed with. -/
structure Repetition where
  attempt : Nat
  delay : Duration
  error : String
  deriving DecidableEq, Repr

/-- What is done one after another while work is retried. -/
inductive RetryAction
  /-- The work is done; the counter of attempts shows the number. -/
  | attempt (number : Nat)
  | report (r : Repetition)
  | sleep (delay : Duration)
  deriving DecidableEq, Repr

namespace RetryAction

def isAttempt : RetryAction → Bool
  | attempt _ => true
  | _ => false

def repetition? : RetryAction → Option Repetition
  | report r => some r
  | _ => none

def delay? : RetryAction → Option Duration
  | sleep delay => some delay
  | _ => none

end RetryAction

structure RetryRun (α : Type) where
  result : Except Error α
  actions : List RetryAction

namespace RetryRun

variable {α : Type}

/-- How often the work was done. -/
def calls (run : RetryRun α) : Nat :=
  run.actions.countP RetryAction.isAttempt

def repetitions (run : RetryRun α) : List Repetition :=
  run.actions.filterMap RetryAction.repetition?

/-- The delays that were slept through. -/
def delays (run : RetryRun α) : List Duration :=
  run.actions.filterMap RetryAction.delay?

/-- A run that goes on after an attempt that has to be repeated. -/
def repeated (r : Repetition) (later : RetryRun α) : RetryRun α :=
  { later with actions := .attempt r.attempt :: .report r :: .sleep r.delay :: later.actions }

/-- A run whose next attempt is its last. -/
def final (result : Except Error α) (attempt : Nat) : RetryRun α :=
  ⟨result, [.attempt attempt]⟩

end RetryRun

/-- The counter cannot overflow below another one. -/
theorem toNat_succ_of_lt {counter most : UInt32} (h : counter < most) :
    (counter + 1).toNat = counter.toNat + 1 := by
  have hbound := most.toNat_lt
  have hlt := UInt32.lt_iff_toNat_lt.mp h
  rw [UInt32.toNat_add, UInt32.toNat_one, Nat.mod_eq_of_lt (by omega)]

namespace RetryPolicy

variable {α : Type}

/-- Goes on after `made` attempts with the one that the counter shows. -/
def runFrom (p : RetryPolicy) (outcome : Nat → Except Error α) (made : Nat) (counter : UInt32) :
    RetryRun α :=
  match outcome (made + 1) with
  | .error (.serialization text) =>
    if h : counter < p.attempts then
      .repeated ⟨counter.toNat, p.delayAfter counter.toNat, text⟩
        (p.runFrom outcome (made + 1) (counter + 1))
    else .final (.error (.serialization text)) counter.toNat
  | result => .final result counter.toNat
termination_by p.attempts.toNat - counter.toNat
decreasing_by
  have hlt := UInt32.lt_iff_toNat_lt.mp h
  rw [toNat_succ_of_lt h]
  omega

/-- Runs work whose attempts, counted from one, have the given outcomes. -/
def run (p : RetryPolicy) (outcome : Nat → Except Error α) : RetryRun α :=
  p.runFrom outcome 0 1

def event (p : RetryPolicy) (r : Repetition) : Event :=
  .retrying r.attempt p.attempts.toNat r.delay.millis r.error

end RetryPolicy

end PreparedSql
