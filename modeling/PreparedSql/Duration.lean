/-!
# Durations

A span of time is a count of whole seconds and the nanoseconds short of another one, each a machine
word. A product whose seconds do not fit their word is the longest duration there is. In nanoseconds
the operations are those on natural numbers, up to that limit.
-/
namespace PreparedSql

/-- The nanoseconds of the longest duration, just under `2 ^ 64` seconds. -/
def greatestNanos : Nat := 18446744073709551615999999999

structure Duration where
  seconds : UInt64
  /-- The nanoseconds after the last whole second. -/
  fraction : UInt32
  fraction_lt : fraction < 1000000000
  deriving DecidableEq, Repr

namespace Duration

theorem rest_lt (nanos : UInt64) : (nanos % 1000000000).toUInt32 < 1000000000 := by
  have hrest : (nanos % 1000000000).toNat = nanos.toNat % 1000000000 := UInt64.toNat_mod _ _
  have hbound : (1000000000 : UInt32).toNat = 1000000000 := rfl
  rw [UInt32.lt_iff_toNat_lt, UInt64.toNat_toUInt32, hrest, hbound]
  omega

def nanos (d : Duration) : Nat :=
  d.seconds.toNat * 1000000000 + d.fraction.toNat

def longest : Duration :=
  ⟨18446744073709551615, 999999999, by decide⟩

/-- The word of 64 bits for a number, if there is one. -/
def word? (n : Nat) : Option UInt64 :=
  if n < UInt64.size then some (UInt64.ofNat n) else none

/-- So many seconds and nanoseconds, if there is such a duration. Nanoseconds that make up whole
seconds carry into them. -/
def ofParts? (seconds nanos : UInt64) : Option Duration := do
  let carried ← word? (seconds.toNat + (nanos / 1000000000).toNat)
  return ⟨carried, (nanos % 1000000000).toUInt32, rest_lt nanos⟩

/-- The product, if there is one. -/
def times? (d : Duration) (factor : UInt32) : Option Duration := do
  let seconds ← word? (d.seconds.toNat * factor.toNat)
  ofParts? seconds (d.fraction.toUInt64 * factor.toUInt64)

/-- The duration of so many nanoseconds, or the longest one. -/
def ofNanos (n : Nat) : Duration :=
  ((word? (n / 1000000000)).bind fun seconds =>
    ofParts? seconds (UInt64.ofNat (n % 1000000000))).getD longest

/-- The product, or the longest duration. -/
def times (d : Duration) (factor : UInt32) : Duration :=
  (d.times? factor).getD longest

/-- Durations are in the order of their seconds, then of the nanoseconds after them. -/
instance : LE Duration where
  le d e := d.seconds < e.seconds ∨ d.seconds = e.seconds ∧ d.fraction ≤ e.fraction

instance (d e : Duration) : Decidable (d ≤ e) :=
  inferInstanceAs (Decidable (_ ∨ _))

def atMost (d limit : Duration) : Duration :=
  if d ≤ limit then d else limit

/-- Whole milliseconds, in a word of 64 bits. -/
def millis (d : Duration) : Nat :=
  d.nanos / 1000000 % Nat.pow 2 64

theorem fraction_toNat_lt (d : Duration) : d.fraction.toNat < 1000000000 :=
  UInt32.lt_iff_toNat_lt.mp d.fraction_lt

theorem nanos_le (d : Duration) : d.nanos ≤ greatestNanos := by
  have hseconds := d.seconds.toNat_lt
  have hfraction := d.fraction_toNat_lt
  simp only [nanos, greatestNanos]
  omega

theorem nanos_longest : longest.nanos = greatestNanos := by
  decide

theorem word?_of_lt {n : Nat} (h : n < UInt64.size) : word? n = some (UInt64.ofNat n) := by
  rw [word?, if_pos h]

theorem word?_of_le {n : Nat} (h : UInt64.size ≤ n) : word? n = none := by
  rw [word?, if_neg (by omega)]

theorem nanos_ofParts? (seconds nanos : UInt64) :
    ((ofParts? seconds nanos).getD longest).nanos =
      min (seconds.toNat * 1000000000 + nanos.toNat) greatestNanos := by
  have hquotient : (nanos / 1000000000).toNat = nanos.toNat / 1000000000 := UInt64.toNat_div _ _
  have hrest : (nanos % 1000000000).toNat = nanos.toNat % 1000000000 := UInt64.toNat_mod _ _
  rw [ofParts?, hquotient]
  rcases Nat.lt_or_ge (seconds.toNat + nanos.toNat / 1000000000) UInt64.size with hfits | hlong
  · rw [word?_of_lt hfits, Nat.min_eq_left]
    · change (UInt64.ofNat _).toNat * 1000000000 + (nanos % 1000000000).toUInt32.toNat = _
      rw [UInt64.toNat_ofNat_of_lt' hfits, UInt64.toNat_toUInt32, hrest]
      omega
    · simp only [greatestNanos, UInt64.size] at *
      omega
  · rw [word?_of_le hlong, Nat.min_eq_right]
    · exact nanos_longest
    · simp only [greatestNanos, UInt64.size] at *
      omega

/-- A count of seconds that does not fit a word is too long, whatever nanoseconds come on top. -/
theorem nanos_bind_ofParts? (seconds : Nat) (nanos : UInt64) :
    (((word? seconds).bind fun seconds => ofParts? seconds nanos).getD longest).nanos =
      min (seconds * 1000000000 + nanos.toNat) greatestNanos := by
  rcases Nat.lt_or_ge seconds UInt64.size with hfits | hlong
  · rw [word?_of_lt hfits, Option.bind_some, nanos_ofParts?, UInt64.toNat_ofNat_of_lt' hfits]
  · rw [word?_of_le hlong, Nat.min_eq_right]
    · exact nanos_longest
    · simp only [greatestNanos, UInt64.size] at *
      omega

theorem nanos_ofNanos (n : Nat) : (ofNanos n).nanos = min n greatestNanos := by
  have hrest : n % 1000000000 < UInt64.size := by
    simp only [UInt64.size]
    omega
  rw [ofNanos, nanos_bind_ofParts?, UInt64.toNat_ofNat_of_lt' hrest]
  omega

/-- The nanoseconds after the last whole second are few enough to be multiplied in one word. -/
theorem toNat_fraction_mul (d : Duration) (factor : UInt32) :
    (d.fraction.toUInt64 * factor.toUInt64).toNat = d.fraction.toNat * factor.toNat := by
  have hfraction := d.fraction_toNat_lt
  have hfactor := factor.toNat_lt
  have hfits : d.fraction.toNat * factor.toNat < 2 ^ 64 :=
    calc d.fraction.toNat * factor.toNat
      _ ≤ 1000000000 * 2 ^ 32 := Nat.mul_le_mul (by omega) (by omega)
      _ < 2 ^ 64 := by decide
  rw [UInt64.toNat_mul, UInt32.toNat_toUInt64, UInt32.toNat_toUInt64, Nat.mod_eq_of_lt hfits]

theorem nanos_times (d : Duration) (factor : UInt32) :
    (d.times factor).nanos = min (d.nanos * factor.toNat) greatestNanos := by
  have hproduct : d.nanos * factor.toNat =
      d.seconds.toNat * factor.toNat * 1000000000 + d.fraction.toNat * factor.toNat := by
    rw [nanos, Nat.add_mul, Nat.mul_right_comm]
  rw [times, times?, Option.bind_eq_bind, nanos_bind_ofParts?, toNat_fraction_mul, hproduct]

theorem le_iff_nanos_le {d e : Duration} : d ≤ e ↔ d.nanos ≤ e.nanos := by
  change (d.seconds < e.seconds ∨ d.seconds = e.seconds ∧ d.fraction ≤ e.fraction) ↔ _
  have hd := d.fraction_toNat_lt
  have he := e.fraction_toNat_lt
  rw [UInt64.lt_iff_toNat_lt, ← UInt64.toNat_inj, UInt32.le_iff_toNat_le, nanos, nanos]
  omega

theorem nanos_atMost (d limit : Duration) : (d.atMost limit).nanos = min d.nanos limit.nanos := by
  unfold atMost
  split
  · next hle => rw [Nat.min_eq_left (le_iff_nanos_le.mp hle)]
  · next hnot =>
    have hlt := mt le_iff_nanos_le.mpr hnot
    rw [Nat.min_eq_right (by omega)]

end Duration

end PreparedSql
