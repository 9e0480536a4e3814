import PreparedSql.Time.Instant

/-!
# Order and distance of instants

Instants are in the order of their seconds and then of the nanoseconds after them, a leap second
coming between the second it belongs to and the next one. The distance from 2000-01-01 has no place
for a leap second: one is counted on into the next second, so that an instant in it is as far away
as the instant with the same fraction of that second. Apart from that, order and equality are those
of the distances (`Instant.sinceMillennium_le_of_le`, `Instant.sinceMillennium_eq_iff`). A leap
second within a minute can be exchanged for the second after it without a change of the distance
(`Instant.settled`).
-/
namespace PreparedSql.Time.Instant

instance : LE Instant where
  le s t := s.seconds < t.seconds ∨ s.seconds = t.seconds ∧ s.nanos ≤ t.nanos

instance (s t : Instant) : Decidable (s ≤ t) :=
  inferInstanceAs (Decidable (_ ∨ _))

/-- 2000-01-01T00:00:00Z. -/
def millennium : Instant :=
  ⟨946684800, 0, by decide, by decide, by decide⟩

theorem date_millennium : millennium.date = ⟨2000, 1, 1⟩ ∧ millennium.timeOfDay = ⟨0, 0, 0⟩ := by
  decide

/-- The nanoseconds from 2000-01-01T00:00:00Z, less than zero before it. -/
def sinceMillennium (t : Instant) : Int :=
  (t.seconds - millennium.seconds) * 1000000000 + (t.nanos - millennium.nanos)

/-- This instant lies in a leap second, and the other one has the same fraction of the next
second. -/
def Overlaps (t u : Instant) : Prop :=
  u.seconds = t.seconds + 1 ∧ t.nanos = u.nanos + 1000000000

/-- 2016-12-31T23:59:60Z. -/
def leapSecond : Instant :=
  ⟨1483228799, 1000000000, by decide, by decide, by decide⟩

def middleOfLeapSecond : Instant :=
  ⟨1483228799, 1500000000, by decide, by decide, by decide⟩

def newYear : Instant :=
  ⟨1483228800, 0, by decide, by decide, by decide⟩

variable {t u : Instant}

/-- A later instant is further on, unless it is in the second after the leap second that the earlier
one lies in. -/
theorem sinceMillennium_le_of_le (hle : t ≤ u)
    (hapart : t.nanos < 1000000000 ∨ u.seconds ≠ t.seconds + 1) :
    t.sinceMillennium ≤ u.sinceMillennium := by
  have hbound := t.nanos_lt
  simp only [sinceMillennium]
  rcases hle with hless | ⟨hsame, hnanos⟩
  · omega
  · omega

theorem sinceMillennium_eq_iff :
    t.sinceMillennium = u.sinceMillennium ↔ t = u ∨ t.Overlaps u ∨ u.Overlaps t := by
  have ht := t.nanos_lt
  have hu := u.nanos_lt
  rw [Instant.ext_iff]
  simp only [sinceMillennium, Overlaps]
  omega

def LeapEndsMinute (t : Instant) : Prop :=
  1000000000 ≤ t.nanos → t.seconds % 60 = 59

instance (t : Instant) : Decidable t.LeapEndsMinute :=
  inferInstanceAs (Decidable (_ → _))

/-- A leap second within a minute becomes the second after it. The last second of the range ends a
minute, so that this does not leave the range. -/
def settled (t : Instant) : Instant :=
  if h : t.LeapEndsMinute then t
  else
    have hgreatest : t.seconds + 1 ≤ greatestSecond := by
      have hle := t.le_greatest
      simp only [LeapEndsMinute, greatestSecond] at h hle ⊢
      omega
    ⟨t.seconds + 1, t.nanos - 1000000000, by have := t.nanos_lt; omega,
      Int.le_add_one t.least_le, hgreatest⟩

theorem settled_eq_self (h : t.LeapEndsMinute) : t.settled = t :=
  dif_pos h

theorem overlaps_settled (h : ¬ t.LeapEndsMinute) : t.Overlaps t.settled := by
  rw [settled, dif_neg h]
  refine ⟨rfl, ?_⟩
  change t.nanos = t.nanos - 1000000000 + 1000000000
  simp only [LeapEndsMinute] at h
  omega

theorem leapEndsMinute_settled (t : Instant) : t.settled.LeapEndsMinute := by
  by_cases h : t.LeapEndsMinute
  · rw [settled_eq_self h]
    exact h
  · obtain ⟨-, hnanos⟩ := overlaps_settled h
    have hlt := t.nanos_lt
    intro hleap
    omega

theorem settled_eq_self_iff : t.settled = t ↔ t.LeapEndsMinute := by
  constructor
  · intro hsame
    rw [← hsame]
    exact leapEndsMinute_settled t
  · exact settled_eq_self

end PreparedSql.Time.Instant
