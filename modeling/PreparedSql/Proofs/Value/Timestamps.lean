import PreparedSql.Proofs.Text.TwosComplement
import PreparedSql.Proofs.Time.Order
import PreparedSql.Proofs.Value.Buffer

/-!
# Timestamps

An instant is sent as the count of microseconds from 2000-01-01, cut off towards that date. Every
count fits its eight bytes (`Encoding.fits_microseconds`), and what is known of distances carries
over to the counts (`Value.timestamp_counts_microseconds`). The order of instants does so except
across the end of a leap second (`Value.leap_second_is_counted_on`).
-/
namespace PreparedSql

open Text Time

namespace Encoding

/-- A quotient that is cut off towards zero has the sign of the dividend. -/
theorem tdiv_cases (n : Int) {d : Int} :
    0 ≤ n ∧ n.tdiv d = n / d ∨ n < 0 ∧ n.tdiv d = -(-n / d) := by
  rcases Int.lt_or_le n 0 with hneg | hnonneg
  · right
    refine ⟨hneg, ?_⟩
    rw [← Int.tdiv_eq_ediv_of_nonneg (by omega), Int.neg_tdiv, Int.neg_neg]
  · exact Or.inl ⟨hnonneg, Int.tdiv_eq_ediv_of_nonneg hnonneg⟩

theorem microseconds_eq (t : Instant) :
    microseconds t = t.sinceMillennium.tdiv 1000 := by
  have hdistance : (t.seconds - epochShift) * 1000000000 + t.nanos = t.sinceMillennium := by
    simp only [Instant.sinceMillennium, Instant.millennium, epochShift]
    omega
  rw [microseconds, hdistance]

theorem microseconds_cases (t : Instant) :
    0 ≤ t.sinceMillennium ∧ microseconds t = t.sinceMillennium / 1000 ∨
      t.sinceMillennium < 0 ∧ microseconds t = -(-t.sinceMillennium / 1000) := by
  rw [microseconds_eq]
  exact tdiv_cases t.sinceMillennium

theorem sinceMillennium_bounds (t : Instant) :
    -8335547913600000000000 ≤ t.sinceMillennium ∧
      t.sinceMillennium < 8209320192001000000000 := by
  have hleast := t.least_le
  have hgreatest := t.le_greatest
  have hnanos := t.nanos_lt
  simp only [leastSecond, greatestSecond] at hleast hgreatest
  simp only [Instant.sinceMillennium, Instant.millennium]
  omega

/-- Neither the seconds alone, counted in microseconds, nor all of the count leaves the range. -/
theorem fits_microseconds (t : Instant) :
    Fits 8 (t.sinceMillennium.tdiv 1000000000 * 1000000) ∧ Fits 8 (microseconds t) := by
  obtain ⟨hleast, hgreatest⟩ := sinceMillennium_bounds t
  rw [microseconds_eq]
  generalize t.sinceMillennium = distance at hleast hgreatest
  have hwhole := tdiv_cases distance (d := 1000000000)
  have hcount := tdiv_cases distance (d := 1000)
  simp only [Fits]
  omega

/-- The seconds and the rest of a distance are counted apart, with the same result. -/
theorem microseconds_eq_parts (t : Instant) :
    microseconds t = t.sinceMillennium.tdiv 1000000000 * 1000000 +
      (t.sinceMillennium.tmod 1000000000).tdiv 1000 := by
  rw [microseconds_eq, Int.tmod_def]
  generalize t.sinceMillennium = distance
  have hwhole := tdiv_cases distance (d := 1000000000)
  generalize distance.tdiv 1000000000 = whole at hwhole ⊢
  have hrest := tdiv_cases (distance - 1000000000 * whole) (d := 1000)
  have hcount := tdiv_cases distance (d := 1000)
  omega

theorem microseconds_error (t : Instant) :
    (t.sinceMillennium - 1000 * microseconds t).natAbs < 1000 := by
  have hcount := microseconds_cases t
  omega

theorem microseconds_side (t : Instant) :
    (0 ≤ t.sinceMillennium → 0 ≤ microseconds t) ∧
      (t.sinceMillennium ≤ 0 → microseconds t ≤ 0) := by
  have hcount := microseconds_cases t
  omega

variable {t u : Instant}

theorem microseconds_le (h : t.sinceMillennium ≤ u.sinceMillennium) :
    microseconds t ≤ microseconds u := by
  rw [microseconds_eq, microseconds_eq]
  exact Int.tdiv_le_tdiv (by decide) h

/-- Nothing is cut off from whole microseconds. -/
theorem thousand_mul_microseconds (h : t.nanos % 1000 = 0) :
    1000 * microseconds t = t.sinceMillennium := by
  have hcount := microseconds_cases t
  have hwhole : t.sinceMillennium % 1000 = 0 := by
    simp only [Instant.sinceMillennium, Instant.millennium]
    omega
  omega

theorem microseconds_eq_iff (ht : t.nanos % 1000 = 0) (hu : u.nanos % 1000 = 0) :
    microseconds t = microseconds u ↔ t = u ∨ t.Overlaps u ∨ u.Overlaps t := by
  rw [← Instant.sinceMillennium_eq_iff, ← thousand_mul_microseconds ht,
    ← thousand_mul_microseconds hu]
  omega

end Encoding

namespace Value

open Encoder Encoding

section Encode

variable {type : ParamType} (h : type ∈ [ParamType.timestamp, .timestamptz])
include h

theorem encode_timestamp (t : Instant) :
    (timestamp t).encode type = .ok (some (twosComplement 8 (microseconds t))) := by
  simp only [List.mem_cons, List.not_mem_nil, or_false] at h
  rcases h with rfl | rfl
  · exact encode_of_appends (appends_put _)
  · exact encode_of_appends (appends_put _)

theorem encode_timestamp_eq_iff (t u : Instant) :
    (timestamp t).encode type = (timestamp u).encode type ↔ microseconds t = microseconds u := by
  have hread (t : Instant) : intOfTwosComplement (twosComplement 8 (microseconds t)) =
      microseconds t :=
    intOfTwosComplement_twosComplement (by decide) (fits_microseconds t).2
  rw [encode_timestamp h, encode_timestamp h]
  constructor
  · intro hsame
    rw [← hread t, ← hread u, Option.some.inj (Except.ok.inj hsame)]
  · intro hsame
    rw [hsame]

end Encode

/-- Every instant is bound to both types of timestamps, as the same eight bytes: the microseconds
from 2000-01-01, cut off towards that date, none of whose parts overflows. The count differs from
the exact distance by less than one, is not on the other side of that date, and does not decrease
with the distance. A later instant does not have a lower count, unless it is in the second after the
leap second that the earlier one lies in. Two whole counts of microseconds are sent alike if and
only if the instants are the same, or one is in a leap second and the other has the same fraction of
the next second. -/
theorem timestamp_counts_microseconds (t u : Instant) :
    let distance := t.sinceMillennium
    let count := microseconds t
    (∃ bytes, (timestamp t).encode .timestamp = .ok (some bytes) ∧
        (timestamp t).encode .timestamptz = .ok (some bytes) ∧
        bytes.length = 8 ∧ intOfTwosComplement bytes = count) ∧
      count = distance.tdiv 1000 ∧
      (count = distance.tdiv 1000000000 * 1000000 + (distance.tmod 1000000000).tdiv 1000 ∧
        Fits 8 (distance.tdiv 1000000000 * 1000000) ∧ Fits 8 count) ∧
      (distance - 1000 * count).natAbs < 1000 ∧
      ((0 ≤ distance → 0 ≤ count) ∧ (distance ≤ 0 → count ≤ 0)) ∧
      (distance ≤ u.sinceMillennium → count ≤ microseconds u) ∧
      (t ≤ u → t.nanos < 1000000000 ∨ u.seconds ≠ t.seconds + 1 → count ≤ microseconds u) ∧
      (t.nanos % 1000 = 0 → u.nanos % 1000 = 0 →
        ∀ type ∈ [ParamType.timestamp, .timestamptz],
          ((timestamp t).encode type = (timestamp u).encode type ↔
            t = u ∨ t.Overlaps u ∨ u.Overlaps t)) := by
  intro distance count
  have hfits := fits_microseconds t
  refine ⟨⟨twosComplement 8 count, encode_timestamp (by decide) t, encode_timestamp (by decide) t,
      length_twosComplement 8 count, intOfTwosComplement_twosComplement (by decide) hfits.2⟩,
    microseconds_eq t, ⟨microseconds_eq_parts t, hfits⟩, microseconds_error t,
    microseconds_side t, microseconds_le, ?_, ?_⟩
  · intro hle hapart
    exact microseconds_le (Instant.sinceMillennium_le_of_le hle hapart)
  · intro ht hu type htype
    rw [encode_timestamp_eq_iff htype, microseconds_eq_iff ht hu]

/-- The middle of a leap second comes before the next second and has a greater count than that. The
leap second and the next one begin at different instants that are sent alike. -/
theorem leap_second_is_counted_on :
    Instant.middleOfLeapSecond ≤ .newYear ∧
      microseconds .newYear < microseconds .middleOfLeapSecond ∧
      (Instant.leapSecond.nanos % 1000 = 0 ∧ Instant.newYear.nanos % 1000 = 0) ∧
      Instant.leapSecond ≠ .newYear ∧
      (timestamp .leapSecond).encode .timestamptz = (timestamp .newYear).encode .timestamptz := by
  refine ⟨by decide, by decide, by decide, by decide, ?_⟩
  rw [encode_timestamp_eq_iff (by decide)]
  decide

end Value

end PreparedSql
