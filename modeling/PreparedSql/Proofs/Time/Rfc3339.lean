import PreparedSql.Proofs.Decimal.Digits
import PreparedSql.Proofs.Time.Order
import PreparedSql.Time.Rfc3339

/-!
# Timestamps read back

Each reader takes from the front of a text what the writer of its part put there, whatever follows,
as long as that cannot be taken for more of the same. From these steps an instant is read back from
its own text (`Rfc3339.instant_text`), if it does not lie in a leap second within a minute. The text
of such an instant is that of the second after it, and is read as that (`Rfc3339.parse?_text`).
-/
namespace PreparedSql.Time

open PreparedSql.Decimal PreparedSql.Text

theorem Date.ofDayNumber_bounds (n : Int) :
    1 ≤ (ofDayNumber n).month ∧ (ofDayNumber n).month ≤ 12 ∧
      1 ≤ (ofDayNumber n).day ∧ (ofDayNumber n).day ≤ 31 := by
  have h := daysBefore_yearOf (n + epochOffset)
  simp only [ofDayNumber]
  generalize yearOf (n + epochOffset) = year at h ⊢
  generalize hd : n + epochOffset - daysBefore year = dayOfYear
  have hlow : 0 ≤ dayOfYear := by omega
  have hhigh : dayOfYear < 366 := by omega
  split
  · dsimp only
    omega
  · dsimp only
    omega

theorem TimeOfDay.leap_ofSecondOfDay {n leap : Nat} (h : leap = 0 ∨ leap = 1 ∧ n % 60 = 59) :
    (ofSecondOfDay n leap).leap = leap := by
  simp only [ofSecondOfDay, TimeOfDay.leap]
  omega

theorem TimeOfDay.secondOfDay_ofSecondOfDay {n leap : Nat}
    (h : leap = 0 ∨ leap = 1 ∧ n % 60 = 59) : (ofSecondOfDay n leap).secondOfDay = n := by
  rw [secondOfDay, leap_ofSecondOfDay h]
  simp only [ofSecondOfDay]
  omega

namespace Instant

variable {t u : Instant}

theorem timeOfDay_bounds (t : Instant) :
    t.timeOfDay.hour ≤ 23 ∧ t.timeOfDay.minute ≤ 59 ∧ t.timeOfDay.second ≤ 60 := by
  have hleap : t.leap ≤ 1 := by
    have hlt := t.nanos_lt
    unfold leap
    omega
  simp only [timeOfDay, TimeOfDay.ofSecondOfDay, secondsPerDay]
  omega

theorem ofParts?_date_timeOfDay (h : t.LeapEndsMinute) :
    ofParts? t.date t.timeOfDay t.fraction = some t := by
  have hleap : t.leap = 0 ∨ t.leap = 1 ∧ (t.seconds % secondsPerDay).toNat % 60 = 59 := by
    have hlt := t.nanos_lt
    simp only [LeapEndsMinute] at h
    simp only [leap, secondsPerDay]
    omega
  have hseconds : secondsPerDay * t.date.dayNumber + t.timeOfDay.secondOfDay = t.seconds := by
    rw [date, timeOfDay, Date.dayNumber_ofDayNumber, TimeOfDay.secondOfDay_ofSecondOfDay hleap,
      secondsPerDay]
    omega
  have hnanos : 1000000000 * t.timeOfDay.leap + t.fraction = t.nanos := by
    rw [timeOfDay, TimeOfDay.leap_ofSecondOfDay hleap, leap, fraction]
    omega
  rw [ofParts?, hseconds, hnanos, of?_self]

/-- A leap second within a minute and the second after it are on the same day at the same time. -/
theorem parts_eq_of_overlaps (h : ¬ t.LeapEndsMinute) (hover : t.Overlaps u) :
    t.date = u.date ∧ t.timeOfDay = u.timeOfDay ∧ t.fraction = u.fraction := by
  obtain ⟨hseconds, hnanos⟩ := hover
  have hlt := t.nanos_lt
  simp only [LeapEndsMinute] at h
  have hday : u.seconds / secondsPerDay = t.seconds / secondsPerDay := by
    simp only [secondsPerDay]
    omega
  refine ⟨?_, ?_, ?_⟩
  · rw [date, date, hday]
  · simp only [timeOfDay, TimeOfDay.ofSecondOfDay, TimeOfDay.mk.injEq, leap, secondsPerDay]
    omega
  · simp only [fraction]
    omega

end Instant

theorem isSpace_of_isDigit {c : Char} (h : isDigit c = true) : isSpace c = false := by
  unfold isDigit digitValue? at h
  split at h
  · next hc =>
    have hlow : 48 ≤ c.toNat := hc.1
    have hhigh : c.toNat ≤ 57 := hc.2
    simp only [isSpace, Bool.or_eq_false_iff, Bool.and_eq_false_iff, decide_eq_false_iff_not,
      beq_eq_false_iff_ne]
    omega
  · cases h

/-- There is no white space in front of digits. -/
theorem exists_dropSpaces_padded (width n : Nat) (rest : List Char) :
    ∃ c cs, isDigit c = true ∧ padded width n ++ rest = c :: cs ∧
      dropSpaces (padded width n ++ rest) = c :: cs := by
  obtain ⟨c, cs, hcs⟩ := List.exists_cons_of_ne_nil (padded_ne_nil width n)
  have hc : isDigit c = true := by
    apply isDigit_of_mem_padded
    rw [hcs]
    exact List.mem_cons_self
  refine ⟨c, cs ++ rest, hc, by rw [hcs, List.cons_append], ?_⟩
  rw [hcs, List.cons_append, dropSpaces_cons_of_not (isSpace_of_isDigit hc)]

theorem dropSpaces_padded (width n : Nat) (rest : List Char) :
    dropSpaces (padded width n ++ rest) = padded width n ++ rest := by
  obtain ⟨c, cs, -, htext, hdropped⟩ := exists_dropSpaces_padded width n rest
  rw [hdropped, htext]

namespace Rfc3339

variable {width n most : Nat} {rest : List Char}

/-- A number ends where no digit follows, or where no further one may be taken. -/
theorem number_padded (hle : (padded width n).length ≤ most)
    (hrest : (padded width n).length = most ∨ Stops isDigit rest) :
    number most (padded width n ++ rest) = some (n, rest) := by
  have htaken : ((padded width n ++ rest).take most).takeWhile isDigit = padded width n := by
    rw [List.take_append, List.take_of_length_le hle]
    apply takeWhile_append_of_stops fun _ => isDigit_of_mem_padded
    rcases hrest with hfull | hstops
    · rw [hfull, Nat.sub_self, List.take_zero]
      nofun
    · exact hstops.take _
  rw [number, htaken]
  split
  · next hnil => exact absurd hnil (padded_ne_nil width n)
  · rw [natOfDigits?_padded, Option.map_some, List.drop_left]

theorem field_padded {least greatest : Nat} (hleast : least ≤ n) (hgreatest : n ≤ greatest)
    (hn : n < 100) (rest : List Char) :
    field least greatest (padded 2 n ++ rest) = some (n, rest) := by
  have hlength : (padded 2 n).length = 2 := length_padded (by decide) hn
  rw [field, dropSpaces_padded, number_padded (Nat.le_of_eq hlength) (.inl hlength),
    Option.filter_some, if_pos (by simp [hleast, hgreatest])]

theorem separator_cons {c : Char} (hc : isSpace c = false) (rest : List Char) :
    separator c (c :: rest) = some rest := by
  rw [separator, dropSpaces_cons_of_not hc]
  exact if_pos rfl

/-- Behind a sign there may be any number of digits. -/
theorem number_padded_all (hrest : Stops isDigit rest) :
    number (padded width n ++ rest).length (padded width n ++ rest) = some (n, rest) := by
  apply number_padded
  · rw [List.length_append]
    exact Nat.le_add_right _ _
  · exact .inr hrest

theorem year_minus (hrest : Stops isDigit rest) :
    year ('-' :: (padded width n ++ rest)) = some (-(n : Int), rest) := by
  rw [year, dropSpaces_cons_of_not (by decide)]
  change (number _ _).map _ = _
  rw [number_padded_all hrest]
  rfl

theorem year_plus (hrest : Stops isDigit rest) :
    year ('+' :: (padded width n ++ rest)) = some ((n : Int), rest) := by
  rw [year, dropSpaces_cons_of_not (by decide)]
  change (number _ _).map _ = _
  rw [number_padded_all hrest]
  rfl

theorem year_padded (hlength : (padded 4 n).length = 4) (rest : List Char) :
    year (padded 4 n ++ rest) = some ((n : Int), rest) := by
  obtain ⟨c, cs, hc, htext, hdropped⟩ := exists_dropSpaces_padded 4 n rest
  rw [year, hdropped]
  -- The year begins with a digit, which is neither sign.
  split
  · next hminus =>
    obtain ⟨rfl, -⟩ := List.cons.inj hminus
    exact absurd hc (by decide)
  · next hplus =>
    obtain ⟨rfl, -⟩ := List.cons.inj hplus
    exact absurd hc (by decide)
  · rw [← htext, number_padded (Nat.le_of_eq hlength) (.inl hlength)]
    rfl

theorem year_yearText (y : Int) (hrest : Stops isDigit rest) :
    year (Date.yearText y ++ rest) = some (y, rest) := by
  unfold Date.yearText
  by_cases hfour : 0 ≤ y ∧ y ≤ 9999
  · have hy : (y.natAbs : Int) = y := Int.natAbs_of_nonneg hfour.1
    rw [if_pos hfour, year_padded (length_padded (by decide) (by omega)), hy]
  · rw [if_neg hfour, List.cons_append]
    by_cases hnegative : y < 0
    · have hy : -(y.natAbs : Int) = y := by omega
      rw [if_pos hnegative, year_minus hrest, hy]
    · have hy : (y.natAbs : Int) = y := by omega
      rw [if_neg hnegative, year_plus hrest, hy]

theorem date_text {d : Date} (hexists : d.exists? = true)
    (hmonth : 1 ≤ d.month ∧ d.month ≤ 12) (hday : 1 ≤ d.day ∧ d.day ≤ 31) (rest : List Char) :
    date (d.text ++ rest) = some (d, rest) := by
  have hdash : isSpace '-' = false := by decide
  have hyear (rest : List Char) := year_yearText d.year (stops_cons (c := '-') (by decide) rest)
  have hnext := field_padded hmonth.1 hmonth.2 (by omega)
  have hlast := field_padded hday.1 hday.2 (by omega)
  simp [date, Date.text, hyear, separator_cons hdash, hnext, hlast, hexists]

theorem timeOfDay_text {t : TimeOfDay} (hhour : t.hour ≤ 23) (hminute : t.minute ≤ 59)
    (hsecond : t.second ≤ 60) (rest : List Char) :
    timeOfDay (t.text ++ rest) = some (t, rest) := by
  have hcolon : isSpace ':' = false := by decide
  have hfirst := field_padded (Nat.zero_le _) hhour (by omega)
  have hnext := field_padded (Nat.zero_le _) hminute (by omega)
  have hlast := field_padded (Nat.zero_le _) hsecond (by omega)
  simp [timeOfDay, TimeOfDay.text, hfirst, separator_cons hcolon, hnext, hlast]

theorem fraction_padded (hwidth : 0 < width) (hmost : width ≤ 9) (hn : n < 10 ^ width)
    (hrest : Stops isDigit rest) :
    fraction ('.' :: (padded width n ++ rest)) = some (n * 10 ^ (9 - width), rest) := by
  have hlength : (padded width n).length = width := length_padded hwidth hn
  have hdigits : (padded width n ++ rest).takeWhile isDigit = padded width n :=
    takeWhile_append_of_stops (fun _ => isDigit_of_mem_padded) hrest
  have hnumber : number 9 (padded width n ++ []) = some (n, []) :=
    number_padded (by omega) (.inr nofun)
  rw [List.append_nil] at hnumber
  simp [fraction, hdigits, hnumber, hlength]

/-- The places left out are zero. -/
theorem fraction_fractionText (hn : n < 1000000000) (rest : List Char) :
    fraction (Instant.fractionText n ++ 'Z' :: rest) = some (n, 'Z' :: rest) := by
  have hstops : Stops isDigit ('Z' :: rest) := stops_cons (by decide) rest
  unfold Instant.fractionText
  by_cases hwhole : n = 0
  · rw [if_pos hwhole, hwhole]
    rfl
  rw [if_neg hwhole]
  by_cases hthree : n % 1000000 = 0
  · have hback : n / 1000000 * 10 ^ (9 - 3) = n := by omega
    rw [if_pos hthree, List.cons_append, fraction_padded (by decide) (by decide) (by omega) hstops,
      hback]
  rw [if_neg hthree]
  by_cases hsix : n % 1000 = 0
  · have hback : n / 1000 * 10 ^ (9 - 6) = n := by omega
    rw [if_pos hsix, List.cons_append, fraction_padded (by decide) (by decide) (by omega) hstops,
      hback]
  · have hback : n * 10 ^ (9 - 9) = n := by omega
    rw [if_neg hsix, List.cons_append, fraction_padded (by decide) (by decide) hn hstops, hback]

theorem offset_utc (rest : List Char) : offset ('Z' :: rest) = some (0, rest) := by
  rw [offset, dropSpaces_cons_of_not (by decide)]
  rfl

/-- An instant is read from its own text, whatever follows. -/
theorem instant_text {t : Instant} (h : t.LeapEndsMinute) (rest : List Char) :
    instant (text t ++ rest) = some (t, rest) := by
  obtain ⟨hmonth, hmonth', hday, hday'⟩ := Date.ofDayNumber_bounds (t.seconds / secondsPerDay)
  obtain ⟨hhour, hminute, hsecond⟩ := t.timeOfDay_bounds
  have hexists : t.date.exists? = true := Date.exists?_ofDayNumber _
  have hdate := date_text hexists ⟨hmonth, hmonth'⟩ ⟨hday, hday'⟩
  have htime := timeOfDay_text hhour hminute hsecond
  have hfraction : t.fraction < 1000000000 := Nat.mod_lt _ (by decide)
  have hthere : t.before? 0 = some t := by
    rw [Instant.before?, Int.sub_zero, t.of?_self]
  simp [instant, text, hdate, divider, htime, fraction_fractionText hfraction, offset_utc,
    Instant.ofParts?_date_timeOfDay h, hthere]

theorem text_settled (t : Instant) : text t.settled = text t := by
  by_cases h : t.LeapEndsMinute
  · rw [Instant.settled_eq_self h]
  · obtain ⟨hdate, htime, hfraction⟩ := Instant.parts_eq_of_overlaps h (Instant.overlaps_settled h)
    rw [text, text, hdate, htime, hfraction]

theorem parse?_text (t : Instant) : parse? (text t) = some t.settled := by
  have h := instant_text t.leapEndsMinute_settled []
  rw [List.append_nil, text_settled] at h
  rw [parse?, h]
  rfl

end Rfc3339

end PreparedSql.Time
