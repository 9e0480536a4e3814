import PreparedSql.Decimal.Integer

/-!
# Calendar dates

Dates of the Gregorian calendar, continued without limit in both directions, and the count of days
since 1970-01-01. Counting is easiest from 1 March: four hundred years then consist of centuries of
36524 days, four-year cycles of 1461 days and years of 365 days, each leap day being the last.
-/
namespace PreparedSql.Time

structure Date where
  year : Int
  month : Nat
  day : Nat
  deriving DecidableEq, Repr

namespace Date

/-- Days from 0000-03-01 to 1970-01-01. -/
def epochOffset : Int := 719468

/-- Days from 0000-03-01 to the first of March of `year`. -/
def daysBefore (year : Int) : Int :=
  year / 400 * 146097 + year % 400 / 100 * 36524 + year % 100 / 4 * 1461 + year % 4 * 365

/-- The year from March in which a day falls, counted from 0000-03-01. -/
def yearOf (n : Int) : Int :=
  let century := min 3 (n % 146097 / 36524)
  let dayOfCentury := n % 146097 - 36524 * century
  n / 146097 * 400 + 100 * century + 4 * (dayOfCentury / 1461) +
    min 3 (dayOfCentury % 1461 / 365)

def dayNumber (d : Date) : Int :=
  let year := if d.month ≤ 2 then d.year - 1 else d.year
  let monthFromMarch : Int := (d.month + 9) % 12
  daysBefore year + (153 * monthFromMarch + 2) / 5 + d.day - 1 - epochOffset

def ofDayNumber (n : Int) : Date :=
  let fromMarch := n + epochOffset
  let year := yearOf fromMarch
  let dayOfYear := fromMarch - daysBefore year
  let monthFromMarch := (5 * dayOfYear + 2) / 153
  let day := (dayOfYear - (153 * monthFromMarch + 2) / 5 + 1).toNat
  if monthFromMarch < 10 then ⟨year, (monthFromMarch + 3).toNat, day⟩
  else ⟨year + 1, (monthFromMarch - 9).toNat, day⟩

/-- A date exists if its day is counted as that date. -/
def exists? (d : Date) : Bool :=
  ofDayNumber d.dayNumber == d

/-- At least four digits, with a sign outside the years 0 to 9999. -/
def yearText (year : Int) : List Char :=
  if 0 ≤ year ∧ year ≤ 9999 then Decimal.padded 4 year.natAbs
  else (if year < 0 then '-' else '+') :: Decimal.padded 4 year.natAbs

def text (d : Date) : List Char :=
  yearText d.year ++ '-' :: Decimal.padded 2 d.month ++ '-' :: Decimal.padded 2 d.day

theorem daysBefore_of_parts {era century cycle year : Int} (hc : 0 ≤ century ∧ century ≤ 3)
    (hq : 0 ≤ cycle ∧ cycle ≤ 24) (hy : 0 ≤ year ∧ year ≤ 3) :
    daysBefore (era * 400 + 100 * century + 4 * cycle + year) =
      era * 146097 + 36524 * century + 1461 * cycle + 365 * year := by
  have h400 : (era * 400 + 100 * century + 4 * cycle + year) / 400 = era := by omega
  have h100 : (era * 400 + 100 * century + 4 * cycle + year) % 400 / 100 = century := by omega
  have h4 : (era * 400 + 100 * century + 4 * cycle + year) % 100 / 4 = cycle := by omega
  have h1 : (era * 400 + 100 * century + 4 * cycle + year) % 4 = year := by omega
  rw [daysBefore, h400, h100, h4, h1]
  omega

theorem daysBefore_yearOf (n : Int) :
    daysBefore (yearOf n) ≤ n ∧ n < daysBefore (yearOf n) + 366 := by
  simp only [yearOf]
  rw [daysBefore_of_parts] <;> omega

theorem dayNumber_ofDayNumber (n : Int) : (ofDayNumber n).dayNumber = n := by
  have h := daysBefore_yearOf (n + epochOffset)
  simp only [ofDayNumber]
  generalize yearOf (n + epochOffset) = year at h ⊢
  generalize hd : n + epochOffset - daysBefore year = dayOfYear
  generalize hm : (5 * dayOfYear + 2) / 153 = month
  split
  · have back : (((month + 3).toNat : Int) + 9) % 12 = month := by omega
    simp only [dayNumber, back]
    rw [if_neg (by omega)]
    omega
  · have back : (((month - 9).toNat : Int) + 9) % 12 = month := by omega
    simp only [dayNumber, back]
    rw [if_pos (by omega), Int.add_sub_cancel]
    omega

theorem exists?_ofDayNumber (n : Int) : (ofDayNumber n).exists? = true := by
  simp [exists?, dayNumber_ofDayNumber]

end Date

end PreparedSql.Time
