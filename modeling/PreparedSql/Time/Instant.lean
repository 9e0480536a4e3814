import PreparedSql.Time.Date

/-!
# Instants

A point in time is a whole second since 1970-01-01T00:00:00Z and the nanoseconds after it. Seconds
are counted without leap seconds; an instant in one belongs to the second before it and has a
further `10 ^ 9` nanoseconds. Any second may be followed by a leap second in this way, though a text
has a form of its own only for one that ends a minute. The range is that of the dates from the year
-262143 to the year 262142.
-/
namespace PreparedSql.Time

def secondsPerDay : Int := 86400

structure TimeOfDay where
  hour : Nat
  minute : Nat
  /-- Up to 60, which is a leap second. -/
  second : Nat
  deriving DecidableEq, Repr

namespace TimeOfDay

/-- One in a leap second, else zero. -/
def leap (t : TimeOfDay) : Nat :=
  t.second / 60

/-- The second of the day, a leap second being counted as the one before it. -/
def secondOfDay (t : TimeOfDay) : Nat :=
  3600 * t.hour + 60 * t.minute + (t.second - t.leap)

def ofSecondOfDay (n leap : Nat) : TimeOfDay :=
  ⟨n / 3600, n / 60 % 60, n % 60 + leap⟩

def text (t : TimeOfDay) : List Char :=
  Decimal.padded 2 t.hour ++ ':' :: Decimal.padded 2 t.minute ++ ':' :: Decimal.padded 2 t.second

end TimeOfDay

/-- The first second of -262143-01-01. -/
def leastSecond : Int := -8334601228800

/-- The last second of 262142-12-31. -/
def greatestSecond : Int := 8210266876799

theorem leastSecond_eq : leastSecond = secondsPerDay * (Date.mk (-262143) 1 1).dayNumber := by
  decide

theorem greatestSecond_eq :
    greatestSecond = secondsPerDay * (Date.mk 262142 12 31).dayNumber + 86399 := by
  decide

structure Instant where
  seconds : Int
  nanos : Nat
  nanos_lt : nanos < 2 * 1000000000
  least_le : leastSecond ≤ seconds
  le_greatest : seconds ≤ greatestSecond
  deriving DecidableEq, Repr

namespace Instant

def of? (seconds : Int) (nanos : Nat) : Option Instant :=
  if h : nanos < 2 * 1000000000 ∧ leastSecond ≤ seconds ∧ seconds ≤ greatestSecond then
    some ⟨seconds, nanos, h.1, h.2.1, h.2.2⟩
  else none

def ofParts? (date : Date) (time : TimeOfDay) (nanos : Nat) : Option Instant :=
  of? (secondsPerDay * date.dayNumber + time.secondOfDay) (1000000000 * time.leap + nanos)

/-- The instant `seconds` earlier, if it lies in the range. -/
def before? (t : Instant) (seconds : Int) : Option Instant :=
  of? (t.seconds - seconds) t.nanos

def date (t : Instant) : Date :=
  Date.ofDayNumber (t.seconds / secondsPerDay)

/-- One in a leap second, else zero. -/
def leap (t : Instant) : Nat :=
  t.nanos / 1000000000

def timeOfDay (t : Instant) : TimeOfDay :=
  TimeOfDay.ofSecondOfDay (t.seconds % secondsPerDay).toNat t.leap

def fraction (t : Instant) : Nat :=
  t.nanos % 1000000000

/-- No fraction at a whole second, else three, six or nine places, the fewest that are exact. -/
def fractionText (nanos : Nat) : List Char :=
  if nanos = 0 then []
  else if nanos % 1000000 = 0 then '.' :: Decimal.padded 3 (nanos / 1000000)
  else if nanos % 1000 = 0 then '.' :: Decimal.padded 6 (nanos / 1000)
  else '.' :: Decimal.padded 9 nanos

/-- Date and time with a blank between them and the zone's name behind them. -/
def text (t : Instant) : String :=
  String.ofList (t.date.text ++ ' ' :: t.timeOfDay.text ++ fractionText t.fraction) ++ " UTC"

@[ext] theorem ext {s t : Instant} (hs : s.seconds = t.seconds) (hn : s.nanos = t.nanos) :
    s = t := by
  cases s; cases t; simp_all

theorem of?_self (t : Instant) : of? t.seconds t.nanos = some t := by
  rw [of?, dif_pos ⟨t.nanos_lt, t.least_le, t.le_greatest⟩]

end Instant

end PreparedSql.Time
