import PreparedSql.Text.Blank
import PreparedSql.Time.Instant

/-!
# RFC 3339 timestamps

Written in UTC with `Z`. Read with any offset and leniently: numbers may have fewer digits than
usual, white space may stand before a number, around the separators, before the offset and at the
end, and the year may have a sign and then any number of digits. A leap second may stand at the end
of any minute. A reader takes what it needs from the front of a text and gives back the rest.
-/
namespace PreparedSql.Time.Rfc3339

open PreparedSql.Decimal PreparedSql.Text

def text (t : Instant) : List Char :=
  t.date.text ++ 'T' :: t.timeOfDay.text ++ Instant.fractionText t.fraction ++ ['Z']

/-- The digits in front of a text, at least one and at most `most` of them. -/
def number (most : Nat) (cs : List Char) : Option (Nat × List Char) :=
  match (cs.take most).takeWhile isDigit with
  | [] => none
  | ds => (natOfDigits? 0 ds).map (·, cs.drop ds.length)

/-- A number of at most two digits between two bounds. -/
def field (least greatest : Nat) (cs : List Char) : Option (Nat × List Char) :=
  (number 2 (dropSpaces cs)).filter fun (n, _) => least ≤ n && n ≤ greatest

/-- A year of four digits, or a sign and a year of any number of digits. -/
def year (cs : List Char) : Option (Int × List Char) :=
  match dropSpaces cs with
  | '-' :: rest => (number rest.length rest).map fun (n, rest) => (-n, rest)
  | '+' :: rest => (number rest.length rest).map fun (n, rest) => (n, rest)
  | rest => (number 4 rest).map fun (n, rest) => (n, rest)

def separator (c : Char) (cs : List Char) : Option (List Char) :=
  match dropSpaces cs with
  | d :: rest => if d = c then some rest else none
  | [] => none

def date (cs : List Char) : Option (Date × List Char) := do
  let (year, cs) ← year cs
  let (month, cs) ← field 1 12 (← separator '-' cs)
  let (day, cs) ← field 1 31 (← separator '-' cs)
  let date : Date := ⟨year, month, day⟩
  if date.exists? then some (date, cs) else none

def timeOfDay (cs : List Char) : Option (TimeOfDay × List Char) := do
  let (hour, cs) ← field 0 23 cs
  let (minute, cs) ← field 0 59 (← separator ':' cs)
  let (second, cs) ← field 0 60 (← separator ':' cs)
  return (⟨hour, minute, second⟩, cs)

/-- The letter or the blank between date and time. -/
def divider : List Char → Option (List Char)
  | c :: rest => if c = 'T' ∨ c = 't' ∨ c = ' ' then some rest else none
  | [] => none

/-- Nanoseconds behind a point; digits after the ninth do not count. -/
def fraction (cs : List Char) : Option (Nat × List Char) :=
  match cs with
  | '.' :: rest => do
    let ds := rest.takeWhile isDigit
    let (n, _) ← number 9 ds
    return (n * Nat.pow 10 (9 - ds.length), rest.drop ds.length)
  | _ => some (0, cs)

/-- An offset from UTC in seconds, of less than a day. -/
def offset (cs : List Char) : Option (Int × List Char) :=
  match dropSpaces cs with
  | 'Z' :: rest => some (0, rest)
  | 'z' :: rest => some (0, rest)
  | u :: t :: c :: rest =>
    if u.toUpper = 'U' ∧ t.toUpper = 'T' ∧ c.toUpper = 'C' then some (0, rest)
    else if u = '+' then (hoursAndMinutes (t :: c :: rest)).map fun (n, rest) => (n, rest)
    else if u = '-' ∨ u = '−' then
      (hoursAndMinutes (t :: c :: rest)).map fun (n, rest) => (-n, rest)
    else none
  | _ => none
where
  /-- Two digits each, with colons or white space between them. -/
  hoursAndMinutes (cs : List Char) : Option (Nat × List Char) := do
    let hours ← natOfDigits? 0 (cs.take 2)
    let rest := (cs.drop 2).dropWhile fun c => c = ':' || isSpace c
    let minutes ← natOfDigits? 0 (rest.take 2)
    if 2 ≤ rest.length ∧ hours < 24 ∧ minutes < 60 then
      some (3600 * hours + 60 * minutes, rest.drop 2)
    else none

def instant (cs : List Char) : Option (Instant × List Char) := do
  let (day, cs) ← date cs
  let (time, cs) ← timeOfDay (← divider cs)
  let (nanos, cs) ← fraction cs
  let (ahead, cs) ← offset cs
  let there ← Instant.ofParts? day time nanos
  let t ← there.before? ahead
  return (t, cs)

def parse? (cs : List Char) : Option Instant := do
  let (t, rest) ← instant cs
  if (dropSpaces rest).isEmpty then some t else none

end PreparedSql.Time.Rfc3339
