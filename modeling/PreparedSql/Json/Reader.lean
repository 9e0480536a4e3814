import PreparedSql.Ieee.Scaling
import PreparedSql.Json.Basic
import PreparedSql.Text.Hex

/-!
# Reading JSON text

A number without fraction and exponent is a whole number if it fits 64 bits, signed or unsigned. Any
other number is read as the whole number that its leading digits make in 64 bits, rounded to a
binary fraction and then scaled by a power of ten, and has to be finite. Objects keep the last
member of a key.
-/
namespace PreparedSql.Json

open PreparedSql.Ieee PreparedSql.Decimal

def isBlank (c : Char) : Bool :=
  c = ' ' || c = '\n' || c = '\r' || c = '\t'

def skipBlanks (cs : List Char) : List Char :=
  cs.dropWhile isBlank

/-- The unit that four hexadecimal digits give, and the rest. -/
def readUnit (cs : List Char) : Option (Nat × List Char) :=
  match cs with
  | a :: b :: c :: d :: rest => (Text.natOfHex? [a, b, c, d]).map (·, rest)
  | _ => none

/-- The character behind a backslash and `u`; a high surrogate needs a low one after it. -/
def readEscapedChar (cs : List Char) : Option (Char × List Char) := do
  let (high, rest) ← readUnit cs
  if high < 0xD800 ∨ 0xE000 ≤ high then return (Char.ofNat high, rest)
  if 0xDC00 ≤ high then none
  match rest with
  | '\\' :: 'u' :: rest =>
    let (low, rest) ← readUnit rest
    if low < 0xDC00 ∨ 0xE000 ≤ low then none
    return (Char.ofNat (0x10000 + (high - 0xD800) * 0x400 + (low - 0xDC00)), rest)
  | _ => none

/-- The characters of a string up to its closing quote. -/
def readString : (fuel : Nat) → List Char → Option (List Char × List Char)
  | 0, _ => none
  | _ + 1, [] => none
  | _ + 1, '"' :: rest => some ([], rest)
  | fuel + 1, '\\' :: c :: rest => do
    let (d, rest) ← match c with
      | '"' => some ('"', rest)
      | '\\' => some ('\\', rest)
      | '/' => some ('/', rest)
      | 'b' => some ('\x08', rest)
      | 'f' => some ('\x0c', rest)
      | 'n' => some ('\n', rest)
      | 'r' => some ('\r', rest)
      | 't' => some ('\t', rest)
      | 'u' => readEscapedChar rest
      | _ => none
    let (s, rest) ← readString fuel rest
    return (d :: s, rest)
  | fuel + 1, c :: rest => do
    if c.toNat < 0x20 ∨ c = '\\' then none
    let (s, rest) ← readString fuel rest
    return (c :: s, rest)

/-- Reads digits onto `n` while 64 bits hold the number, and counts them. -/
def gather (n : Nat) : List Char → Nat × Nat
  | [] => (n, 0)
  | c :: cs =>
    match digitValue? c with
    | none => (n, 0)
    | some d =>
      if 10 * n + d < Nat.pow 2 64 then
        let (m, count) := gather (10 * n + d) cs
        (m, count + 1)
      else (n, 0)

/-- The fraction with the given digits before and behind the point and the given exponent. A digit
before the point for which there is no room still counts as a place. -/
def numberOf (negative : Bool) (whole fraction : List Char) (exponent : Int) : Option Json :=
  let (n, wholeCount) := gather 0 whole
  let (n, fractionCount) := gather n fraction
  let places := exponent + (whole.length - wholeCount : Nat) - fractionCount
  let x := (Binary64.ofRatio negative n 1).scale places
  if x.isFinite then some (float x) else none

/-- A whole number of 64 bits, or the fraction nearest to it. Zero with a sign is a fraction. -/
def wholeOf (negative : Bool) (whole : List Char) : Option Json := do
  let magnitude ← natOfDigits? 0 whole
  let n : Int := if negative then -magnitude else magnitude
  if -Nat.pow 2 63 ≤ n ∧ n < Nat.pow 2 64 ∧ ¬(negative = true ∧ magnitude = 0) then some (int n)
  else numberOf negative whole [] 0

def readExponent (cs : List Char) : Option (Int × List Char) := do
  let (sign, cs) := match cs with
    | '-' :: rest => ((-1 : Int), rest)
    | '+' :: rest => (1, rest)
    | _ => (1, cs)
  let ds := cs.takeWhile isDigit
  if ds.isEmpty then none
  let n ← natOfDigits? 0 ds
  return (sign * n, cs.drop ds.length)

def readNumber (cs : List Char) : Option (Json × List Char) := do
  let (negative, cs) := match cs with
    | '-' :: rest => (true, rest)
    | _ => (false, cs)
  let whole := cs.takeWhile isDigit
  if whole.isEmpty ∨ (1 < whole.length ∧ whole.head? = some '0') then none
  let cs := cs.drop whole.length
  let (fraction, cs) ← match cs with
    | '.' :: rest =>
      let ds := rest.takeWhile isDigit
      if ds.isEmpty then none else some (some ds, rest.drop ds.length)
    | _ => some (none, cs)
  let (exponent, cs) ← match cs with
    | 'e' :: rest => (readExponent rest).map fun (n, rest) => (some n, rest)
    | 'E' :: rest => (readExponent rest).map fun (n, rest) => (some n, rest)
    | _ => some (none, cs)
  let value ←
    if fraction.isNone ∧ exponent.isNone then wholeOf negative whole
    else numberOf negative whole (fraction.getD []) (exponent.getD 0)
  return (value, cs)

mutual

/-- Reads one document. The fuel bounds the nesting and the number of items, the limit the length of
a string. -/
def readValue (limit : Nat) : (fuel : Nat) → List Char → Option (Json × List Char)
  | 0, _ => none
  | fuel + 1, cs =>
    match skipBlanks cs with
    | 'n' :: 'u' :: 'l' :: 'l' :: rest => some (null, rest)
    | 't' :: 'r' :: 'u' :: 'e' :: rest => some (bool true, rest)
    | 'f' :: 'a' :: 'l' :: 's' :: 'e' :: rest => some (bool false, rest)
    | '"' :: rest => do
      let (s, rest) ← readString limit rest
      return (string (String.ofList s), rest)
    | '[' :: rest =>
      match skipBlanks rest with
      | ']' :: rest => some (array [], rest)
      | rest => do
        let (items, rest) ← readItems limit fuel rest
        return (array items, rest)
    | '\x7b' :: rest =>
      match skipBlanks rest with
      | '\x7d' :: rest => some (object [], rest)
      | rest => do
        let (members, rest) ← readMembers limit fuel rest
        return (ofMembers members, rest)
    | cs => readNumber cs

/-- One or more items and the closing bracket. -/
def readItems (limit : Nat) : (fuel : Nat) → List Char → Option (List Json × List Char)
  | 0, _ => none
  | fuel + 1, cs => do
    let (item, rest) ← readValue limit fuel cs
    match skipBlanks rest with
    | ']' :: rest => return ([item], rest)
    | ',' :: rest =>
      let (items, rest) ← readItems limit fuel rest
      return (item :: items, rest)
    | _ => none

/-- One or more members and the closing brace. -/
def readMembers (limit : Nat) : (fuel : Nat) → List Char → Option (List (String × Json) × List Char)
  | 0, _ => none
  | fuel + 1, cs =>
    match skipBlanks cs with
    | '"' :: rest => do
      let (key, rest) ← readString limit rest
      match skipBlanks rest with
      | ':' :: rest =>
        let (value, rest) ← readValue limit fuel rest
        match skipBlanks rest with
        | '\x7d' :: rest => return ([(String.ofList key, value)], rest)
        | ',' :: rest =>
          let (members, rest) ← readMembers limit fuel rest
          return ((String.ofList key, value) :: members, rest)
        | _ => none
      | _ => none
    | _ => none

end

def parse? (text : String) : Option Json := do
  let cs := text.toList
  let limit := cs.length + 1
  let (value, rest) ← readValue limit limit cs
  if (skipBlanks rest).isEmpty then some value else none

end PreparedSql.Json
