import PreparedSql.Text.Hex

/-!
# UUIDs

Sixteen bytes, written as five groups of lower-case hexadecimal digits. Four forms are read, with
letters of either case: the groups with or without hyphens, in braces, or behind `urn:uuid:`.
-/
namespace PreparedSql

open PreparedSql.Text

structure Uuid where
  bytes : List UInt8
  length_eq : bytes.length = 16
  deriving DecidableEq, Repr

namespace Uuid

def of? (bytes : List UInt8) : Option Uuid :=
  if h : bytes.length = 16 then some ⟨bytes, h⟩ else none

/-- Puts hyphens after the digits 8, 12, 16 and 20. -/
def hyphenate (digits : List Char) : List Char :=
  digits.take 8 ++ '-' :: (digits.drop 8).take 4 ++ '-' :: (digits.drop 12).take 4 ++
    '-' :: (digits.drop 16).take 4 ++ '-' :: digits.drop 20

def text (u : Uuid) : List Char :=
  hyphenate (hexOfBytes u.bytes)

def ofDigits? (digits : List Char) : Option Uuid :=
  (bytesOfHex? digits).bind of?

/-- The hyphenated form alone. -/
def ofHyphenated? (cs : List Char) : Option Uuid :=
  let digits := cs.take 8 ++ (cs.drop 9).take 4 ++ (cs.drop 14).take 4 ++
    (cs.drop 19).take 4 ++ cs.drop 24
  if hyphenate digits = cs then ofDigits? digits else none

/-- Any of the four forms. -/
def parse? (cs : List Char) : Option Uuid :=
  if cs.length = 32 then ofDigits? cs
  else if cs.length = 36 then ofHyphenated? cs
  else if cs.length = 38 ∧ cs.head? = some '\x7b' ∧ cs.getLast? = some '\x7d' then
    ofHyphenated? ((cs.drop 1).dropLast)
  else if cs.length = 45 ∧ (cs.take 9).map Char.toLower = "urn:uuid:".toList then
    ofHyphenated? (cs.drop 9)
  else none

end Uuid

end PreparedSql
