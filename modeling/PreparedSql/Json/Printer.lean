import PreparedSql.Json.Basic
import PreparedSql.Text.Hex

/-!
# Compact JSON text

Documents without white space. Only quotes, backslashes and control characters below the blank are
escaped. A fraction has a point or an exponent, so it never reads as a whole number.
-/
namespace PreparedSql.Json

open PreparedSql.Ieee

/-- The escape of a character, or the character itself. -/
def escape (c : Char) : List Char :=
  if c = '"' then ['\\', '"']
  else if c = '\\' then ['\\', '\\']
  else if c = '\x08' then ['\\', 'b']
  else if c = '\x0c' then ['\\', 'f']
  else if c = '\n' then ['\\', 'n']
  else if c = '\r' then ['\\', 'r']
  else if c = '\t' then ['\\', 't']
  else if c.toNat < 0x20 then '\\' :: 'u' :: Text.hexOfNat 4 c.toNat
  else [c]

def quoted (s : String) : String :=
  String.ofList ('"' :: s.toList.flatMap escape ++ ['"'])

/-- Fractions are positional from `1e-5` up to sixteen digits and keep a zero behind the point. -/
def fractionLayout : Decimal.Layout where
  tie := .even
  positional exponent := -5 ≤ exponent && exponent < 16
  wholeEnd := ".0"

/-- A fraction that is no finite number is written as `null`. -/
def fractionText (x : Binary64) : String :=
  if x.isFinite then x.finiteText fractionLayout else "null"

mutual

def print : Json → String
  | null => "null"
  | bool true => "true"
  | bool false => "false"
  | int n => Decimal.intText n
  | float x => fractionText x
  | string s => quoted s
  | array items => "[" ++ ",".intercalate (printItems items) ++ "]"
  | object members => "\x7b" ++ ",".intercalate (printMembers members) ++ "\x7d"

def printItems : List Json → List String
  | [] => []
  | item :: items => print item :: printItems items

def printMembers : List (String × Json) → List String
  | [] => []
  | (key, value) :: members => (quoted key ++ ":" ++ print value) :: printMembers members

end

end PreparedSql.Json
