import PreparedSql.Decimal.Shortest

/-!
# Layouts of decimals

How the digits of a decimal are set: positionally while the exponent of the leading digit lies in
a range, otherwise as one digit, a fraction and the exponent.
-/
namespace PreparedSql.Decimal

structure Layout where
  /-- Which of two equally near shortest decimals is written. -/
  tie : Tie
  /-- Whether a decimal whose leading digit stands at `10 ^ exponent` is written positionally. -/
  positional : (exponent : Int) → Bool
  /-- Written after a positional number that is whole. -/
  wholeEnd : String

namespace Scientific

/-- The exponent of the leading digit. -/
def leadingExponent (s : Scientific) : Int :=
  s.exponent + (digits s.significand).length - 1

/-- The digits in place, with zeros up to the decimal point on either side of it. -/
def positionalText (s : Scientific) (wholeEnd : String) : String :=
  let ds := digits s.significand
  if 0 ≤ s.exponent then
    String.ofList (ds ++ List.replicate s.exponent.natAbs '0') ++ wholeEnd
  else
    let places := s.exponent.natAbs
    let whole := ds.take (ds.length - places)
    let zeros := List.replicate (places - ds.length) '0'
    String.ofList ((if whole.isEmpty then ['0'] else whole) ++ '.' ::
      (zeros ++ ds.drop (ds.length - places)))

/-- One digit, the others behind a point, and the exponent with its sign. -/
def exponentText (s : Scientific) : String :=
  let ds := digits s.significand
  let fraction := if ds.length ≤ 1 then [] else '.' :: ds.drop 1
  let e := s.leadingExponent
  String.ofList (ds.take 1 ++ fraction) ++ "e" ++ (if e < 0 then "-" else "+") ++
    natText e.natAbs

end Scientific

def Layout.text (l : Layout) (s : Scientific) : String :=
  if l.positional s.leadingExponent then s.positionalText l.wholeEnd else s.exponentText

end PreparedSql.Decimal
