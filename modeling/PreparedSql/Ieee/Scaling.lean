import PreparedSql.Ieee.Binary

/-!
# Scaling by powers of ten

Products and quotients of finite numbers, each rounded once, and the scaling of a number by a power
of ten, which is itself rounded before it is used. So a scaled number need not be the nearest one.
-/
namespace PreparedSql.Ieee.Binary64

def times (x y : Binary64) : Binary64 :=
  ofRatio (x.isNegative != y.isNegative) (x.magnitude * y.magnitude)
    (Nat.pow 2 (2 * binary64.unitExponent))

def dividedBy (x y : Binary64) : Binary64 :=
  ofRatio (x.isNegative != y.isNegative) x.magnitude y.magnitude

def powerOfTen (n : Nat) : Binary64 :=
  ofRatio false (Nat.pow 10 n) 1

/-- The exponent of the greatest finite power of ten. -/
def greatestPower : Nat := 308

/-- A number up to `2 ^ 64` times a power of ten. Beyond the greatest power only zero is finite, and
a scale that would take three divisions leaves nothing after the second. -/
def scale (x : Binary64) (exponent : Int) : Binary64 :=
  let places := exponent.natAbs
  if x.magnitude = 0 then x
  else if 0 ≤ exponent then
    if places ≤ greatestPower then x.times (powerOfTen places)
    else ofParts x.isNegative binary64.infinity
  else if places ≤ greatestPower then x.dividedBy (powerOfTen places)
  else if places ≤ 2 * greatestPower then
    (x.dividedBy (powerOfTen greatestPower)).dividedBy (powerOfTen (places - greatestPower))
  else ofParts x.isNegative 0

end PreparedSql.Ieee.Binary64
