import PreparedSql.Decimal.Layout
import PreparedSql.Ieee.Format

/-!
# Binary32 and binary64 numbers

Numbers are kept as their bits. A conversion takes the nearest number of the other format; a
magnitude beyond the greatest one becomes infinity.
-/
namespace PreparedSql.Ieee

structure Binary64 where
  bits : UInt64
  deriving DecidableEq, Repr

structure Binary32 where
  bits : UInt32
  deriving DecidableEq, Repr

namespace Binary32

def isNegative (x : Binary32) : Bool :=
  Nat.pow 2 31 ≤ x.bits.toNat

def unsignedBits (x : Binary32) : Nat :=
  x.bits.toNat % Nat.pow 2 31

def isInfinite (x : Binary32) : Bool :=
  x.unsignedBits == binary32.infinity

def ofParts (negative : Bool) (unsignedBits : Nat) : Binary32 :=
  ⟨UInt32.ofNat ((if negative then Nat.pow 2 31 else 0) + unsignedBits)⟩

end Binary32

namespace Binary64

def isNegative (x : Binary64) : Bool :=
  Nat.pow 2 63 ≤ x.bits.toNat

def unsignedBits (x : Binary64) : Nat :=
  x.bits.toNat % Nat.pow 2 63

def isFinite (x : Binary64) : Bool :=
  x.unsignedBits < binary64.infinity

def isInfinite (x : Binary64) : Bool :=
  x.unsignedBits == binary64.infinity

def isNaN (x : Binary64) : Bool :=
  binary64.infinity < x.unsignedBits

/-- The magnitude of a finite number in units of `2 ^ (-1074)`. -/
def magnitude (x : Binary64) : Nat :=
  binary64.magnitude x.unsignedBits

def ofParts (negative : Bool) (unsignedBits : Nat) : Binary64 :=
  ⟨UInt64.ofNat ((if negative then Nat.pow 2 63 else 0) + unsignedBits)⟩

def ofRatio (negative : Bool) (num den : Nat) : Binary64 :=
  ofParts negative (binary64.nearest (num * Nat.pow 2 binary64.unitExponent) den)

def ofInt (n : Int) : Binary64 :=
  ofRatio (n < 0) n.natAbs 1

/-- Equality of numbers: the two zeros are equal, and no NaN equals anything. -/
def beq (x y : Binary64) : Bool :=
  !x.isNaN && !y.isNaN &&
    (x.bits == y.bits || (x.unsignedBits == 0 && y.unsignedBits == 0))

instance : BEq Binary64 := ⟨beq⟩

/-- A NaN keeps its sign and the leading bits of its payload and becomes quiet. -/
def toBinary32 (x : Binary64) : Binary32 :=
  if x.isNaN then
    Binary32.ofParts x.isNegative
      (binary32.infinity + Nat.pow 2 22 + x.unsignedBits / Nat.pow 2 29 % Nat.pow 2 22)
  else if x.isInfinite then Binary32.ofParts x.isNegative binary32.infinity
  else
    Binary32.ofParts x.isNegative
      (binary32.nearest x.magnitude (Nat.pow 2 (binary64.unitExponent - binary32.unitExponent)))

/-- Every binary32 number is one of binary64. A NaN becomes quiet. -/
def ofBinary32 (x : Binary32) : Binary64 :=
  if binary32.infinity < x.unsignedBits then
    ofParts x.isNegative
      (binary64.infinity + Nat.pow 2 51 + x.unsignedBits % Nat.pow 2 22 * Nat.pow 2 29)
  else if x.isInfinite then ofParts x.isNegative binary64.infinity
  else
    ofParts x.isNegative
      (binary64.nearest
        (binary32.magnitude x.unsignedBits *
          Nat.pow 2 (binary64.unitExponent - binary32.unitExponent)) 1)

/-- The reals that round to a finite number other than zero: they lie between the midpoints to its
two neighbours, which belong to them if the significand is even. -/
def neighbourhood (x : Binary64) : Decimal.Neighbourhood where
  low := binary64.magnitude (x.unsignedBits - 1) + x.magnitude
  value := 2 * x.magnitude
  high := x.magnitude + binary64.magnitude (x.unsignedBits + 1)
  den := Nat.pow 2 (binary64.unitExponent + 1)
  closed := x.unsignedBits % 2 == 0

/-- The text of a finite number: the sign, then the fewest digits that read back as it. -/
def finiteText (x : Binary64) (layout : Decimal.Layout) : String :=
  let decimal :=
    if x.unsignedBits = 0 then ⟨0, 0⟩ else x.neighbourhood.shortest layout.tie
  (if x.isNegative then "-" else "") ++ layout.text decimal

/-- Positional at every size, without a fraction where there is none. -/
def plainLayout : Decimal.Layout where
  tie := .up
  positional _ := true
  wholeEnd := ""

def text (x : Binary64) : String :=
  if x.isNaN then "NaN"
  else if x.isInfinite then (if x.isNegative then "-inf" else "inf")
  else x.finiteText plainLayout

theorem isFinite_eq_false_iff (x : Binary64) :
    x.isFinite = false ↔ x.isNaN = true ∨ x.isInfinite = true := by
  simp only [isFinite, isNaN, isInfinite, decide_eq_false_iff_not, decide_eq_true_eq, beq_iff_eq]
  omega

end Binary64

end PreparedSql.Ieee
