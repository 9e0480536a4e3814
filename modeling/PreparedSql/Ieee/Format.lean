/-!
# Binary interchange formats

A finite number of such a format is a whole multiple of its least positive number, so a magnitude
is a natural number counted in that unit. The bits below the sign, read as a number, grow with the
magnitude, and the bits just above those of the greatest finite number stand for infinity.
-/
namespace PreparedSql.Ieee

structure Format where
  /-- Bits of the significand, the hidden one included. -/
  precision : Nat
  exponentBits : Nat
  /-- The least positive number is `2 ^ (-unitExponent)`. -/
  unitExponent : Nat
  deriving DecidableEq, Repr

def binary32 : Format := ⟨24, 8, 149⟩

def binary64 : Format := ⟨53, 11, 1074⟩

/-- `num / den` to the nearest whole number, a half to the even one. -/
def roundHalfEven (num den : Nat) : Nat :=
  let below := num / den
  match compare (2 * (num % den)) den with
  | .lt => below
  | .gt => below + 1
  | .eq => below + below % 2

namespace Format

/-- The number of significands that share an exponent. -/
def span (f : Format) : Nat :=
  Nat.pow 2 (f.precision - 1)

def infinity (f : Format) : Nat :=
  (Nat.pow 2 f.exponentBits - 1) * f.span

/-- The magnitude that the bits below the sign stand for. For those of infinity it is the one that
would come after the greatest finite magnitude. -/
def magnitude (f : Format) (bits : Nat) : Nat :=
  let exponent := bits / f.span
  let fraction := bits % f.span
  if exponent = 0 then fraction else (f.span + fraction) * Nat.pow 2 (exponent - 1)

/-- How many low bits a magnitude has beyond the significand. -/
def excess (f : Format) (n : Nat) : Nat :=
  Nat.log2 n + 1 - f.precision

/-- The bits of the number nearest to `num / den` units. A significand that rounds up to the next
power of two carries into the exponent, and the last carry gives infinity. -/
def nearest (f : Format) (num den : Nat) : Nat :=
  let shift := f.excess (num / den)
  min f.infinity (shift * f.span + roundHalfEven num (den * Nat.pow 2 shift))

end Format

end PreparedSql.Ieee
