import PreparedSql.Decimal.Integer

/-!
# Shortest decimals

Of all decimals in an interval around a positive value, the one with the fewest digits, and of
those the nearest to the value. Such a decimal is a point of the coarsest grid of multiples of a
power of ten that meets the interval, and if a grid meets it then one of the two neighbours of the
value on that grid lies in it.
-/
namespace PreparedSql.Decimal

/-- The number `significand * 10 ^ exponent`. -/
structure Scientific where
  significand : Nat
  exponent : Int
  deriving DecidableEq, Repr

/-- Which of two equally near decimals is taken. -/
inductive Tie
  | up
  | even
  deriving DecidableEq, Repr

/-- The positive value `value / den` and the interval from `low / den` to `high / den` around it,
with its ends if `closed`. -/
structure Neighbourhood where
  low : Nat
  value : Nat
  high : Nat
  den : Nat
  closed : Bool
  deriving Repr

namespace Neighbourhood

/-- The value and the interval counted in steps of `10 ^ exponent`. -/
def inSteps (n : Neighbourhood) (exponent : Int) : Neighbourhood :=
  if exponent < 0 then
    let scale := Nat.pow 10 exponent.natAbs
    { n with low := n.low * scale, value := n.value * scale, high := n.high * scale }
  else
    { n with den := n.den * Nat.pow 10 exponent.natAbs }

def holds (n : Neighbourhood) (k : Nat) : Bool :=
  if n.closed then n.low ≤ k * n.den && k * n.den ≤ n.high
  else n.low < k * n.den && k * n.den < n.high

/-- The whole number in the interval that is nearest to the value, if there is one. -/
def nearestWhole? (n : Neighbourhood) (tie : Tie) : Option Nat :=
  let below := n.value / n.den
  let above := below + 1
  match decide (0 < below) && n.holds below, n.holds above with
  | false, false => none
  | true, false => some below
  | false, true => some above
  | true, true =>
    match compare (2 * (n.value % n.den)) n.den with
    | .lt => some below
    | .gt => some above
    | .eq =>
      match tie with
      | .up => some above
      | .even => some (if below % 2 = 0 then below else above)

/-- Tries `count` grids from `10 ^ exponent` downwards. -/
def search (n : Neighbourhood) (tie : Tie) : (count : Nat) → (exponent : Int) → Option Scientific
  | 0, _ => none
  | count + 1, exponent =>
    match (n.inSteps exponent).nearestWhole? tie with
    | some k => some ⟨k, exponent⟩
    | none => n.search tie count (exponent - 1)

/-- The decimal of fewest digits in the interval. The search starts above the value and ends at a
grid finer than the interval. -/
def shortest (n : Neighbourhood) (tie : Tie) : Scientific :=
  let top := (digits (n.high / n.den)).length
  let bottom := (digits n.den).length
  (n.search tie (top + bottom + 1) top).getD ⟨0, 0⟩

end Neighbourhood

end PreparedSql.Decimal
