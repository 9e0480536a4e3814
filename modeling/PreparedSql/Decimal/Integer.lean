/-!
# Decimal integers

The digits of a number, and reading a signed number that has to fit a range. A text is read from
the left and the first thing wrong with it is the one reported, so `99x` is too large for a range
that ends at 98 and holds an invalid digit for one that ends at 99.
-/
namespace PreparedSql.Decimal

def digitChar (d : Nat) : Char :=
  Char.ofNat (48 + d)

def digitValue? (c : Char) : Option Nat :=
  if '0' ≤ c ∧ c ≤ '9' then some (c.toNat - 48) else none

def isDigit (c : Char) : Bool :=
  (digitValue? c).isSome

/-- The decimal digits of `n`, highest first, without leading zeros. -/
def digits (n : Nat) : List Char :=
  if n < 10 then [digitChar n] else digits (n / 10) ++ [digitChar (n % 10)]
decreasing_by omega

/-- `digits` with zeros in front up to `width`. -/
def padded (width n : Nat) : List Char :=
  List.replicate (width - (digits n).length) '0' ++ digits n

def natText (n : Nat) : String :=
  String.ofList (digits n)

def intText (n : Int) : String :=
  if n < 0 then "-" ++ natText n.natAbs else natText n.natAbs

/-- The number that a text of digits denotes, read on from `n`. -/
def natOfDigits? (n : Nat) (cs : List Char) : Option Nat :=
  cs.foldlM (fun n c => (digitValue? c).map (10 * n + ·)) n

structure Range where
  least : Int
  greatest : Int
  deriving DecidableEq, Repr

def Range.signed (width : Nat) : Range :=
  ⟨-Nat.pow 2 (8 * width - 1), Nat.pow 2 (8 * width - 1) - 1⟩

inductive IntegerFault
  | empty
  | invalidDigit
  | tooLarge
  | tooSmall
  deriving DecidableEq, Repr

namespace IntegerFault

def message : IntegerFault → String
  | empty => "cannot parse integer from empty string"
  | invalidDigit => "invalid digit found in string"
  | tooLarge => "number too large to fit in target type"
  | tooSmall => "number too small to fit in target type"

end IntegerFault

namespace Range

def holds (r : Range) (n : Int) : Bool :=
  r.least ≤ n && n ≤ r.greatest

/-- `n` itself if it lies in the range. -/
def fit (r : Range) (n : Int) : Except IntegerFault Int :=
  if r.greatest < n then .error .tooLarge
  else if n < r.least then .error .tooSmall
  else .ok n

/-- Reads digits onto `n`, each one added with `sign`, as long as the range holds. -/
def readDigits (r : Range) (sign : Int) (n : Int) : List Char → Except IntegerFault Int
  | [] => .ok n
  | c :: cs =>
    match digitValue? c with
    | none => .error .invalidDigit
    | some d => do
      let next ← r.fit (10 * n + sign * d)
      r.readDigits sign next cs

/-- Reads an optional sign and at least one digit. -/
def read (r : Range) : List Char → Except IntegerFault Int
  | [] => .error .empty
  | ['+'] => .error .invalidDigit
  | ['-'] => .error .invalidDigit
  | '+' :: cs => r.readDigits 1 0 cs
  | '-' :: cs => r.readDigits (-1) 0 cs
  | cs => r.readDigits 1 0 cs

end Range

theorem digits_of_lt {n : Nat} (h : n < 10) : digits n = [digitChar n] := by
  rw [digits, if_pos h]

theorem digits_of_le {n : Nat} (h : 10 ≤ n) :
    digits n = digits (n / 10) ++ [digitChar (n % 10)] := by
  rw [digits, if_neg (by omega)]

theorem digits_ne_nil (n : Nat) : digits n ≠ [] := by
  rcases Nat.lt_or_ge n 10 with h | h
  · simp [digits_of_lt h]
  · simp [digits_of_le h]

theorem digitValue?_digitChar {d : Nat} (h : d < 10) : digitValue? (digitChar d) = some d := by
  have all : ∀ m : Fin 10, digitValue? (digitChar m) = some m.val := by decide
  exact all ⟨d, h⟩

theorem isDigit_digitChar {d : Nat} (h : d < 10) : isDigit (digitChar d) = true := by
  rw [isDigit, digitValue?_digitChar h]
  rfl

theorem isDigit_of_mem_digits {n : Nat} {c : Char} (hc : c ∈ digits n) : isDigit c = true := by
  induction n using Nat.strongRecOn with
  | ind n ih =>
    rcases Nat.lt_or_ge n 10 with h | h
    · rw [digits_of_lt h, List.mem_singleton] at hc
      rw [hc]
      exact isDigit_digitChar h
    · rw [digits_of_le h, List.mem_append, List.mem_singleton] at hc
      rcases hc with hc | rfl
      · exact ih (n / 10) (by omega) hc
      · exact isDigit_digitChar (by omega)

theorem natOfDigits?_append_singleton (n : Nat) (cs : List Char) (c : Char) :
    natOfDigits? n (cs ++ [c]) =
      (natOfDigits? n cs).bind fun m => (digitValue? c).map (10 * m + ·) := by
  simp [natOfDigits?, List.foldlM_append]

theorem natOfDigits?_digits (n : Nat) : natOfDigits? 0 (digits n) = some n := by
  induction n using Nat.strongRecOn with
  | ind n ih =>
    rcases Nat.lt_or_ge n 10 with h | h
    · simp [digits_of_lt h, natOfDigits?, digitValue?_digitChar h]
    · have hm : 10 * (n / 10) + n % 10 = n := by omega
      rw [digits_of_le h, natOfDigits?_append_singleton, ih (n / 10) (by omega),
        Option.bind_some, digitValue?_digitChar (by omega), Option.map_some, hm]

end PreparedSql.Decimal
