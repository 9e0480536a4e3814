/-!
# Hexadecimal text

Bytes as pairs of lower-case hexadecimal digits, and back from digits of either case.
-/
namespace PreparedSql.Text

/-- The lower-case digit of a number below sixteen. -/
def hexDigit (n : Nat) : Char :=
  if n < 10 then Char.ofNat (48 + n) else Char.ofNat (87 + n)

def hexValue? (c : Char) : Option Nat :=
  if '0' ≤ c ∧ c ≤ '9' then some (c.toNat - 48)
  else if 'a' ≤ c ∧ c ≤ 'f' then some (c.toNat - 87)
  else if 'A' ≤ c ∧ c ≤ 'F' then some (c.toNat - 55)
  else none

def hexOfBytes : List UInt8 → List Char
  | [] => []
  | b :: bytes => hexDigit (b.toNat / 16) :: hexDigit (b.toNat % 16) :: hexOfBytes bytes

/-- Refuses a lone last digit and every character that is no digit. -/
def bytesOfHex? : List Char → Option (List UInt8)
  | [] => some []
  | [_] => none
  | high :: low :: rest => do
    let h ← hexValue? high
    let l ← hexValue? low
    let bytes ← bytesOfHex? rest
    return UInt8.ofNat (16 * h + l) :: bytes

def natOfHex? (cs : List Char) : Option Nat :=
  cs.foldlM (fun n c => (hexValue? c).map (16 * n + ·)) 0

/-- The lowest `width` hexadecimal digits of `n`, highest first. -/
def hexOfNat : (width : Nat) → (n : Nat) → List Char
  | 0, _ => []
  | width + 1, n => hexOfNat width (n / 16) ++ [hexDigit (n % 16)]

theorem length_hexOfBytes (bytes : List UInt8) : (hexOfBytes bytes).length = 2 * bytes.length := by
  induction bytes with
  | nil => rfl
  | cons b bytes ih => simp only [hexOfBytes, List.length_cons, ih]; omega

theorem hexValue?_hexDigit {n : Nat} (h : n < 16) : hexValue? (hexDigit n) = some n := by
  have all : ∀ m : Fin 16, hexValue? (hexDigit m) = some m.val := by decide
  exact all ⟨n, h⟩

theorem bytesOfHex?_hexOfBytes (bytes : List UInt8) :
    bytesOfHex? (hexOfBytes bytes) = some bytes := by
  induction bytes with
  | nil => rfl
  | cons b bytes ih =>
    have hb : b.toNat < 256 := b.toNat_lt
    have hv : 16 * (b.toNat / 16) + b.toNat % 16 = b.toNat := by omega
    simp only [hexOfBytes, bytesOfHex?, ih, hexValue?_hexDigit (show b.toNat / 16 < 16 by omega),
      hexValue?_hexDigit (show b.toNat % 16 < 16 by omega), Option.bind_eq_bind, Option.bind_some,
      hv, UInt8.ofNat_toNat, Option.pure_def]

end PreparedSql.Text
