/-!
# Big-endian bytes

Numbers as a fixed count of bytes, highest first; negative numbers in two's complement.
-/
namespace PreparedSql.Text

/-- The lowest `width` bytes of `n`, highest first. -/
def bigEndian : (width : Nat) → (n : Nat) → List UInt8
  | 0, _ => []
  | width + 1, n => bigEndian width (n / 256) ++ [UInt8.ofNat n]

/-- `n` in two's complement over `width` bytes. -/
def twosComplement (width : Nat) (n : Int) : List UInt8 :=
  bigEndian width (n % Nat.pow 256 width).toNat

/-- The number whose bytes are given, highest first. -/
def natOfBigEndian (bytes : List UInt8) : Nat :=
  bytes.foldl (fun n b => 256 * n + b.toNat) 0

@[simp] theorem length_bigEndian (width n : Nat) : (bigEndian width n).length = width := by
  induction width generalizing n with
  | zero => rfl
  | succ width ih => simp [bigEndian, ih]

theorem natOfBigEndian_append_singleton (bytes : List UInt8) (b : UInt8) :
    natOfBigEndian (bytes ++ [b]) = 256 * natOfBigEndian bytes + b.toNat := by
  simp [natOfBigEndian]

theorem natOfBigEndian_bigEndian (width n : Nat) :
    natOfBigEndian (bigEndian width n) = n % Nat.pow 256 width := by
  induction width generalizing n with
  | zero => simp [bigEndian, natOfBigEndian, Nat.mod_one]
  | succ width ih =>
    have split : n % Nat.pow 256 (width + 1) =
        n % 256 + 256 * (n / 256 % Nat.pow 256 width) := by
      change n % (Nat.pow 256 width * 256) = _
      rw [Nat.mul_comm, Nat.mod_mul]
    rw [bigEndian, natOfBigEndian_append_singleton, ih, UInt8.toNat_ofNat', split]
    omega

end PreparedSql.Text
