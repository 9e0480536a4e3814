import PreparedSql.Proofs.Ieee.Fields
import PreparedSql.Proofs.Value.Buffer

/-!
# Whole numbers in float columns

A whole number is bound to a float column if and only if its magnitude is at most `2 ^ 53`, and the
bytes then are that number exactly (`Value.float8_holds_integers`).
-/
namespace PreparedSql.Value

open Encoder Ieee Text

theorem encode_int_of_exact {n : Int64} (h : n.toInt.natAbs ≤ 2 ^ 53) :
    (int n).encode .float8 = .ok (some (bigEndian 8 (Binary64.ofInt n.toInt).bits.toNat)) := by
  have hwrite : (int n).write .float8 =
      put (bigEndian 8 (Binary64.ofInt n.toInt).bits.toNat) := if_pos h
  exact encode_of_appends (hwrite ▸ appends_put _)

theorem encode_int_of_inexact {n : Int64} (h : 2 ^ 53 < n.toInt.natAbs) :
    (int n).encode .float8 = .error (.inexactInteger n) := by
  have hwrite : (int n).write .float8 = refuse (.inexactInteger n) := if_neg (Nat.not_le.mpr h)
  exact encode_of_refuses (hwrite ▸ refuses_refuse _)

theorem isOk_encode_int_float8 (n : Int64) :
    ((int n).encode .float8).isOk = true ↔ n.toInt.natAbs ≤ 2 ^ 53 := by
  rcases Nat.lt_or_ge (2 ^ 53) n.toInt.natAbs with hbeyond | hexact
  · rw [encode_int_of_inexact hbeyond]
    exact ⟨nofun, fun h => absurd h (Nat.not_le.mpr hbeyond)⟩
  · rw [encode_int_of_exact hexact]
    exact ⟨fun _ => hexact, fun _ => rfl⟩

theorem exists_bytes_of_encode_int {n : Int64} {result : Option (List UInt8)}
    (h : (int n).encode .float8 = .ok result) :
    ∃ bytes, result = some bytes ∧ bytes.length = 8 ∧
      Binary64.valueOfBytes? bytes = some (n.toInt : ℚ) := by
  have hexact : n.toInt.natAbs ≤ 2 ^ 53 := by
    rw [← isOk_encode_int_float8, h]
    rfl
  rw [encode_int_of_exact hexact] at h
  refine ⟨_, (Except.ok.inj h).symm, length_bigEndian 8 _, ?_⟩
  rw [Binary64.valueOfBytes?_bigEndian, Binary64.valueOfWord?_ofInt hexact]

/-- A whole number is bound to a float column if and only if its magnitude, which even for the least
number fits a word, is at most `2 ^ 53`. The eight bytes then stand for exactly that number, so that
different numbers are sent as different bytes and in the same order. -/
theorem float8_holds_integers :
    (∀ n : Int64, n.toInt.natAbs < 2 ^ 64 ∧
      (((int n).encode .float8).isOk = true ↔ n.toInt.natAbs ≤ 2 ^ 53) ∧
      (2 ^ 53 < n.toInt.natAbs → (int n).encode .float8 = .error (.inexactInteger n))) ∧
    (∀ (n : Int64) result, (int n).encode .float8 = .ok result →
      ∃ bytes, result = some bytes ∧ bytes.length = 8 ∧
        Binary64.valueOfBytes? bytes = some (n.toInt : ℚ)) ∧
    (∀ (m n : Int64) result, (int m).encode .float8 = .ok result →
      (int n).encode .float8 = .ok result → m = n) ∧
    ∀ (m n : Int64) (front back : List UInt8) (x y : ℚ),
      (int m).encode .float8 = .ok (some front) → (int n).encode .float8 = .ok (some back) →
      Binary64.valueOfBytes? front = some x → Binary64.valueOfBytes? back = some y →
      (m ≤ n ↔ x ≤ y) := by
  refine ⟨fun n => ⟨?_, isOk_encode_int_float8 n, encode_int_of_inexact⟩,
    fun n result => exists_bytes_of_encode_int, ?_, ?_⟩
  · have hleast := n.le_toInt
    have hgreatest := n.toInt_lt
    omega
  · intro m n result hm hn
    obtain ⟨bytes, hbytes, -, hvalue⟩ := exists_bytes_of_encode_int hm
    obtain ⟨bytes', hbytes', -, hvalue'⟩ := exists_bytes_of_encode_int hn
    obtain rfl : bytes = bytes' := Option.some.inj (hbytes.symm.trans hbytes')
    have hsame : (m.toInt : ℚ) = n.toInt := Option.some.inj (hvalue.symm.trans hvalue')
    exact Int64.toInt_inj.mp (Rat.intCast_inj.mp hsame)
  · intro m n front back x y hm hn hx hy
    obtain ⟨bytes, hbytes, -, hvalue⟩ := exists_bytes_of_encode_int hm
    obtain ⟨bytes', hbytes', -, hvalue'⟩ := exists_bytes_of_encode_int hn
    obtain rfl := Option.some.inj hbytes
    obtain rfl := Option.some.inj hbytes'
    obtain rfl : (m.toInt : ℚ) = x := Option.some.inj (hvalue.symm.trans hx)
    obtain rfl : (n.toInt : ℚ) = y := Option.some.inj (hvalue'.symm.trans hy)
    rw [Int64.le_iff_toInt_le, Rat.intCast_le_intCast]

end PreparedSql.Value
