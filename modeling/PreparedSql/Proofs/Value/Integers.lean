import PreparedSql.Proofs.Text.TwosComplement
import PreparedSql.Proofs.Value.Buffer
import PreparedSql.Proofs.Value.Document

/-!
# Whole numbers in integer columns

A whole number and a text that denotes it are sent as the same bytes, and those bytes read back as
the number. One that does not fit the column is refused either way
(`Value.encode_integers`).
-/
namespace PreparedSql

namespace Value

open Decimal Encoder Text

def integerTypes : List (ParamType × Nat) :=
  [(.int2, 2), (.int4, 4), (.int8, 8)]

/-- What an integer type makes of a number that may not have fitted. -/
def integerBytes (width : Nat) (result : Except IntegerFault Int) :
    Except EncodingFault (Option (List UInt8)) :=
  (result.map fun n => some (twosComplement width n)).mapError .integer

theorem isOk_integerBytes (width : Nat) (result : Except IntegerFault Int) :
    (integerBytes width result).isOk = result.isOk := by
  cases result <;> rfl

theorem fits_toInt (n : Int64) : Fits 8 n.toInt :=
  holds_signed_iff.mp (holds_toInt n)

theorem exists_toInt {k : Int} (h : Fits 8 k) : ∃ n : Int64, n.toInt = k :=
  ⟨Int64.ofInt k, Int64.toInt_ofInt_of_le h.1 h.2⟩

section IntegerType

variable {type : ParamType} {width : Nat}

theorem integerWidth?_of_mem (h : (type, width) ∈ integerTypes) :
    type.integerWidth? = some width := by
  have hall : ∀ p ∈ integerTypes, p.1.integerWidth? = some p.2 := by decide
  exact hall _ h

theorem width_pos (h : (type, width) ∈ integerTypes) : 0 < width := by
  have hall : ∀ p ∈ integerTypes, 0 < p.2 := by decide
  exact hall _ h

/-- No integer type is wider than the values bound to it. -/
theorem fits_widest (h : (type, width) ∈ integerTypes) {k : Int} (hk : Fits width k) :
    Fits 8 k := by
  simp only [integerTypes, List.mem_cons, Prod.mk.injEq, List.not_mem_nil, or_false] at h
  rw [Fits] at hk ⊢
  rcases h with ⟨-, rfl⟩ | ⟨-, rfl⟩ | ⟨-, rfl⟩ <;> omega

/-- The widest type takes every whole number, so that nothing is checked there. -/
theorem write_int (h : (type, width) ∈ integerTypes) (n : Int64) :
    (int n).write type = putInteger width ((Range.signed width).fit n.toInt) := by
  simp only [integerTypes, List.mem_cons, Prod.mk.injEq, List.not_mem_nil, or_false] at h
  rcases h with ⟨rfl, rfl⟩ | ⟨rfl, rfl⟩ | ⟨rfl, rfl⟩
  · rfl
  · rfl
  · have hfit : (Range.signed 8).fit n.toInt = .ok n.toInt := Range.fit_of_holds (holds_toInt n)
    rw [hfit]
    rfl

theorem write_text (h : (type, width) ∈ integerTypes) (s : String) :
    (text s).write type = putInteger width ((Range.signed width).read s.toList) := by
  rw [write, Encoding.text, integerWidth?_of_mem h]

theorem encode_of_putInteger {v : Value} {result : Except IntegerFault Int}
    (hv : v.isNull = false) (h : v.write type = putInteger width result) :
    v.encode type = integerBytes width result := by
  cases result with
  | ok n =>
    have happends : (v.write type).Appends (twosComplement width n) := by
      rw [h]
      exact appends_put _
    rw [encode_of_appends happends, hv]
    rfl
  | error fault =>
    have hrefuses : (v.write type).Refuses (.integer fault) := by
      rw [h]
      exact refuses_refuse _
    exact encode_of_refuses hrefuses

theorem encode_int (h : (type, width) ∈ integerTypes) (n : Int64) :
    (int n).encode type = integerBytes width ((Range.signed width).fit n.toInt) :=
  encode_of_putInteger rfl (write_int h n)

theorem encode_text (h : (type, width) ∈ integerTypes) (s : String) :
    (text s).encode type = integerBytes width ((Range.signed width).read s.toList) :=
  encode_of_putInteger rfl (write_text h s)

/-- A text for a whole number meets the same fate as the number, whether it fits or not. -/
theorem encode_text_of_denotes (h : (type, width) ∈ integerTypes) {s : String} {n : Int64}
    (hs : Denotes s.toList n.toInt) : (text s).encode type = (int n).encode type := by
  rw [encode_text h, encode_int h, Range.read_of_denotes (holds_signed_zero width) hs]

theorem encode_text_intText (h : (type, width) ∈ integerTypes) (n : Int64) :
    (text (intText n.toInt)).encode type = (int n).encode type :=
  encode_text_of_denotes h (denotes_intText n.toInt)

theorem isOk_encode_int (h : (type, width) ∈ integerTypes) (n : Int64) :
    ((int n).encode type).isOk = true ↔ Fits width n.toInt := by
  rw [encode_int h, isOk_integerBytes, Range.isOk_fit, holds_signed_iff]

theorem isOk_encode_text (h : (type, width) ∈ integerTypes) (s : String) :
    ((text s).encode type).isOk = true ↔ ∃ k, Denotes s.toList k ∧ Fits width k := by
  rw [encode_text h, isOk_integerBytes, Range.isOk_read_iff (holds_signed_zero width)]
  simp only [holds_signed_iff]

theorem encode_int_of_fits (h : (type, width) ∈ integerTypes) {n : Int64}
    (hn : Fits width n.toInt) :
    (int n).encode type = .ok (some (twosComplement width n.toInt)) := by
  rw [encode_int h, Range.fit_of_holds (holds_signed_iff.mpr hn)]
  rfl

end IntegerType

/-- A text column holds the decimal form of a number that is bound to it. -/
theorem encode_int_decimal {type : ParamType} (h : type ∈ [ParamType.text, .varchar])
    (n : Int64) : (int n).encode type = .ok (some (Encoding.utf8 (intText n.toInt))) := by
  simp only [List.mem_cons, List.not_mem_nil, or_false] at h
  rcases h with rfl | rfl
  · exact encode_of_appends (appends_put _)
  · exact encode_of_appends (appends_put _)

theorem fromUTF8?_utf8 (s : String) :
    String.fromUTF8? ⟨(Encoding.utf8 s).toArray⟩ = some s := by
  rw [Encoding.utf8, Array.toArray_toList]
  exact dif_pos s.isValidUTF8

/-- A whole number is bound to an integer type if and only if it fits, and the bytes then are that
number. A text is bound if and only if it denotes a number that fits, and then like that number. So
is the decimal form of a number, which is also what the number is bound to a text column as. -/
theorem encode_integers {type : ParamType} {width : Nat} (h : (type, width) ∈ integerTypes) :
    (∀ n : Int64, ((int n).encode type).isOk = true ↔ Fits width n.toInt) ∧
      (∀ (n : Int64) result, (int n).encode type = .ok result →
        ∃ bytes, result = some bytes ∧ bytes.length = width ∧
          intOfTwosComplement bytes = n.toInt) ∧
      (∀ s : String, ((text s).encode type).isOk = true ↔
        ∃ k, Denotes s.toList k ∧ Fits width k) ∧
      (∀ (s : String) k, Denotes s.toList k → Fits width k →
        ∃ n : Int64, n.toInt = k ∧ (text s).encode type = (int n).encode type) ∧
      (∀ n : Int64, (text (intText n.toInt)).encode type = (int n).encode type) ∧
      ∀ n : Int64, ∃ decimal s bytes, (int n).encode .text = .ok (some decimal) ∧
        (int n).encode .varchar = .ok (some decimal) ∧
        String.fromUTF8? ⟨decimal.toArray⟩ = some s ∧
        (text s).encode .int8 = .ok (some bytes) ∧ (int n).encode .int8 = .ok (some bytes) := by
  refine ⟨isOk_encode_int h, ?_, isOk_encode_text h, ?_, encode_text_intText h, ?_⟩
  · intro n result hresult
    have hn : Fits width n.toInt := by
      rw [← isOk_encode_int h, hresult]
      rfl
    rw [encode_int_of_fits h hn] at hresult
    exact ⟨_, (Except.ok.inj hresult).symm, length_twosComplement width _,
      intOfTwosComplement_twosComplement (width_pos h) hn⟩
  · intro s k hs hk
    obtain ⟨n, rfl⟩ := exists_toInt (fits_widest h hk)
    exact ⟨n, rfl, encode_text_of_denotes h hs⟩
  · intro n
    have hwidest : (ParamType.int8, 8) ∈ integerTypes := by decide
    have hbytes := encode_int_of_fits hwidest (fits_toInt n)
    exact ⟨_, intText n.toInt, _, encode_int_decimal (by decide) n,
      encode_int_decimal (by decide) n, fromUTF8?_utf8 _,
      (encode_text_intText hwidest n).trans hbytes, hbytes⟩

theorem encode_integers_int2 :
    (ParamType.int2, 2) ∈ integerTypes ∧
      ((text "+0032767").encode .int2).isOk = true ∧
      ((int 32768).encode .int2).isOk = false ∧
      (text "-32768").encode .int2 = (int (-32768)).encode .int2 := by
  have hint2 : (ParamType.int2, 2) ∈ integerTypes := by decide
  obtain ⟨hint, -, htext, hlike, -⟩ := encode_integers hint2
  refine ⟨hint2, ?_, ?_, ?_⟩
  · rw [htext]
    exact ⟨32767, .plus (by decide) (by decide), by decide⟩
  · rw [Bool.eq_false_iff, ne_eq, hint]
    decide
  · have hdigits : natOfDigits? 0 "32768".toList = some 32768 := by decide
    obtain ⟨n, hn, hencode⟩ := hlike "-32768" _ (.minus (by decide) hdigits) (by decide)
    have hminimum : n = -32768 := Int64.toInt_inj.mp hn
    rwa [hminimum] at hencode

end Value

end PreparedSql
