import PreparedSql.Proofs.Value.Floats
import PreparedSql.Proofs.Value.Integers
import PreparedSql.Proofs.Value.Timestamps

/-!
# What values are bound to

Which bytes a value may be sent as is told by what they read as (`Value.Sent`). Every encoding that
is written is of these bytes, and every value that has such bytes is encoded. Only some types have
any for values of a kind, and all others refuse every value of that kind
(`Value.appendTo_all_or_nothing`).
-/
namespace PreparedSql.Value

open Decimal Encoder Ieee Text Time

def IsInteger (width : Nat) (n : Int) (bytes : List UInt8) : Prop :=
  bytes.length = width ∧ intOfTwosComplement bytes = n

def IsWord (width n : Nat) (bytes : List UInt8) : Prop :=
  bytes.length = width ∧ natOfBigEndian bytes = n

def IsText (s : String) (bytes : List UInt8) : Prop :=
  String.fromUTF8? ⟨bytes.toArray⟩ = some s

/-- The bytes of a float that is the whole number. Only a number below zero has the sign. -/
def IsWholeFloat (n : Int) (bytes : List UInt8) : Prop :=
  Binary64.valueOfBytes? bytes = some (n : ℚ) ∧ (2 ^ 63 ≤ natOfBigEndian bytes ↔ n < 0)

/-- The bytes that a value other than NULL may be sent as for a placeholder of the given type. -/
inductive Sent : Value → ParamType → List UInt8 → Prop
  | bool (b : Bool) : Sent (bool b) .bool [if b then 1 else 0]
  | integer {n : Int64} {type : ParamType} {width : Nat} {bytes : List UInt8}
      (htype : (type, width) ∈ integerTypes) (hfits : Fits width n.toInt)
      (hbytes : IsInteger width n.toInt bytes) : Sent (int n) type bytes
  | wholeFloat {n : Int64} {bytes : List UInt8} (hexact : n.toInt.natAbs ≤ 2 ^ 53)
      (hbytes : IsWholeFloat n.toInt bytes) : Sent (int n) .float8 bytes
  | decimal {n : Int64} {type : ParamType} {bytes : List UInt8}
      (htype : type ∈ [ParamType.text, .varchar]) (hbytes : IsText (intText n.toInt) bytes) :
      Sent (int n) type bytes
  | float8 {x : Binary64} {bytes : List UInt8} (hbytes : IsWord 8 x.bits.toNat bytes) :
      Sent (float x) .float8 bytes
  /-- The nearest binary32 number, which must not be infinite if the number is not. -/
  | float4 {x : Binary64} {bytes : List UInt8}
      (hrange : ¬ (x.toBinary32.isInfinite = true ∧ x.isFinite = true))
      (hbytes : IsWord 4 x.toBinary32.bits.toNat bytes) : Sent (float x) .float4 bytes
  | digits {s : String} {k : Int} {type : ParamType} {width : Nat} {bytes : List UInt8}
      (htype : (type, width) ∈ integerTypes) (hdenotes : Denotes s.toList k)
      (hfits : Fits width k) (hbytes : IsInteger width k bytes) : Sent (text s) type bytes
  | text {s : String} {type : ParamType} {bytes : List UInt8}
      (htype : type ∈ [ParamType.text, .varchar, .bpchar, .fixedName, .unknown, .citext])
      (hbytes : IsText s bytes) : Sent (text s) type bytes
  | timestamp {t : Instant} {type : ParamType} {bytes : List UInt8}
      (htype : type ∈ [ParamType.timestamp, .timestamptz])
      (hbytes : IsInteger 8 (t.sinceMillennium.tdiv 1000) bytes) : Sent (timestamp t) type bytes
  | uuid (u : Uuid) : Sent (uuid u) .uuid u.bytes
  | json {document : Json} {bytes : List UInt8} (hbytes : IsText document.print bytes) :
      Sent (json document) .json bytes
  /-- The number of the form stands in front of the text. -/
  | jsonb {document : Json} {bytes : List UInt8} (hbytes : IsText document.print bytes) :
      Sent (json document) .jsonb (1 :: bytes)

theorem isInteger_twosComplement {width : Nat} {n : Int} (hwidth : 0 < width)
    (h : Fits width n) : IsInteger width n (twosComplement width n) :=
  ⟨length_twosComplement width n, intOfTwosComplement_twosComplement hwidth h⟩

theorem isWord_bigEndian {width n : Nat} (h : n < 256 ^ width) :
    IsWord width n (bigEndian width n) := by
  refine ⟨length_bigEndian width n, ?_⟩
  rw [natOfBigEndian_bigEndian]
  exact Nat.mod_eq_of_lt h

theorem isWholeFloat_ofInt {n : Int} (h : n.natAbs ≤ 2 ^ 53) :
    IsWholeFloat n (bigEndian 8 (Binary64.ofInt n).bits.toNat) := by
  obtain ⟨-, hnegative, -⟩ := Binary64.ofInt_exact h
  have hword : IsWord 8 _ _ := isWord_bigEndian (Binary64.ofInt n).bits.toNat_lt
  refine ⟨?_, ?_⟩
  · rw [Binary64.valueOfBytes?_bigEndian, Binary64.valueOfWord?_ofInt h]
  · rw [hword.2, ← decide_eq_true_iff (p := n < 0), ← hnegative]
    exact decide_eq_true_iff.symm

/-- The types for which values of the same kind are encoded. NULL is encoded for every type. -/
def encodedTypes : Value → List ParamType
  | null => []
  | bool _ => [.bool]
  | int _ => [.int2, .int4, .int8, .float8, .text, .varchar]
  | float _ => [.float4, .float8]
  | text _ => [.int2, .int4, .int8, .text, .varchar, .bpchar, .fixedName, .unknown, .citext]
  | timestamp _ => [.timestamp, .timestamptz]
  | uuid _ => [.uuid]
  | json _ => [.json, .jsonb]
  | list _ => []

def kindName : Value → String
  | null => "Null"
  | bool _ => "Bool"
  | int _ => "Int"
  | float _ => "Float"
  | text _ => "Text"
  | timestamp _ => "Timestamp"
  | uuid _ => "Uuid"
  | json _ => "Json"
  | list _ => "List"

def refusal (type : ParamType) (v : Value) : EncodingFault :=
  if v.isList then .list else .mismatch v.kindName type

theorem refuses_int {n : Int64} {type : ParamType} (h : type ∉ (int n).encodedTypes) :
    (Encoding.int n type).Refuses (.mismatch "Int" type) := by
  unfold Encoding.int
  split
  · simp [encodedTypes] at h
  · simp [encodedTypes] at h
  · simp [encodedTypes] at h
  · simp [encodedTypes] at h
  · simp [encodedTypes] at h
  · apply refuses_putAs
    simp_all [encodedTypes]

theorem refuses_float {x : Ieee.Binary64} {type : ParamType}
    (h : type ∉ (float x).encodedTypes) :
    (Encoding.float x type).Refuses (.mismatch "Float" type) := by
  unfold Encoding.float
  split
  · simp [encodedTypes] at h
  · apply refuses_putAs
    simp_all [encodedTypes]

theorem refuses_text {s : String} {type : ParamType} (h : type ∉ (text s).encodedTypes) :
    (Encoding.text s type).Refuses (.mismatch "Text" type) := by
  have hwidth : type.integerWidth? = none := by
    cases type <;> first | rfl | simp [encodedTypes] at h
  have hstring : type.isString = false := by
    cases type <;> first | rfl | simp [encodedTypes] at h
  rw [Encoding.text, hwidth]
  exact refuses_putAs hstring

theorem refuses_of_notMem {type : ParamType} {v : Value} (hv : v ≠ null)
    (h : type ∉ v.encodedTypes) : (v.write type).Refuses (v.refusal type) := by
  cases v with
  | null => exact absurd rfl hv
  | int n => exact refuses_int h
  | float x => exact refuses_float h
  | text s => exact refuses_text h
  | list items => exact refuses_refuse _
  | bool b =>
    rw [write]
    exact refuses_putAs (by simpa [encodedTypes] using h)
  | timestamp t =>
    rw [write]
    exact refuses_putAs (by simpa [encodedTypes] using h)
  | uuid u =>
    rw [write]
    exact refuses_putAs (by simpa [encodedTypes] using h)
  | json document =>
    rw [write, Encoding.json]
    exact refuses_putAs (by simpa [encodedTypes] using h)

def sample : Value → Value
  | int _ => int 0
  | float _ => float ⟨0x7FF0000000000000⟩
  | text _ => text "0"
  | v => v

theorem kindName_sample (v : Value) : v.sample.kindName = v.kindName := by
  cases v <;> rfl

theorem exists_appends_sample {type : ParamType} {v : Value} (h : type ∈ v.encodedTypes) :
    ∃ bytes, (v.sample.write type).Appends bytes := by
  cases v with
  | null => cases h
  | list items => cases h
  | json document =>
    simp only [encodedTypes, List.mem_cons, List.not_mem_nil, or_false] at h
    rcases h with rfl | rfl
    · exact ⟨_, appends_put _⟩
    · exact ⟨_, (appends_put [1]).andThen (appends_put _)⟩
  | _ =>
    simp only [encodedTypes, List.mem_cons, List.not_mem_nil, or_false] at h
    rcases h with rfl | rfl | rfl | rfl | rfl | rfl | rfl | rfl | rfl
    all_goals exact ⟨_, fun _ => rfl⟩

section Sent

variable {type : ParamType} {bytes : List UInt8}

theorem mem_integerTypes :
    (.int2, 2) ∈ integerTypes ∧ (.int4, 4) ∈ integerTypes ∧ (.int8, 8) ∈ integerTypes := by
  decide

theorem mem_encodedTypes_of_appends {v : Value} (hv : v ≠ null)
    (h : (v.write type).Appends bytes) : type ∈ v.encodedTypes := by
  by_contra hother
  exact (refuses_of_notMem hv hother).not_appends h

theorem sent_int_of_integerType {width : Nat} (htype : (type, width) ∈ integerTypes) {n : Int64}
    (h : ((int n).write type).Appends bytes) : (int n).Sent type bytes := by
  rw [write_int htype, appends_putInteger_iff] at h
  obtain ⟨m, hfit, rfl⟩ := h
  obtain ⟨rfl, hholds⟩ := Range.fit_eq_ok_iff.mp hfit
  have hfits := holds_signed_iff.mp hholds
  exact .integer htype hfits (isInteger_twosComplement (width_pos htype) hfits)

theorem sent_text_of_integerType {width : Nat} (htype : (type, width) ∈ integerTypes) {s : String}
    (h : ((text s).write type).Appends bytes) : (text s).Sent type bytes := by
  rw [write_text htype, appends_putInteger_iff] at h
  obtain ⟨m, hread, rfl⟩ := h
  obtain ⟨k, hdenotes⟩ := Range.exists_denotes_of_read hread
  rw [Range.read_of_denotes (holds_signed_zero width) hdenotes] at hread
  obtain ⟨rfl, hholds⟩ := Range.fit_eq_ok_iff.mp hread
  have hfits := holds_signed_iff.mp hholds
  exact .digits htype hdenotes hfits (isInteger_twosComplement (width_pos htype) hfits)

theorem sent_int_float8 {n : Int64} (h : ((int n).write .float8).Appends bytes) :
    (int n).Sent .float8 bytes := by
  by_cases hexact : n.toInt.natAbs ≤ 2 ^ 53
  · have hwrite : (int n).write .float8 =
        put (bigEndian 8 (Binary64.ofInt n.toInt).bits.toNat) := if_pos hexact
    rw [hwrite] at h
    rw [h.unique (appends_put _)]
    exact .wholeFloat hexact (isWholeFloat_ofInt hexact)
  · have hwrite : (int n).write .float8 = refuse (.inexactInteger n) := if_neg hexact
    rw [hwrite] at h
    exact absurd h (refuses_refuse _).not_appends

theorem sent_float4 {x : Binary64} (h : ((float x).write .float4).Appends bytes) :
    (float x).Sent .float4 bytes := by
  rw [write, Encoding.float] at h
  split at h
  · exact absurd h (refuses_refuse _).not_appends
  · next hrange =>
    rw [Bool.and_eq_true] at hrange
    rw [h.unique (appends_put _)]
    exact .float4 hrange (isWord_bigEndian x.toBinary32.bits.toNat_lt)

theorem sent_int {n : Int64} (htype : type ∈ (int n).encodedTypes)
    (h : ((int n).write type).Appends bytes) : (int n).Sent type bytes := by
  simp only [encodedTypes, List.mem_cons, List.not_mem_nil, or_false] at htype
  rcases htype with rfl | rfl | rfl | rfl | rfl | rfl
  · exact sent_int_of_integerType mem_integerTypes.1 h
  · exact sent_int_of_integerType mem_integerTypes.2.1 h
  · exact sent_int_of_integerType mem_integerTypes.2.2 h
  · exact sent_int_float8 h
  · rw [h.unique (appends_put _)]
    exact .decimal (by decide) (fromUTF8?_utf8 _)
  · rw [h.unique (appends_put _)]
    exact .decimal (by decide) (fromUTF8?_utf8 _)

theorem sent_text {s : String} (htype : type ∈ (text s).encodedTypes)
    (h : ((text s).write type).Appends bytes) : (text s).Sent type bytes := by
  simp only [encodedTypes, List.mem_cons, List.not_mem_nil, or_false] at htype
  rcases htype with rfl | rfl | rfl | hstring
  · exact sent_text_of_integerType mem_integerTypes.1 h
  · exact sent_text_of_integerType mem_integerTypes.2.1 h
  · exact sent_text_of_integerType mem_integerTypes.2.2 h
  · have hutf8 : bytes = Encoding.utf8 s := by
      rcases hstring with rfl | rfl | rfl | rfl | rfl | rfl
      all_goals exact h.unique (appends_put _)
    rw [hutf8]
    exact .text (by simpa using hstring) (fromUTF8?_utf8 s)

theorem sent_timestamp {t : Instant} (htype : type ∈ (timestamp t).encodedTypes)
    (h : ((timestamp t).write type).Appends bytes) : (timestamp t).Sent type bytes := by
  have hbytes : bytes = twosComplement 8 (Encoding.microseconds t) := by
    simp only [encodedTypes, List.mem_cons, List.not_mem_nil, or_false] at htype
    rcases htype with rfl | rfl
    · exact h.unique (appends_put _)
    · exact h.unique (appends_put _)
  have hfits := (Encoding.fits_microseconds t).2
  rw [hbytes]
  rw [Encoding.microseconds_eq] at hfits ⊢
  exact .timestamp htype (isInteger_twosComplement (by decide) hfits)

/-- Whatever is written reads as it should. -/
theorem sent_of_appends {v : Value} (hv : v ≠ null) (h : (v.write type).Appends bytes) :
    v.Sent type bytes := by
  have htype := mem_encodedTypes_of_appends hv h
  cases v with
  | null => exact absurd rfl hv
  | list items => cases htype
  | int n => exact sent_int htype h
  | text s => exact sent_text htype h
  | timestamp t => exact sent_timestamp htype h
  | bool b =>
    obtain rfl := List.mem_singleton.mp htype
    rw [h.unique (appends_put _)]
    exact .bool b
  | float x =>
    simp only [encodedTypes, List.mem_cons, List.not_mem_nil, or_false] at htype
    rcases htype with rfl | rfl
    · exact sent_float4 h
    · rw [h.unique (appends_put _)]
      exact .float8 (isWord_bigEndian x.bits.toNat_lt)
  | uuid u =>
    obtain rfl := List.mem_singleton.mp htype
    rw [h.unique (appends_put _)]
    exact .uuid u
  | json document =>
    simp only [encodedTypes, List.mem_cons, List.not_mem_nil, or_false] at htype
    rcases htype with rfl | rfl
    · rw [h.unique (appends_put _)]
      exact .json (fromUTF8?_utf8 _)
    · rw [h.unique ((appends_put [1]).andThen (appends_put _))]
      exact .jsonb (fromUTF8?_utf8 _)

/-- A value that may be sent is written. -/
theorem exists_appends_of_sent {v : Value} (h : v.Sent type bytes) :
    ∃ written, (v.write type).Appends written := by
  cases h with
  | @integer n _ width _ htype hfits =>
    refine ⟨twosComplement width n.toInt, ?_⟩
    rw [write_int htype, Range.fit_of_holds (holds_signed_iff.mpr hfits)]
    exact appends_put _
  | @digits s k _ width _ htype hdenotes hfits =>
    refine ⟨twosComplement width k, ?_⟩
    rw [write_text htype, Range.read_of_denotes (holds_signed_zero _) hdenotes,
      Range.fit_of_holds (holds_signed_iff.mpr hfits)]
    exact appends_put _
  | @wholeFloat n _ hexact =>
    have hwrite : (int n).write .float8 =
        put (bigEndian 8 (Binary64.ofInt n.toInt).bits.toNat) := if_pos hexact
    exact ⟨_, hwrite ▸ appends_put _⟩
  | @float4 x _ hrange =>
    rw [← Bool.and_eq_true] at hrange
    have hwrite : (float x).write .float4 = put (bigEndian 4 x.toBinary32.bits.toNat) :=
      if_neg hrange
    exact ⟨_, hwrite ▸ appends_put _⟩
  | jsonb => exact ⟨_, (appends_put [1]).andThen (appends_put _)⟩
  | decimal htype =>
    simp only [List.mem_cons, List.not_mem_nil, or_false] at htype
    rcases htype with rfl | rfl
    all_goals exact ⟨_, appends_put _⟩
  | text htype =>
    simp only [List.mem_cons, List.not_mem_nil, or_false] at htype
    rcases htype with rfl | rfl | rfl | rfl | rfl | rfl
    all_goals exact ⟨_, appends_put _⟩
  | timestamp htype =>
    simp only [List.mem_cons, List.not_mem_nil, or_false] at htype
    rcases htype with rfl | rfl
    all_goals exact ⟨_, appends_put _⟩
  | _ => exact ⟨_, appends_put _⟩

end Sent

variable (buffer : List UInt8) (type : ParamType) (v : Value)

/-- NULL is written as nothing, any other value as bytes that read as it, or nothing is written. -/
theorem appendTo_cases :
    (v = null ∧ v.appendTo buffer type = ⟨.ok true, buffer⟩ ∧ v.encode type = .ok none) ∨
      (∃ bytes, v.Sent type bytes ∧ v.appendTo buffer type = ⟨.ok false, buffer ++ bytes⟩ ∧
        v.encode type = .ok (some bytes)) ∨
      ∃ fault, (v ≠ null ∧ ∀ bytes, ¬ v.Sent type bytes) ∧
        v.appendTo buffer type = ⟨.error fault, buffer⟩ ∧ v.encode type = .error fault := by
  by_cases hv : v = null
  · subst hv
    refine .inl ⟨rfl, ?_, rfl⟩
    have hnothing : (null.write type).Appends [] := appends_put []
    rw [appendTo_of_appends hnothing, List.append_nil]
    rfl
  · have hnull : v.isNull = false := by
      rw [Bool.eq_false_iff]
      exact fun h => hv (eq_null_of_isNull h)
    obtain ⟨bytes, hbytes⟩ | ⟨fault, hfault⟩ := v.allOrNothing_write type
    · refine .inr (.inl ⟨bytes, sent_of_appends hv hbytes, ?_, ?_⟩)
      · rw [appendTo_of_appends hbytes, hnull]
      · rw [encode_of_appends hbytes, hnull]
        rfl
    · refine .inr (.inr ⟨fault, ⟨hv, fun bytes hsent => ?_⟩, appendTo_of_refuses hfault buffer,
        encode_of_refuses hfault⟩)
      obtain ⟨written, hwritten⟩ := exists_appends_of_sent hsent
      exact hfault.not_appends hwritten

variable {type v}

theorem isNull_appendTo_of_notMem (hv : v ≠ null) (h : type ∉ v.encodedTypes) :
    (v.appendTo buffer type).isNull = .error (v.refusal type) := by
  rw [appendTo_of_refuses (refuses_of_notMem hv h)]

theorem exists_appendTo_of_mem (h : type ∈ v.encodedTypes) :
    ∃ w : Value, w.kindName = v.kindName ∧ (w.appendTo buffer type).isNull = .ok false := by
  obtain ⟨bytes, hbytes⟩ := exists_appends_sample h
  refine ⟨v.sample, kindName_sample v, ?_⟩
  rw [appendTo_of_appends hbytes]
  cases v with
  | null => cases h
  | _ => rfl

/-- Appending to a buffer either fails and leaves the buffer as it was, or keeps what it held and
puts the encoding behind it: nothing for NULL, and bytes that read as the value for any other. It
succeeds just if there are such bytes, so that neither this nor the encoding depends on the buffer.
A type outside those of the kind is refused for every value of the kind, and each of those is
encoded for some value of it. -/
theorem appendTo_all_or_nothing (buffer : List UInt8) (type : ParamType) (v : Value) :
    let outcome := v.appendTo buffer type
    (match outcome.isNull with
      | .ok true => outcome.buffer = buffer ∧ v.encode type = .ok none
      | .ok false => ∃ bytes, v.Sent type bytes ∧ outcome.buffer = buffer ++ bytes ∧
        v.encode type = .ok (some bytes)
      | .error fault => outcome.buffer = buffer ∧ v.encode type = .error fault) ∧
    (outcome.isNull = .ok true ↔ v = null) ∧
    (outcome.isNull = .ok false ↔ ∃ bytes, v.Sent type bytes) ∧
    (v ≠ null → type ∉ v.encodedTypes → outcome.isNull = .error (v.refusal type)) ∧
    (type ∈ v.encodedTypes →
      ∃ w : Value, w.kindName = v.kindName ∧ (w.appendTo buffer type).isNull = .ok false) := by
  have hrefusal : v ≠ null → type ∉ v.encodedTypes →
      (v.appendTo buffer type).isNull = .error (v.refusal type) :=
    isNull_appendTo_of_notMem buffer
  intro outcome
  refine ⟨?_, ?_, ?_, hrefusal, exists_appendTo_of_mem buffer⟩
  all_goals
    obtain ⟨rfl, happend, hencode⟩ | ⟨bytes, hsent, happend, hencode⟩ |
      ⟨fault, ⟨hv, hnone⟩, happend, hencode⟩ := v.appendTo_cases buffer type
    all_goals rw [show outcome = _ from happend]
  · exact ⟨rfl, hencode⟩
  · exact ⟨bytes, hsent, rfl, hencode⟩
  · exact ⟨rfl, hencode⟩
  · exact iff_of_true rfl rfl
  · apply iff_of_false nofun
    rintro rfl
    cases hsent
  · exact iff_of_false nofun hv
  · exact iff_of_false nofun fun ⟨_, hsent⟩ => nomatch hsent
  · exact iff_of_true rfl ⟨bytes, hsent⟩
  · exact iff_of_false nofun fun ⟨bytes, hsent⟩ => hnone bytes hsent

end PreparedSql.Value
