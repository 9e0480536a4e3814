import PreparedSql.Value.Encoding

/-!
# Encodings in a buffer

An encoding is refused before any of it is written, or all of it is written behind what the buffer
holds (`Value.allOrNothing_write`).
-/
namespace PreparedSql

open Text

namespace Encoder

/-- Writes the same bytes behind whatever a buffer holds. -/
def Appends (w : Encoder) (bytes : List UInt8) : Prop :=
  ∀ buffer, w buffer = (.ok (), buffer ++ bytes)

def Refuses (w : Encoder) (fault : EncodingFault) : Prop :=
  ∀ buffer, w buffer = (.error fault, buffer)

def AllOrNothing (w : Encoder) : Prop :=
  (∃ bytes, w.Appends bytes) ∨ ∃ fault, w.Refuses fault

variable {w later : Encoder}

theorem appends_put (bytes : List UInt8) : (put bytes).Appends bytes :=
  fun _ => rfl

theorem refuses_refuse (fault : EncodingFault) : (refuse fault).Refuses fault :=
  fun _ => rfl

/-- Of two parts the second must not be refused, for the first has been written by then. -/
theorem Appends.andThen {front back : List UInt8} (h : w.Appends front)
    (hlater : later.Appends back) :
    (w.andThen later).Appends (front ++ back) := by
  intro buffer
  rw [Encoder.andThen, h buffer]
  simp only
  rw [hlater, List.append_assoc]

theorem Appends.unique {bytes bytes' : List UInt8} (h : w.Appends bytes) (h' : w.Appends bytes') :
    bytes = bytes' :=
  congrArg Prod.snd ((h []).symm.trans (h' []))

theorem Refuses.not_appends {fault : EncodingFault} {bytes : List UInt8} (h : w.Refuses fault) :
    ¬ w.Appends bytes := by
  intro happends
  cases congrArg Prod.fst ((h []).symm.trans (happends []))

theorem appends_putInteger_iff {width : Nat} {result : Except Decimal.IntegerFault Int}
    {bytes : List UInt8} :
    (putInteger width result).Appends bytes ↔
      ∃ n, result = .ok n ∧ bytes = twosComplement width n := by
  cases result with
  | ok n =>
    constructor
    · intro h
      exact ⟨n, rfl, h.unique (appends_put _)⟩
    · rintro ⟨m, hm, rfl⟩
      obtain rfl : n = m := Except.ok.inj hm
      exact appends_put _
  | error fault =>
    constructor
    · intro h
      exact absurd h (refuses_refuse _).not_appends
    · rintro ⟨m, hm, -⟩
      cases hm

theorem allOrNothing_put (bytes : List UInt8) : (put bytes).AllOrNothing :=
  .inl ⟨bytes, appends_put bytes⟩

theorem allOrNothing_refuse (fault : EncodingFault) : (refuse fault).AllOrNothing :=
  .inr ⟨fault, refuses_refuse fault⟩

theorem refuses_putAs {kind : String} {accepts : ParamType → Bool} {type : ParamType}
    (h : accepts type = false) : (putAs kind accepts type w).Refuses (.mismatch kind type) := by
  rw [putAs, h]
  exact refuses_refuse _

theorem allOrNothing_putAs (kind : String) (accepts : ParamType → Bool) (type : ParamType)
    (h : w.AllOrNothing) : (putAs kind accepts type w).AllOrNothing := by
  rw [putAs]
  split
  · exact h
  · exact allOrNothing_refuse _

theorem allOrNothing_putInteger (width : Nat) (result : Except Decimal.IntegerFault Int) :
    (putInteger width result).AllOrNothing := by
  cases result with
  | ok n => exact allOrNothing_put _
  | error fault => exact allOrNothing_refuse _

end Encoder

namespace Encoding

open Encoder

theorem allOrNothing_int (n : Int64) (type : ParamType) : (int n type).AllOrNothing := by
  unfold int
  split
  · exact allOrNothing_putInteger _ _
  · exact allOrNothing_putInteger _ _
  · split
    · exact allOrNothing_put _
    · exact allOrNothing_refuse _
  · exact allOrNothing_put _
  · exact allOrNothing_put _
  · exact allOrNothing_putAs _ _ _ (allOrNothing_put _)

theorem allOrNothing_float (x : Ieee.Binary64) (type : ParamType) :
    (float x type).AllOrNothing := by
  unfold float
  split
  · split
    · exact allOrNothing_refuse _
    · exact allOrNothing_put _
  · exact allOrNothing_putAs _ _ _ (allOrNothing_put _)

theorem allOrNothing_text (s : String) (type : ParamType) : (text s type).AllOrNothing := by
  unfold text
  split
  · exact allOrNothing_putInteger _ _
  · exact allOrNothing_putAs _ _ _ (allOrNothing_put _)

theorem allOrNothing_json (document : Json) (type : ParamType) :
    (json document type).AllOrNothing := by
  rw [json]
  apply allOrNothing_putAs
  split
  · -- nothing can fail behind the number of the form
    exact .inl ⟨_, (appends_put [1]).andThen (appends_put _)⟩
  · exact allOrNothing_put _

end Encoding

namespace Value

open Encoder

/-- Whether a value is encoded is decided before any of it is written. -/
theorem allOrNothing_write (type : ParamType) (v : Value) : (v.write type).AllOrNothing := by
  cases v with
  | null => exact allOrNothing_put []
  | int n => exact Encoding.allOrNothing_int n type
  | float x => exact Encoding.allOrNothing_float x type
  | text s => exact Encoding.allOrNothing_text s type
  | json document => exact Encoding.allOrNothing_json document type
  | list items => exact allOrNothing_refuse _
  | bool b =>
    rw [write]
    exact allOrNothing_putAs _ _ _ (allOrNothing_put _)
  | timestamp t =>
    rw [write]
    exact allOrNothing_putAs _ _ _ (allOrNothing_put _)
  | uuid u =>
    rw [write]
    exact allOrNothing_putAs _ _ _ (allOrNothing_put _)

section Outcome

variable {v : Value} {type : ParamType}

theorem encode_of_appends {bytes : List UInt8} (h : (v.write type).Appends bytes) :
    v.encode type = .ok (if v.isNull then none else some bytes) := by
  rw [encode, h []]
  rfl

theorem encode_of_refuses {fault : EncodingFault} (h : (v.write type).Refuses fault) :
    v.encode type = .error fault := by
  rw [encode, h []]

theorem appendTo_of_appends {bytes : List UInt8} (h : (v.write type).Appends bytes)
    (buffer : List UInt8) : v.appendTo buffer type = ⟨.ok v.isNull, buffer ++ bytes⟩ := by
  rw [appendTo, h buffer]
  rfl

theorem appendTo_of_refuses {fault : EncodingFault} (h : (v.write type).Refuses fault)
    (buffer : List UInt8) : v.appendTo buffer type = ⟨.error fault, buffer⟩ := by
  rw [appendTo, h buffer]
  rfl

theorem eq_null_of_isNull (h : v.isNull = true) : v = null := by
  cases v with
  | null => rfl
  | _ => cases h

end Outcome

end Value

end PreparedSql
