import PreparedSql.Text.BigEndian
import PreparedSql.Value.Basic
import PreparedSql.Value.ParamType

/-!
# Encoding of bound values

The bytes that a value is sent as depend on the type of its placeholder. A whole number fits every
integer type that is wide enough and a text of digits is sent as the number it denotes; a pairing
that would change the value is refused. An encoding is written piece by piece behind what a buffer
holds, and what was written is not taken back.
-/
namespace PreparedSql

open PreparedSql.Ieee PreparedSql.Time PreparedSql.Text

inductive EncodingFault
  | mismatch (kind : String) (type : ParamType)
  | inexactInteger (n : Int64)
  | floatOutOfRange (x : Binary64)
  | integer (fault : Decimal.IntegerFault)
  | list
  deriving Repr

namespace EncodingFault

def message : EncodingFault → String
  | mismatch kind type => "cannot bind " ++ kind ++ " to parameter of type " ++ type.typeName
  | inexactInteger n => "Int " ++ Decimal.intText n.toInt ++ " is not exact as float8"
  | floatOutOfRange x => "Float " ++ x.text ++ " is out of range for float4"
  | integer fault => fault.message
  | list => "list values are only valid as IN operands"

end EncodingFault

/-- Writes behind what a buffer holds, or refuses to. The buffer keeps what was written before. -/
abbrev Encoder :=
  List UInt8 → Except EncodingFault Unit × List UInt8

namespace Encoder

def put (bytes : List UInt8) : Encoder :=
  fun buffer => (.ok (), buffer ++ bytes)

def refuse (fault : EncodingFault) : Encoder :=
  fun buffer => (.error fault, buffer)

def andThen (first second : Encoder) : Encoder :=
  fun buffer =>
    match first buffer with
    | (.ok (), written) => second written
    | (.error fault, written) => (.error fault, written)

/-- Writes a value of a kind that only some types accept as it is. -/
def putAs (kind : String) (accepts : ParamType → Bool) (type : ParamType) (write : Encoder) :
    Encoder :=
  if accepts type then write else refuse (.mismatch kind type)

/-- Writes an integer of a fixed width, if there is one. -/
def putInteger (width : Nat) : Except Decimal.IntegerFault Int → Encoder
  | .ok n => put (twosComplement width n)
  | .error fault => refuse (.integer fault)

end Encoder

namespace Encoding

open Encoder

/-- The greatest magnitude up to which binary64 holds every whole number. -/
def exactLimit : Nat := Nat.pow 2 53

/-- Seconds from 1970-01-01 to 2000-01-01. -/
def epochShift : Int := 946684800

/-- Microseconds since 2000-01-01, cut off towards that date. -/
def microseconds (t : Instant) : Int :=
  Int.tdiv ((t.seconds - epochShift) * 1000000000 + t.nanos) 1000

def utf8 (s : String) : List UInt8 :=
  s.toUTF8.data.toList

def int (n : Int64) (type : ParamType) : Encoder :=
  match type with
  | .int2 => putInteger 2 ((Decimal.Range.signed 2).fit n.toInt)
  | .int4 => putInteger 4 ((Decimal.Range.signed 4).fit n.toInt)
  | .float8 =>
    if n.toInt.natAbs ≤ exactLimit then put (bigEndian 8 (Binary64.ofInt n.toInt).bits.toNat)
    else refuse (.inexactInteger n)
  | .text | .varchar => put (utf8 (Decimal.intText n.toInt))
  | _ => putAs "Int" (· == .int8) type (put (twosComplement 8 n.toInt))

/-- Rounding to binary32 may lose digits, but no finite number may become infinite. -/
def float (x : Binary64) (type : ParamType) : Encoder :=
  match type with
  | .float4 =>
    if x.toBinary32.isInfinite && x.isFinite then refuse (.floatOutOfRange x)
    else put (bigEndian 4 x.toBinary32.bits.toNat)
  | _ => putAs "Float" (· == .float8) type (put (bigEndian 8 x.bits.toNat))

/-- A text for an integer type has to denote an integer of that type. -/
def text (s : String) (type : ParamType) : Encoder :=
  match type.integerWidth? with
  | some width => putInteger width ((Decimal.Range.signed width).read s.toList)
  | none => putAs "Text" ParamType.isString type (put (utf8 s))

/-- The binary form of a document is its text behind the number of the form. -/
def json (document : Json) (type : ParamType) : Encoder :=
  let content := put (utf8 document.print)
  putAs "Json" (fun t => t == .json || t == .jsonb) type
    (if type = .jsonb then (put [1]).andThen content else content)

end Encoding

namespace Value

open Encoder

/-- Writes what a value holds for a placeholder of the given type. NULL holds nothing. -/
def write (type : ParamType) : Value → Encoder
  | null => put []
  | bool b => putAs "Bool" (· == .bool) type (put [if b then 1 else 0])
  | int n => Encoding.int n type
  | float x => Encoding.float x type
  | text s => Encoding.text s type
  | timestamp t =>
    putAs "Timestamp" (fun t => t == .timestamp || t == .timestamptz) type
      (put (twosComplement 8 (Encoding.microseconds t)))
  | uuid u => putAs "Uuid" (· == .uuid) type (put u.bytes)
  | json document => Encoding.json document type
  | list _ => refuse .list

/-- The bytes of a value for a placeholder of the given type, or none for NULL. -/
def encode (type : ParamType) (v : Value) : Except EncodingFault (Option (List UInt8)) :=
  match v.write type [] with
  | (.ok (), bytes) => .ok (if v.isNull then none else some bytes)
  | (.error fault, _) => .error fault

/-- The outcome of appending a value to a buffer: whether it was NULL, and the buffer after it. -/
structure Appended where
  isNull : Except EncodingFault Bool
  buffer : List UInt8

def appendTo (buffer : List UInt8) (type : ParamType) (v : Value) : Appended :=
  let (result, written) := v.write type buffer
  ⟨result.map fun _ => v.isNull, written⟩

end Value

end PreparedSql
