/-!
# Parameter types

The type that the server expects of a placeholder. Only the types that some value can be bound to
are told apart; any other one has a name and nothing else.
-/
namespace PreparedSql

inductive ParamType
  | bool
  | int2
  | int4
  | int8
  | float4
  | float8
  | text
  | varchar
  | bpchar
  | fixedName
  | unknown
  | citext
  | timestamp
  | timestamptz
  | uuid
  | json
  | jsonb
  | other (typeName : String)
  deriving DecidableEq, Repr

namespace ParamType

def known : List ParamType :=
  [bool, int2, int4, int8, float4, float8, text, varchar, bpchar, fixedName, unknown, citext,
    timestamp, timestamptz, uuid, json, jsonb]

def typeName : ParamType → String
  | bool => "bool"
  | int2 => "int2"
  | int4 => "int4"
  | int8 => "int8"
  | float4 => "float4"
  | float8 => "float8"
  | text => "text"
  | varchar => "varchar"
  | bpchar => "bpchar"
  | fixedName => "name"
  | unknown => "unknown"
  | citext => "citext"
  | timestamp => "timestamp"
  | timestamptz => "timestamptz"
  | uuid => "uuid"
  | json => "json"
  | jsonb => "jsonb"
  | other typeName => typeName

def ofName (typeName : String) : ParamType :=
  (known.find? (·.typeName == typeName)).getD (other typeName)

def isString : ParamType → Bool
  | text | varchar | bpchar | fixedName | unknown | citext => true
  | _ => false

def integerWidth? : ParamType → Option Nat
  | int2 => some 2
  | int4 => some 4
  | int8 => some 8
  | _ => none

theorem ofName_typeName_of_known : ∀ t ∈ known, ofName t.typeName = t := by
  decide

end ParamType

end PreparedSql
