import PreparedSql.Error
import PreparedSql.Value.ParamType

/-!
# Rows

The rows that the server returns and the reading of their columns. A column is read as a type that
its own type fits exactly; NULL is only read as something optional.
-/
namespace PreparedSql

inductive Cell
  | null
  | bool (b : Bool)
  | int (n : Int64)
  | text (s : String)
  deriving DecidableEq, Repr

structure Column where
  name : String
  type : ParamType
  cell : Cell
  deriving DecidableEq, Repr

structure Row where
  columns : List Column
  deriving DecidableEq, Repr

/-- How cells are read as an `α`. -/
structure CellReader (α : Type) where
  accepts : ParamType → Bool
  read : Cell → Option α

namespace CellReader

variable {α : Type}

def bool : CellReader Bool where
  accepts := (· == .bool)
  read
    | .bool b => some b
    | _ => none

def integer (type : ParamType) (convert : Int64 → α) : CellReader α where
  accepts := (· == type)
  read
    | .int n => some (convert n)
    | _ => none

def int16 : CellReader Int16 := integer .int2 Int64.toInt16

def int32 : CellReader Int32 := integer .int4 Int64.toInt32

def int64 : CellReader Int64 := integer .int8 id

def string : CellReader String where
  accepts := ParamType.isString
  read
    | .text s => some s
    | _ => none

def optional (r : CellReader α) : CellReader (Option α) where
  accepts := r.accepts
  read
    | .null => some none
    | cell => (r.read cell).map some

end CellReader

namespace Row

variable {α : Type}

/-- The place of the first column with the given name, or else of the first one whose name differs
only in the case of ASCII letters. -/
def columnIndex? (row : Row) (name : String) : Option Nat :=
  (row.columns.findIdx? (·.name == name)).or
    (row.columns.findIdx? (·.name.toLower == name.toLower))

/-- Reads a column, known to the caller as `label`. -/
def readColumn (row : Row) (r : CellReader α) (label : String) (index : Option Nat) :
    Except Error α :=
  match index.bind fun i => row.columns[i]?.map (i, ·) with
  | none => .error (.decode label ("invalid column `" ++ label ++ "`"))
  | some (i, column) =>
    match if r.accepts column.type then r.read column.cell else none with
    | some a => .ok a
    | none => .error (.decode label ("error deserializing column " ++ Decimal.natText i))

def named (row : Row) (r : CellReader α) (name : String) : Except Error α :=
  row.readColumn r name (row.columnIndex? name)

def nth (row : Row) (r : CellReader α) (index : Nat) : Except Error α :=
  row.readColumn r (Decimal.natText index) (some index)

end Row

end PreparedSql
