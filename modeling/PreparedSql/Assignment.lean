import PreparedSql.Fragment

/-!
# Assignments

What is written into the columns of a row: a value, or SQL that is written as it is and has no
placeholder. A column may be assigned twice. An INSERT writes the columns and what they get as two
lists, an update as one list of pairs.
-/
namespace PreparedSql

inductive FieldValue
  | bound (v : Value)
  | raw (sql : String)
  deriving Repr

namespace FieldValue

def beq : FieldValue → FieldValue → Bool
  | bound a, bound b => a == b
  | raw a, raw b => a == b
  | _, _ => false

instance : BEq FieldValue := ⟨beq⟩

def render (base : Nat) : FieldValue → Fragment
  | bound v => .ofValue base v
  | raw sql => .ofText sql

/-- The value that the row proposed for insertion has in `column`. -/
def excluded (column : String) : FieldValue :=
  raw ("EXCLUDED." ++ column)

end FieldValue

structure Assignment where
  column : String
  value : FieldValue
  deriving Repr

namespace Assignment

/-- The texts `column = value`, with the values of their placeholders. -/
def pairs (base : Nat) : List Assignment → List String × List Value
  | [] => ([], [])
  | a :: rest =>
    let value := a.value.render base
    let (texts, args) := pairs (base + value.args.length) rest
    ((a.column ++ " = " ++ value.sql) :: texts, value.args ++ args)

def renderPairs (base : Nat) (assignments : List Assignment) : Fragment :=
  let (texts, args) := pairs base assignments
  ⟨", ".intercalate texts, args⟩

/-- What the columns get, in the order of the columns. -/
def values (base : Nat) : List Assignment → List String × List Value
  | [] => ([], [])
  | a :: rest =>
    let value := a.value.render base
    let (texts, args) := values (base + value.args.length) rest
    (value.sql :: texts, value.args ++ args)

/-- The columns of an INSERT and what they get. -/
def renderColumns (base : Nat) (assignments : List Assignment) : Fragment :=
  let (texts, args) := values base assignments
  ⟨"(" ++ ", ".intercalate (assignments.map Assignment.column) ++ ") VALUES (" ++
    ", ".intercalate texts ++ ")", args⟩

end Assignment

end PreparedSql
