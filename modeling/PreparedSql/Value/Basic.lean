import PreparedSql.Json.Printer
import PreparedSql.Time.Instant
import PreparedSql.Uuid

/-!
# Bound values

A value stands behind a placeholder of a statement and never in its text. A list is no value of its
own there: it spells out the operands of a membership test.
-/
namespace PreparedSql

open PreparedSql.Ieee PreparedSql.Time

inductive Value
  | null
  | bool (b : Bool)
  | int (n : Int64)
  | float (x : Binary64)
  | text (s : String)
  | timestamp (t : Instant)
  | uuid (u : Uuid)
  | json (document : Json)
  | list (items : List Value)
  deriving Repr

namespace Value

def isNull : Value → Bool
  | null => true
  | _ => false

def isList : Value → Bool
  | list _ => true
  | _ => false

mutual

/-- The text of a value for people to read; it does not tell a value's kind. -/
def display : Value → String
  | null => "NULL"
  | bool true => "true"
  | bool false => "false"
  | int n => Decimal.intText n.toInt
  | float x => x.text
  | text s => s
  | timestamp t => t.text
  | uuid u => String.ofList u.text
  | json document => document.print
  | list items => "[" ++ ", ".intercalate (displayItems items) ++ "]"

def displayItems : List Value → List String
  | [] => []
  | item :: items => display item :: displayItems items

end

mutual

/-- Values of different kinds differ; numbers with a fraction are compared as numbers. -/
def beq : Value → Value → Bool
  | null, null => true
  | bool a, bool b => a == b
  | int a, int b => a == b
  | float a, float b => a == b
  | text a, text b => a == b
  | timestamp a, timestamp b => a == b
  | uuid a, uuid b => a == b
  | json a, json b => a == b
  | list as, list bs => beqItems as bs
  | _, _ => false

def beqItems : List Value → List Value → Bool
  | [], [] => true
  | a :: as, b :: bs => beq a b && beqItems as bs
  | _, _ => false

end

instance : BEq Value := ⟨beq⟩

end Value

end PreparedSql
