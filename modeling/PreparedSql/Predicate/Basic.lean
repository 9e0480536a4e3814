import PreparedSql.Fault
import PreparedSql.Value.Basic

/-!
# Predicates

The condition of a WHERE clause: a comparison of a column, or a group of conditions connected by AND
or OR. A clause starts from the empty predicate, which can be grown but not written.
-/
namespace PreparedSql

/-- What a column is compared with: a value, or SQL that is written as it is. -/
inductive Operand
  | bound (v : Value)
  | raw (sql : String)
  deriving Repr

structure Leaf where
  column : String
  comparison : Comparison
  operand : Operand
  deriving Repr

inductive Predicate
  | empty
  | leaf (l : Leaf)
  | group (connective : Connective) (children : List Predicate)
  deriving Repr

namespace Operand

def isRaw : Operand → Bool
  | raw _ => true
  | bound _ => false

def beq : Operand → Operand → Bool
  | bound a, bound b => a == b
  | raw a, raw b => a == b
  | _, _ => false

instance : BEq Operand := ⟨beq⟩

end Operand

namespace Leaf

def beq (a b : Leaf) : Bool :=
  a.column == b.column && a.comparison == b.comparison && a.operand == b.operand

instance : BEq Leaf := ⟨beq⟩

end Leaf

namespace Predicate

def field (column : String) (comparison : Comparison) (v : Value) : Predicate :=
  .leaf ⟨column, comparison, .bound v⟩

def raw (column : String) (comparison : Comparison) (sql : String) : Predicate :=
  .leaf ⟨column, comparison, .raw sql⟩

def isIn (column : String) (values : List Value) : Predicate :=
  field column .within (.list values)

def isEmpty : Predicate → Bool
  | empty => true
  | _ => false

mutual

def beq : Predicate → Predicate → Bool
  | empty, empty => true
  | leaf a, leaf b => a == b
  | group c as, group d bs => c == d && beqChildren as bs
  | _, _ => false

def beqChildren : List Predicate → List Predicate → Bool
  | [], [] => true
  | a :: as, b :: bs => beq a b && beqChildren as bs
  | _, _ => false

end

instance : BEq Predicate := ⟨beq⟩

end Predicate

end PreparedSql
