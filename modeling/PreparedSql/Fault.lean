import PreparedSql.Comparison
import PreparedSql.Decimal.Integer

/-!
# Faults of statements

Everything for which a statement is refused before it is sent. A fault mentions tables, columns and
page coordinates but never a bound value.
-/
namespace PreparedSql

/-- How the parts of a group are connected. -/
inductive Connective
  | and
  | or
  deriving DecidableEq, Repr

namespace Connective

def groupName : Connective → String
  | and => "And"
  | or => "Or"

def separator : Connective → String
  | and => " AND "
  | or => " OR "

end Connective

inductive Fault
  | selectWithoutTable
  | selectWithoutColumn (table : String)
  | insertWithoutField (table : String)
  | updateWithoutField (table : String)
  | deleteWithoutTable
  | joinWithoutTable
  | windowWithoutBound
  | negativeMaxCount (n : Int64)
  | negativeStartIndex (n : Int64)
  | callWithoutFunction
  | returningWithoutColumn
  | conflictWithoutTarget
  | conflictWithoutField
  | negativePageIndex (n : Int64)
  | pageSizeBelowOne (n : Int64)
  | rowOffsetOverflow (pageIndex pageSize : Int64)
  | emptyPredicate
  | shortGroup (connective : Connective) (count : Nat)
  | unsupportedComparison (comparison : Comparison)
  | nullComparison (column : String)
  | listComparison (column : String)
  deriving DecidableEq, Repr

namespace Fault

def message : Fault → String
  | selectWithoutTable => "SELECT requires a table"
  | selectWithoutColumn table => "SELECT from '" ++ table ++ "' requires at least one column"
  | insertWithoutField table => "INSERT into '" ++ table ++ "' requires at least one field"
  | updateWithoutField table => "UPDATE of '" ++ table ++ "' requires at least one field"
  | deleteWithoutTable => "DELETE requires a table"
  | joinWithoutTable => "JOIN requires a table"
  | windowWithoutBound => "LIMIT clause needs a max count, a start index, or both"
  | negativeMaxCount n => "LIMIT max count must be >= 0, got " ++ Decimal.intText n.toInt
  | negativeStartIndex n => "LIMIT start index must be >= 0, got " ++ Decimal.intText n.toInt
  | callWithoutFunction => "function call requires a function name"
  | returningWithoutColumn => "RETURNING requires at least one column"
  | conflictWithoutTarget => "ON CONFLICT DO UPDATE requires at least one conflict column"
  | conflictWithoutField => "ON CONFLICT DO UPDATE requires at least one field"
  | negativePageIndex n => "page index must be >= 0, got " ++ Decimal.intText n.toInt
  | pageSizeBelowOne n => "page size must be >= 1, got " ++ Decimal.intText n.toInt
  | rowOffsetOverflow pageIndex pageSize =>
    "page " ++ Decimal.intText pageIndex.toInt ++ " of size " ++ Decimal.intText pageSize.toInt ++
      " overflows the row offset"
  | emptyPredicate => "WHERE clause has no constraint; set one with field() or expression()"
  | shortGroup connective count =>
    connective.groupName ++ " group needs at least two constraints, got " ++ Decimal.natText count
  | unsupportedComparison comparison => "unsupported comparison " ++ comparison.describe
  | nullComparison column =>
    "column '" ++ column ++ "': NULL can only be compared with EQUAL or NOT | EQUAL"
  | listComparison column => "column '" ++ column ++ "': list operands require IN or NOT | IN"

end Fault

end PreparedSql
