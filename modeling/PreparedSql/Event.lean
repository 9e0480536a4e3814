import PreparedSql.Decimal.Integer

/-!
# Events

What is reported for the log while statements are prepared and run. An event shows the SQL and how
many values are bound, never the values.
-/
namespace PreparedSql

/-- What a prepared statement is run for. -/
inductive Operation
  | execute
  | fetch
  | fetchRow
  deriving DecidableEq, Repr

inductive Event
  | prepared (sql : String) (paramCount : Nat)
  | preparedPage (sql : String) (paramCount : Nat) (pageIndex pageSize : Int64)
  | running (operation : Operation) (tag : Option String) (paramCount : Nat)
  | retrying (attempt maxAttempts delayMillis : Nat) (error : String)
  deriving DecidableEq, Repr

namespace Operation

def label : Operation → String
  | execute => "execute"
  | fetch => "fetch"
  | fetchRow => "fetchrow"

end Operation

namespace Event

def level : Event → String
  | retrying _ _ _ _ => "WARN"
  | _ => "DEBUG"

def message : Event → String
  | prepared _ _ => "compiled statement"
  | preparedPage _ _ _ _ => "compiled pagination statement"
  | running _ _ _ => "executing statement"
  | retrying _ _ _ _ => "serialization failure, retrying"

def tagLabel (tag : Option String) : String :=
  tag.getD "-"

end Event

end PreparedSql
