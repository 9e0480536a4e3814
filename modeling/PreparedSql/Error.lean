import PreparedSql.Fault

/-!
# Errors

What building, sending and reading a statement can end with. The server reports a failure with a
code of five characters; four codes have a kind of error of their own, and only a failed
serialization is worth another attempt.
-/
namespace PreparedSql

/-- A failure of a query that has no kind of its own. -/
inductive QueryFailure
  | server
  /-- The statement's text cannot be sent. -/
  | statementEncoding
  | parameterCount (expected given : Nat)
  | parameterEncoding (index : Nat)
  | connectionString
  deriving DecidableEq, Repr

namespace QueryFailure

def message : QueryFailure → String
  | server => "db error"
  | statementEncoding => "error encoding message to server"
  | parameterCount expected given =>
    "expected " ++ Decimal.natText expected ++ " parameters but got " ++ Decimal.natText given
  | parameterEncoding index => "error serializing parameter " ++ Decimal.natText index
  | connectionString => "invalid connection string"

end QueryFailure

inductive Error
  | validation (text : String)
  | serialization (text : String)
  | query (failure : QueryFailure)
  | uniqueViolation (text : String)
  | foreignKeyViolation (text : String)
  | checkViolation (text : String)
  | decode (column text : String)
  | other (text : String)
  deriving DecidableEq, Repr

def Fault.toError (f : Fault) : Error :=
  .validation f.message

namespace Error

def kind : Error → String
  | validation _ => "Validation"
  | serialization _ => "Serialization"
  | query _ => "Query"
  | uniqueViolation _ => "UniqueViolation"
  | foreignKeyViolation _ => "ForeignKeyViolation"
  | checkViolation _ => "CheckViolation"
  | decode _ _ => "Decode"
  | other _ => "Other"

def message : Error → String
  | validation text => "Validation error: " ++ text
  | serialization text => "Serialization failure: " ++ text
  | query failure => "Query error: " ++ failure.message
  | uniqueViolation text => "Unique constraint violation: " ++ text
  | foreignKeyViolation text => "Foreign key violation: " ++ text
  | checkViolation text => "Check constraint violation: " ++ text
  | decode column text => "Decode error on column '" ++ column ++ "': " ++ text
  | other text => text

def isSerialization : Error → Bool
  | serialization _ => true
  | _ => false

def isUniqueViolation : Error → Bool
  | uniqueViolation _ => true
  | _ => false

def isValidation : Error → Bool
  | validation _ => true
  | _ => false

/-- Whether the error was caused by one of the connection. -/
def hasSource : Error → Bool
  | query _ => true
  | _ => false

/-- The code of a transaction that lost against a concurrent one. -/
def serializationFailureCode : String := "40001"

end Error

structure ServerError where
  code : String
  message : String
  constraint : Option String
  deriving DecidableEq, Repr

namespace ServerError

/-- The violated constraint and what the server says about it. -/
def violation (e : ServerError) : String :=
  e.constraint.getD "unknown" ++ ": " ++ e.message

def toError (e : ServerError) : Error :=
  if e.code = Error.serializationFailureCode then .serialization e.message
  else if e.code = "23505" then .uniqueViolation e.violation
  else if e.code = "23503" then .foreignKeyViolation e.violation
  else if e.code = "23514" then .checkViolation e.violation
  else .query .server

end ServerError

/-- What a connection can fail with: an answer of the server, or a failure on the way to it. -/
inductive ConnectionError
  | server (e : ServerError)
  | query (failure : QueryFailure)
  deriving DecidableEq, Repr

namespace ConnectionError

def toError : ConnectionError → Error
  | server e => e.toError
  | query failure => .query failure

/-- Passes an answer on, with a failure as the error of its kind. -/
def lift {α : Type} (answer : Except ConnectionError α) : Except Error α :=
  answer.mapError toError

end ConnectionError

end PreparedSql
