import PreparedSql.Session.Connection
import PreparedSql.Value.Encoding

/-!
# Scripted servers

A server that answers each statement with the next reply of a script and notes the statements whose
values it could take. The connection to it is the same in a transaction and outside of one.
-/
namespace PreparedSql

/-- When a statement fails: before its values are taken, or while it runs. -/
inductive FailureTime
  | prepare
  | run
  deriving DecidableEq, Repr

structure Reply where
  params : List ParamType
  columns : List (String × ParamType)
  rows : List (List Cell)
  affected : Nat
  failure : Option (FailureTime × ServerError)
  deriving Repr

structure BoundStatement where
  sql : String
  params : List (Option (List UInt8))
  deriving Repr

structure Script where
  replies : List Reply
  bound : List BoundStatement
  deriving Repr

namespace Reply

def toRows (r : Reply) : List Row :=
  r.rows.map fun cells => ⟨r.columns.zipWith (fun c cell => ⟨c.1, c.2, cell⟩) cells⟩

def failureAt? (r : Reply) (time : FailureTime) : Option ServerError :=
  match r.failure with
  | some (t, e) => if t = time then some e else none
  | none => none

end Reply

namespace Script

/-- The encoded values, or the place of the first one that its type does not take. -/
def encodeAll (index : Nat) : List ParamType → List Value → Except Nat (List (Option (List UInt8)))
  | type :: types, v :: values =>
    match v.encode type with
    | .error _ => .error index
    | .ok bytes =>
      match encodeAll (index + 1) types values with
      | .error i => .error i
      | .ok rest => .ok (bytes :: rest)
  | _, _ => .ok []

/-- Texts are sent with a NUL behind them, so a text that holds one cannot be sent. -/
def sendable (sql : String) : Bool :=
  !sql.toList.contains '\x00'

/-- What every statement fails with when the script is used up. -/
def exhausted : ServerError :=
  ⟨"XX000", "no reply is left", none⟩

/-- What the server does with a statement. -/
def serve (sql : String) (args : List Value) (s : Script) :
    Except ConnectionError Reply × Script :=
  match s.replies with
  | [] => (.error (.server exhausted), s)
  | reply :: replies =>
    let next := { s with replies := replies }
    match reply.failureAt? .prepare with
    | some e => (.error (.server e), next)
    | none =>
      if reply.params.length ≠ args.length then
        (.error (.query (.parameterCount reply.params.length args.length)), next)
      else
        match encodeAll 0 reply.params args with
        | .error index => (.error (.query (.parameterEncoding index)), next)
        | .ok params =>
          let taken := { next with bound := next.bound ++ [⟨sql, params⟩] }
          match reply.failureAt? .run with
          | some e => (.error (.server e), taken)
          | none => (.ok reply, taken)

/-- Runs one statement; the server hears nothing of one that cannot be sent. -/
def run (sql : String) (args : List Value) (s : Script) : Except ConnectionError Reply × Script :=
  if sendable sql then s.serve sql args else (.error (.query .statementEncoding), s)

def connection : Connection Script where
  query sql args s :=
    let (reply, s) := s.run sql args
    (reply.map Reply.toRows, s)
  execute sql args s :=
    let (reply, s) := s.run sql args
    (reply.map Reply.affected, s)

def client : Client Script :=
  connection.client

/-- Ends a transaction, which the server may refuse. -/
def commit (refusal : Option ServerError) : Except Error Unit :=
  ConnectionError.lift (match refusal with
    | some e => .error (.server e)
    | none => .ok ())

end Script

end PreparedSql
