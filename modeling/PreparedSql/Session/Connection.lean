import PreparedSql.Session.Client

/-!
# Connections

A connection takes the text and the values of a statement to the server, in a transaction or outside
of one. The client over a connection makes nothing of tags and reports every failure as the error of
its kind. A transaction ends with a commit, which may fail like a statement.
-/
namespace PreparedSql

structure Connection (σ : Type) where
  query : String → List Value → σ → Except ConnectionError (List Row) × σ
  execute : String → List Value → σ → Except ConnectionError Nat × σ

namespace Connection

variable {σ : Type}

/-- All rows are asked for, even if only the first one is wanted. -/
def client (connection : Connection σ) : Client σ where
  query := rows
  queryFirst c s :=
    let (answer, s) := rows c s
    (answer.map List.head?, s)
  execute c s :=
    let (answer, s) := connection.execute c.sql c.args s
    (ConnectionError.lift answer, s)
where
  rows (c : Call) (s : σ) : Except Error (List Row) × σ :=
    let (answer, s) := connection.query c.sql c.args s
    (ConnectionError.lift answer, s)

end Connection

/-- Ends a transaction. -/
def Work.commit {σ : Type} (send : σ → Except ConnectionError Unit × σ) : Work σ Unit :=
  ExceptT.mk fun s =>
    let (answer, state) := send s.state
    (ConnectionError.lift answer, { s with state := state })

end PreparedSql
