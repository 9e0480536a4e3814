import PreparedSql.Session.Client

/-!
# Running prepared statements

Each run reports one event and then makes one call, with the statement's text, values and tag
unchanged. What is read from the rows afterwards makes no further call.
-/
namespace PreparedSql.Prepared

variable {σ α : Type}

def run (q : Prepared) (send : Call → σ → Except Error α × σ) (operation : Operation)
    (method : Method) : Work σ α := do
  Work.report (.running operation q.tag q.args.length)
  Work.call send ⟨method, q.tag, q.sql, q.args⟩

theorem run_run (q : Prepared) (send : Call → σ → Except Error α × σ) (operation : Operation)
    (method : Method) (s : Session σ) :
    (q.run send operation method).run.run s =
      ((send ⟨method, q.tag, q.sql, q.args⟩ s.state).1,
        (s.report (.running operation q.tag q.args.length)).called ⟨method, q.tag, q.sql, q.args⟩
          (send ⟨method, q.tag, q.sql, q.args⟩ s.state).2) :=
  rfl

def execute (q : Prepared) (client : Client σ) : Work σ Nat :=
  q.run client.execute .execute .execute

def fetch (q : Prepared) (client : Client σ) : Work σ (List Row) :=
  q.run client.query .fetch .query

/-- All rows, converted; the first row that cannot be converted fails the whole. -/
def fetchAs (q : Prepared) (client : Client σ) (convert : Row → Except Error α) :
    Work σ (List α) := do
  let rows ← q.fetch client
  Work.ofExcept (rows.mapM convert)

def fetchRow (q : Prepared) (client : Client σ) : Work σ (Option Row) :=
  q.run client.queryFirst .fetchRow .queryFirst

def fetchRowAs (q : Prepared) (client : Client σ) (convert : Row → Except Error α) :
    Work σ (Option α) := do
  let row ← q.fetchRow client
  Work.ofExcept (row.mapM convert)

/-- The first column of the first row, if there is a row. -/
def fetchValue (q : Prepared) (client : Client σ) (r : CellReader α) : Work σ (Option α) :=
  q.fetchRowAs client fun row => row.nth r 0

end PreparedSql.Prepared
