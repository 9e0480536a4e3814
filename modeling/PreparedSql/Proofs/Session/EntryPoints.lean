import Mathlib.Data.List.Forall2
import PreparedSql.Proofs.Session.Conversions

/-!
# The ways to run a statement

However a prepared statement is run, one event is reported and then one call is made, and what is
read from the reply makes no further call. A connection makes nothing of tags, and whether all rows
are wanted, the first one or its first column, they are read from the same reply of the server,
whose failure is the error of them all (`EntryPoint.result_of_failure`).
-/
namespace PreparedSql

variable {σ α β : Type}

inductive EntryPoint : Type → Type 1
  | execute : EntryPoint Nat
  | fetch : EntryPoint (List Row)
  | fetchAs {α : Type} (convert : Row → Except Error α) : EntryPoint (List α)
  | fetchRow : EntryPoint (Option Row)
  | fetchRowAs {α : Type} (convert : Row → Except Error α) : EntryPoint (Option α)
  | fetchValue {α : Type} (r : CellReader α) : EntryPoint (Option α)

namespace EntryPoint

def work (client : Client σ) (q : Prepared) : {α : Type} → EntryPoint α → Work σ α
  | _, execute => q.execute client
  | _, fetch => q.fetch client
  | _, fetchAs convert => q.fetchAs client convert
  | _, fetchRow => q.fetchRow client
  | _, fetchRowAs convert => q.fetchRowAs client convert
  | _, fetchValue r => q.fetchValue client r

def operation : {α : Type} → EntryPoint α → Operation
  | _, execute => .execute
  | _, fetch | _, fetchAs _ => .fetch
  | _, fetchRow | _, fetchRowAs _ | _, fetchValue _ => .fetchRow

def method : {α : Type} → EntryPoint α → Method
  | _, execute => .execute
  | _, fetch | _, fetchAs _ => .query
  | _, fetchRow | _, fetchRowAs _ | _, fetchValue _ => .queryFirst

/-- The names by which the operation is reported and its method is called without a tag. -/
def names : {α : Type} → EntryPoint α → String × String
  | _, execute => ("execute", "execute")
  | _, fetch | _, fetchAs _ => ("fetch", "query")
  | _, fetchRow | _, fetchRowAs _ | _, fetchValue _ => ("fetchrow", "query_opt")

theorem names_eq {α : Type} (p : EntryPoint α) : p.names = (p.operation.label, p.method.label) := by
  cases p <;> rfl

/-- What is made of the client's reply to a call. -/
def result (client : Client σ) (c : Call) (s : σ) : {α : Type} → EntryPoint α → Except Error α
  | _, execute => (client.execute c s).1
  | _, fetch => (client.query c s).1
  | _, fetchAs convert => (client.query c s).1 >>= List.mapM convert
  | _, fetchRow => (client.queryFirst c s).1
  | _, fetchRowAs convert => (client.queryFirst c s).1 >>= Option.mapM convert
  | _, fetchValue r => (client.queryFirst c s).1 >>= Option.mapM fun row => row.nth r 0

end EntryPoint

def Client.after (client : Client σ) (c : Call) (s : σ) : σ :=
  match c.method with
  | .query => (client.query c s).2
  | .queryFirst => (client.queryFirst c s).2
  | .execute => (client.execute c s).2

theorem Call.label_eq (c : Call) :
    c.label = c.method.label ++ if c.tag.isSome then "_tagged" else "" := by
  rw [label]
  split
  · rfl
  · rw [String.append_empty]

/-- A tag without a text is a tag. -/
example : (Call.mk .execute (some "") "DELETE FROM t" []).label = "execute_tagged" := by decide

/-- What is made of a result changes nothing in the session. -/
theorem Work.run_bind_ofExcept (w : Work σ α) (read : α → Except Error β) (s : Session σ) :
    (w >>= fun a => Work.ofExcept (read a)).run.run s =
      ((w.run.run s).1 >>= read, (w.run.run s).2) := by
  rw [Work.run_bind]
  rcases w.run.run s with ⟨e | a, s'⟩
  · rfl
  · rfl

namespace EntryPoint

/-- One report, then one call, and all the rest is made of the reply. -/
theorem run_work (client : Client σ) (q : Prepared) (p : EntryPoint α) (s : Session σ) :
    (p.work client q).run.run s =
      (p.result client ⟨p.method, q.tag, q.sql, q.args⟩ s.state,
        (s.report (.running p.operation q.tag q.args.length)).called
          ⟨p.method, q.tag, q.sql, q.args⟩
          (client.after ⟨p.method, q.tag, q.sql, q.args⟩ s.state)) := by
  cases p with
  | execute => exact q.run_run client.execute .execute .execute s
  | fetch => exact q.run_run client.query .fetch .query s
  | fetchRow => exact q.run_run client.queryFirst .fetchRow .queryFirst s
  | fetchAs convert =>
    rw [work, Prepared.fetchAs, Work.run_bind_ofExcept]
    rfl
  | fetchRowAs convert =>
    rw [work, Prepared.fetchRowAs, Work.run_bind_ofExcept]
    rfl
  | fetchValue r =>
    rw [work, Prepared.fetchValue, Prepared.fetchRowAs, Work.run_bind_ofExcept]
    rfl

/-- A connection takes the SQL and the values to the server and drops the tag. -/
theorem result_tag (connection : Connection σ) (p : EntryPoint α) (c : Call) (tag : Option String)
    (s : σ) :
    p.result connection.client { c with tag := tag } s = p.result connection.client c s := by
  cases p <;> rfl

end EntryPoint

/-- How converted rows go with the rows: every one is converted, in the same order, or the first one
that cannot be is the error. -/
inductive Converts (convert : Row → Except Error α) :
    Except Error (List Row) → Except Error (List α) → Prop
  | failed (e : Error) : Converts convert (.error e) (.error e)
  | all {rows : List Row} {items : List α}
      (h : List.Forall₂ (fun row item => convert row = .ok item) rows items) :
      Converts convert (.ok rows) (.ok items)
  | refused {before after : List Row} {row : Row} {e : Error}
      (hbefore : ∀ r ∈ before, ∃ item, convert r = .ok item) (h : convert row = .error e) :
      Converts convert (.ok (before ++ row :: after)) (.error e)

theorem converts_mapM (convert : Row → Except Error α) (rows : List Row) :
    Converts convert (.ok rows) (rows.mapM convert) := by
  induction rows with
  | nil => exact .all .nil
  | cons row rows ih =>
    rw [List.mapM_cons]
    cases hrow : convert row with
    | error e =>
      have hrefused : Converts convert (.ok ([] ++ row :: rows)) (.error e) := .refused nofun hrow
      exact hrefused
    | ok item =>
      generalize rows.mapM convert = converted at ih
      cases ih with
      | all hall => exact .all (.cons hrow hall)
      | @refused before after row' e hbefore h =>
        have hall : ∀ r ∈ row :: before, ∃ item, convert r = .ok item :=
          List.forall_mem_cons.mpr ⟨⟨item, hrow⟩, hbefore⟩
        exact .refused hall h

/-- How what is read of the first row goes with the rows, of which there may be others. -/
inductive ReadsFirst (read : Row → Except Error α) :
    Except Error (List Row) → Except Error (Option α) → Prop
  | failed (e : Error) : ReadsFirst read (.error e) (.error e)
  | none : ReadsFirst read (.ok []) (.ok none)
  | read {row : Row} {others : List Row} {a : α} (h : read row = .ok a) :
      ReadsFirst read (.ok (row :: others)) (.ok (some a))
  | refused {row : Row} {others : List Row} {e : Error} (h : read row = .error e) :
      ReadsFirst read (.ok (row :: others)) (.error e)

theorem readsFirst_head? (read : Row → Except Error α) (rows : Except Error (List Row)) :
    ReadsFirst read rows (rows.map List.head? >>= Option.mapM read) := by
  rcases rows with e | (_ | ⟨row, others⟩)
  · exact .failed e
  · exact .none
  · change ReadsFirst read _ (Option.mapM read (some row))
    rw [Option.mapM_some]
    cases h : read row with
    | error e => exact .refused h
    | ok a => exact .read h

namespace EntryPoint

variable (client : Client σ) (connection : Connection σ) (c : Call) (s : σ)

theorem converts_result (convert : Row → Except Error α) :
    Converts convert (fetch.result client c s) ((fetchAs convert).result client c s) := by
  change Converts convert (client.query c s).1 ((client.query c s).1 >>= List.mapM convert)
  rcases (client.query c s).1 with e | rows
  · exact .failed e
  · exact converts_mapM convert rows

/-- A connection asks for all rows, even if only the first one is read. -/
theorem readsFirst_result (convert : Row → Except Error α) :
    ReadsFirst convert (fetch.result connection.client c s)
      ((fetchRowAs convert).result connection.client c s) :=
  readsFirst_head? convert (connection.client.query c s).1

theorem readsFirst_result_fetchRow :
    ReadsFirst .ok (fetch.result connection.client c s)
      (fetchRow.result connection.client c s) := by
  change ReadsFirst .ok (connection.client.query c s).1
    ((connection.client.query c s).1.map List.head?)
  rcases (connection.client.query c s).1 with e | (_ | ⟨row, others⟩)
  · exact .failed e
  · exact .none
  · exact .read rfl

/-- What the server fails with is the error of every entry point that asks for rows. -/
theorem result_of_failure {e : ConnectionError}
    (h : (connection.query c.sql c.args s).1 = .error e) (p : EntryPoint α) :
    p.method = .execute ∨ p.result connection.client c s = .error e.toError := by
  have hquery : (connection.client.query c s).1 = .error e.toError := by
    change ConnectionError.lift (connection.query c.sql c.args s).1 = _
    rw [h]
    rfl
  have hfirst : (connection.client.queryFirst c s).1 = .error e.toError := by
    change (connection.client.query c s).1.map List.head? = _
    rw [hquery]
    rfl
  cases p with
  | execute => exact .inl rfl
  | fetch => exact .inr hquery
  | fetchRow => exact .inr hfirst
  | fetchAs convert =>
    right
    rw [result, hquery]
    rfl
  | fetchRowAs convert =>
    right
    rw [result, hfirst]
    rfl
  | fetchValue r =>
    right
    rw [result, hfirst]
    rfl

theorem after_client :
    connection.client.after c s =
      match c.method with
      | .execute => (connection.execute c.sql c.args s).2
      | .query | .queryFirst => (connection.query c.sql c.args s).2 := by
  rw [Client.after]
  cases c.method <;> rfl

end EntryPoint

namespace Prepared

def outcome (q : Prepared) (client : Client σ) (s : Session σ) (p : EntryPoint α) :
    Except Error α :=
  ((p.work client q).run.run s).1

theorem outcome_eq (q : Prepared) (client : Client σ) (s : Session σ) (p : EntryPoint α) :
    q.outcome client s p = p.result client ⟨p.method, q.tag, q.sql, q.args⟩ s.state := by
  rw [outcome, p.run_work]

variable (q : Prepared) (s : Session σ) (client : Client σ) (connection : Connection σ)

theorem outcome_of_execute_reply :
    match (connection.execute q.sql q.args s.state).1 with
    | .ok affected => q.outcome connection.client s .execute = .ok affected
    | .error e => q.outcome connection.client s .execute = .error e.toError := by
  have hlift : q.outcome connection.client s .execute =
      ConnectionError.lift (connection.execute q.sql q.args s.state).1 :=
    q.outcome_eq connection.client s .execute
  rw [hlift]
  cases (connection.execute q.sql q.args s.state).1 with
  | ok affected => rfl
  | error e => rfl

theorem outcome_of_query_reply :
    match (connection.query q.sql q.args s.state).1 with
    | .ok rows => q.outcome connection.client s .fetch = .ok rows
    | .error e => ∀ (α : Type) (p : EntryPoint α),
      p.method = .execute ∨ q.outcome connection.client s p = .error e.toError := by
  have hlift : q.outcome connection.client s .fetch =
      ConnectionError.lift (connection.query q.sql q.args s.state).1 :=
    q.outcome_eq connection.client s .fetch
  split
  · next rows hreply =>
    rw [hlift, hreply]
    rfl
  · next e hreply =>
    intro α p
    rw [outcome_eq]
    exact EntryPoint.result_of_failure connection ⟨p.method, q.tag, q.sql, q.args⟩ s.state hreply p

/-- However a statement is run, that is reported once and then one call is made, with the SQL and
the values as they are and by the name for tagged calls just if there is a tag. The reply comes back
as it is, and rows are converted one for one. On a connection the tag makes no difference: the SQL
and the values go to the server, whose rows or whose count come back or else the error of its
failure, the same for all that ask for rows. The first row and its first column are those of the
rows that all come back. -/
theorem entry_points_agree :
    (∀ (α : Type) (p : EntryPoint α),
      let event : Event := .running p.operation q.tag q.args.length
      let call : Call := ⟨p.method, q.tag, q.sql, q.args⟩
      let session := ((p.work client q).run.run s).2
      session.actions = s.actions ++ [.report event, .call call] ∧
        session.state = client.after call s.state ∧
        event.level = "DEBUG" ∧ event.message = "executing statement" ∧
        p.operation.label = p.names.1 ∧
        Event.tagLabel q.tag = q.tag.getD "-" ∧
        call.label = p.names.2 ++ if q.tag.isSome then "_tagged" else "") ∧
    (q.outcome client s .execute =
        (client.execute ⟨.execute, q.tag, q.sql, q.args⟩ s.state).1 ∧
      q.outcome client s .fetch = (client.query ⟨.query, q.tag, q.sql, q.args⟩ s.state).1 ∧
      q.outcome client s .fetchRow =
        (client.queryFirst ⟨.queryFirst, q.tag, q.sql, q.args⟩ s.state).1) ∧
    (∀ (α : Type) (convert : Row → Except Error α),
      Converts convert (q.outcome client s .fetch) (q.outcome client s (.fetchAs convert))) ∧
    (∀ (α : Type) (p : EntryPoint α) (tag : Option String),
      outcome { q with tag := tag } connection.client s p = q.outcome connection.client s p) ∧
    (∀ (α : Type) (p : EntryPoint α),
      ((p.work connection.client q).run.run s).2.state =
        match p.method with
        | .execute => (connection.execute q.sql q.args s.state).2
        | .query | .queryFirst => (connection.query q.sql q.args s.state).2) ∧
    (match (connection.execute q.sql q.args s.state).1 with
      | .ok affected => q.outcome connection.client s .execute = .ok affected
      | .error e => q.outcome connection.client s .execute = .error e.toError) ∧
    let fetched := q.outcome connection.client s .fetch
    (match (connection.query q.sql q.args s.state).1 with
      | .ok rows => fetched = .ok rows
      | .error e => ∀ (α : Type) (p : EntryPoint α),
        p.method = .execute ∨ q.outcome connection.client s p = .error e.toError) ∧
      ReadsFirst .ok fetched (q.outcome connection.client s .fetchRow) ∧
      (∀ (α : Type) (convert : Row → Except Error α),
        ReadsFirst convert fetched (q.outcome connection.client s (.fetchRowAs convert))) ∧
      ∀ (α : Type) (r : CellReader α),
        ReadsFirst (fun row => row.nth r 0) fetched
          (q.outcome connection.client s (.fetchValue r)) ∧
        ∀ (row : Row) (e : Error), row.nth r 0 = .error e → e.IsDecode := by
  refine ⟨?_, ?_, ?_, ?_, ?_, q.outcome_of_execute_reply s connection,
    q.outcome_of_query_reply s connection, ?_, ?_, ?_⟩
  · intro α p event call session
    have hsession : session = (s.report event).called call (client.after call s.state) :=
      congrArg Prod.snd (p.run_work client q s)
    rw [hsession, p.names_eq]
    refine ⟨?_, rfl, rfl, rfl, rfl, rfl, call.label_eq⟩
    exact List.append_assoc _ _ _
  · exact ⟨q.outcome_eq client s .execute, q.outcome_eq client s .fetch,
      q.outcome_eq client s .fetchRow⟩
  · intro α convert
    rw [outcome_eq, outcome_eq]
    exact EntryPoint.converts_result client _ s.state convert
  · intro α p tag
    rw [outcome_eq, outcome_eq]
    exact p.result_tag connection ⟨p.method, q.tag, q.sql, q.args⟩ tag s.state
  · intro α p
    rw [p.run_work]
    exact EntryPoint.after_client connection ⟨p.method, q.tag, q.sql, q.args⟩ s.state
  · rw [outcome_eq, outcome_eq]
    exact EntryPoint.readsFirst_result_fetchRow connection _ s.state
  · intro α convert
    rw [outcome_eq, outcome_eq]
    exact EntryPoint.readsFirst_result connection _ s.state convert
  · intro α r
    constructor
    · rw [outcome_eq, outcome_eq]
      exact EntryPoint.readsFirst_result connection _ s.state fun row => row.nth r 0
    · intro row e h
      exact Row.isDecode_of_readColumn h

end Prepared

end PreparedSql
