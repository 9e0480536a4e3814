import PreparedSql.Prepared
import PreparedSql.Session.Row

/-!
# Clients

A client sends statements to a server and changes state as it goes. A session keeps the client's
state together with what was done one after another: events were reported and calls were made.
-/
namespace PreparedSql

inductive Method
  | query
  | queryFirst
  | execute
  deriving DecidableEq, Repr

/-- A statement that was handed to a client. -/
structure Call where
  method : Method
  tag : Option String
  sql : String
  args : List Value
  deriving Repr

namespace Method

def label : Method → String
  | query => "query"
  | queryFirst => "query_opt"
  | execute => "execute"

end Method

/-- A call with a tag goes by a name of its own. -/
def Call.label (c : Call) : String :=
  if c.tag.isSome then c.method.label ++ "_tagged" else c.method.label

structure Client (σ : Type) where
  query : Call → σ → Except Error (List Row) × σ
  queryFirst : Call → σ → Except Error (Option Row) × σ
  execute : Call → σ → Except Error Nat × σ

/-- What is done one after another in a session. -/
inductive SessionAction
  | report (e : Event)
  | call (c : Call)
  deriving Repr

namespace SessionAction

def call? : SessionAction → Option Call
  | call c => some c
  | _ => none

def event? : SessionAction → Option Event
  | report e => some e
  | _ => none

end SessionAction

structure Session (σ : Type) where
  state : σ
  actions : List SessionAction

/-- Work on a session that may fail; what was done until then stays done. -/
abbrev Work (σ α : Type) :=
  ExceptT Error (StateM (Session σ)) α

namespace Session

variable {σ : Type}

def ofState (state : σ) : Session σ :=
  ⟨state, []⟩

def calls (s : Session σ) : List Call :=
  s.actions.filterMap SessionAction.call?

def events (s : Session σ) : List Event :=
  s.actions.filterMap SessionAction.event?

def report (s : Session σ) (e : Event) : Session σ :=
  { s with actions := s.actions ++ [.report e] }

/-- A session after one more call, which left the client in the given state. -/
def called (s : Session σ) (c : Call) (state : σ) : Session σ :=
  ⟨state, s.actions ++ [.call c]⟩

variable (s : Session σ) (e : Event) (c : Call) (state : σ)

@[simp] theorem calls_report : (s.report e).calls = s.calls := by
  rw [calls, report, List.filterMap_append]
  exact List.append_nil _

@[simp] theorem calls_called : (s.called c state).calls = s.calls ++ [c] := by
  rw [calls, called, List.filterMap_append]
  rfl

end Session

namespace Work

variable {σ α : Type}

/-- Hands a call to one of the functions of a client. -/
def call (send : Call → σ → Except Error α × σ) (c : Call) : Work σ α :=
  ExceptT.mk fun s =>
    let (reply, state) := send c s.state
    (reply, s.called c state)

def report (e : Event) : Work σ Unit :=
  ExceptT.mk fun s => (.ok (), s.report e)

def ofExcept (result : Except Error α) : Work σ α :=
  ExceptT.mk fun s => (result, s)

@[simp] theorem run_call (send : Call → σ → Except Error α × σ) (c : Call) (s : Session σ) :
    (call send c).run.run s = ((send c s.state).1, s.called c (send c s.state).2) :=
  rfl

@[simp] theorem run_report (e : Event) (s : Session σ) :
    (report e).run.run s = (.ok (), s.report e) :=
  rfl

@[simp] theorem run_ofExcept (result : Except Error α) (s : Session σ) :
    (ofExcept result).run.run s = (result, s) :=
  rfl

@[simp] theorem run_pure (a : α) (s : Session σ) :
    (pure a : Work σ α).run.run s = (.ok a, s) :=
  rfl

/-- Work goes on where the work before it stopped, unless that failed. -/
theorem run_bind {β : Type} (w : Work σ α) (next : α → Work σ β) (s : Session σ) :
    (w >>= next).run.run s =
      match w.run.run s with
      | (.ok a, s') => (next a).run.run s'
      | (.error e, s') => (.error e, s') := by
  simp only [bind, ExceptT.bind, ExceptT.run, ExceptT.mk, StateT.run, StateT.bind]
  rcases w s with ⟨result, s'⟩
  cases result <;> rfl

end Work

end PreparedSql
