import PreparedSql.Session.Connection

/-!
# Failures of a connection

Work on a connection makes calls one after another. When a call fails, the work makes no further
one and fails with the error of that failure's kind; else it can only fail with an error of its
own, when it reads the rows (`Work.ReportsAt`). This is kept when pieces of work are put together,
so it holds of all that is made of running statements (`Work.ReportsAt.bind`).
-/
namespace PreparedSql

variable {σ α β : Type}

namespace ConnectionError

def of? : Except ConnectionError α → Option ConnectionError
  | .error e => some e
  | .ok _ => none

def Passes : Option ConnectionError → Except Error α → Prop
  | some e, reply => reply = .error e.toError
  | none, reply => ∃ a, reply = .ok a

theorem passes_lift (answer : Except ConnectionError α) : Passes (of? answer) (lift answer) := by
  cases answer with
  | error e => rfl
  | ok a => exact ⟨a, rfl⟩

theorem Passes.map {failure : Option ConnectionError} {reply : Except Error α}
    (h : Passes failure reply) (f : α → β) : Passes failure (reply.map f) := by
  cases failure with
  | some e =>
    rw [show reply = .error e.toError from h]
    rfl
  | none =>
    obtain ⟨a, rfl⟩ := h
    exact ⟨f a, rfl⟩

end ConnectionError

namespace Connection

variable (connection : Connection σ)

/-- What a call fails with, if it fails, and the state of the connection after it. -/
def answer (c : Call) (s : σ) : Option ConnectionError × σ :=
  match c.method with
  | .execute =>
    let (answer, s) := connection.execute c.sql c.args s
    (ConnectionError.of? answer, s)
  | .query | .queryFirst =>
    let (answer, s) := connection.query c.sql c.args s
    (ConnectionError.of? answer, s)

def failures : List Call → σ → List (Option ConnectionError)
  | [], _ => []
  | c :: calls, s => (connection.answer c s).1 :: failures calls (connection.answer c s).2

def stateAfter : List Call → σ → σ
  | [], s => s
  | c :: calls, s => stateAfter calls (connection.answer c s).2

theorem failures_append (calls later : List Call) (s : σ) :
    connection.failures (calls ++ later) s =
      connection.failures calls s ++ connection.failures later (connection.stateAfter calls s) := by
  induction calls generalizing s with
  | nil => rfl
  | cons c calls ih =>
    rw [List.cons_append, failures, ih]
    rfl

theorem stateAfter_append (calls later : List Call) (s : σ) :
    connection.stateAfter (calls ++ later) s =
      connection.stateAfter later (connection.stateAfter calls s) := by
  induction calls generalizing s with
  | nil => rfl
  | cons c calls ih =>
    rw [List.cons_append, stateAfter, ih]
    rfl

theorem length_failures (calls : List Call) (s : σ) :
    (connection.failures calls s).length = calls.length := by
  induction calls generalizing s with
  | nil => rfl
  | cons c calls ih => rw [failures, List.length_cons, ih, List.length_cons]

end Connection

/-- How the calls of work failed and what came of it. The errors of its own are those that `own`
holds of. -/
inductive Ends (own : Error → Prop) : List (Option ConnectionError) → Except Error α → Prop
  | answered {failures : List (Option ConnectionError)} {result : Except Error α}
      (hanswered : ∀ f ∈ failures, f = none) (hown : ∀ e, result = .error e → own e) :
      Ends own failures result
  | failed (before : List (Option ConnectionError)) (hanswered : ∀ f ∈ before, f = none)
      (e : ConnectionError) : Ends own (before ++ [some e]) (.error e.toError)

namespace Ends

variable {own own' : Error → Prop} {failures later : List (Option ConnectionError)}

theorem mono {result : Except Error α} (h : Ends own failures result)
    (hown : ∀ e, own e → own' e) : Ends own' failures result := by
  cases h with
  | answered hanswered hresult => exact .answered hanswered fun e he => hown e (hresult e he)
  | failed before hanswered e => exact .failed before hanswered e

theorem all_answered {a : α} (h : Ends own failures (.ok a : Except Error α)) :
    ∀ f ∈ failures, f = none := by
  cases h with
  | answered hanswered => exact hanswered

/-- An error does not depend on what was wanted. -/
theorem error {e : Error} (h : Ends own failures (.error e : Except Error α)) :
    Ends own failures (.error e : Except Error β) := by
  cases h with
  | answered hanswered hown =>
    apply Ends.answered hanswered
    rintro e' ⟨⟩
    exact hown e rfl
  | failed before hanswered e => exact .failed before hanswered e

theorem append {result : Except Error α} (hanswered : ∀ f ∈ failures, f = none)
    (h : Ends own later result) : Ends own (failures ++ later) result := by
  cases h with
  | answered hlater hown => exact .answered (List.forall_mem_append.mpr ⟨hanswered, hlater⟩) hown
  | failed before hbefore e =>
    rw [← List.append_assoc]
    exact .failed (failures ++ before) (List.forall_mem_append.mpr ⟨hanswered, hbefore⟩) e

end Ends

namespace Work

/-- Every failure of the connection is reported as the error of its kind, and is the last answer. -/
def ReportsAt (connection : Connection σ) (own : Error → Prop) (w : Work σ α) (s : Session σ) :
    Prop :=
  ∃ calls, (w.run.run s).2.calls = s.calls ++ calls ∧
    (w.run.run s).2.state = connection.stateAfter calls s.state ∧
    Ends own (connection.failures calls s.state) (w.run.run s).1

def Reports (connection : Connection σ) (own : Error → Prop) (w : Work σ α) : Prop :=
  ∀ s, w.ReportsAt connection own s

section At

variable {connection : Connection σ} {own own' : Error → Prop} {w : Work σ α} {s : Session σ}

theorem ReportsAt.mono (h : w.ReportsAt connection own s) (hown : ∀ e, own e → own' e) :
    w.ReportsAt connection own' s := by
  obtain ⟨calls, hcalls, hstate, hends⟩ := h
  exact ⟨calls, hcalls, hstate, hends.mono hown⟩

/-- Work that has failed does not go on, so its last answer stays the last one. -/
theorem ReportsAt.bind {next : α → Work σ β} (h : w.ReportsAt connection own s)
    (hnext : ∀ a s', w.run.run s = (.ok a, s') → (next a).ReportsAt connection own s') :
    (w >>= next).ReportsAt connection own s := by
  obtain ⟨calls, hcalls, hstate, hends⟩ := h
  rw [ReportsAt, Work.run_bind]
  rcases hrun : w.run.run s with ⟨result, s'⟩
  rw [hrun] at hcalls hstate hends
  cases result with
  | error e => exact ⟨calls, hcalls, hstate, hends.error⟩
  | ok a =>
    obtain ⟨later, hlater, hstate', hends'⟩ := hnext a s' hrun
    refine ⟨calls ++ later, ?_, ?_, ?_⟩
    · rw [hlater, hcalls, List.append_assoc]
    · rw [hstate', hstate, connection.stateAfter_append]
    · rw [connection.failures_append, ← hstate]
      exact hends'.append hends.all_answered

/-- What makes no call fails with an error of its own. -/
theorem ReportsAt.ofExcept {result : Except Error α} (h : ∀ e, result = .error e → own e) :
    (Work.ofExcept result : Work σ α).ReportsAt connection own s :=
  ⟨[], (List.append_nil _).symm, rfl, .answered nofun h⟩

end At

namespace Reports

variable {connection : Connection σ} {own own' : Error → Prop} {w : Work σ α}

theorem mono (h : w.Reports connection own) (hown : ∀ e, own e → own' e) :
    w.Reports connection own' :=
  fun s => (h s).mono hown

theorem ofExcept {result : Except Error α} (h : ∀ e, result = .error e → own e) :
    (Work.ofExcept result : Work σ α).Reports connection own :=
  fun _ => .ofExcept h

theorem pure (a : α) : (Pure.pure a : Work σ α).Reports connection own := by
  have h : (Work.ofExcept (.ok a) : Work σ α).Reports connection own := ofExcept nofun
  exact h

theorem report (e : Event) : (Work.report e : Work σ Unit).Reports connection own := by
  intro s
  refine ⟨[], ?_, rfl, .answered nofun nofun⟩
  rw [Work.run_report, s.calls_report, List.append_nil]

theorem bind {next : α → Work σ β} (h : w.Reports connection own)
    (hnext : ∀ a, (next a).Reports connection own) : (w >>= next).Reports connection own :=
  fun s => (h s).bind fun a s' _ => hnext a s'

/-- One call reports its failure, if the client it is handed to does. -/
theorem call {send : Call → σ → Except Error α × σ} {c : Call}
    (hstate : ∀ s, (send c s).2 = (connection.answer c s).2)
    (hpasses : ∀ s, ConnectionError.Passes (connection.answer c s).1 (send c s).1) :
    (Work.call send c).Reports connection own := by
  intro s
  refine ⟨[c], s.calls_called c _, hstate s.state, ?_⟩
  have hfailures : connection.failures [c] s.state = [(connection.answer c s.state).1] := rfl
  have hresult : ((Work.call send c).run.run s).1 = (send c s.state).1 := rfl
  have h := hpasses s.state
  rw [hfailures, hresult]
  generalize (connection.answer c s.state).1 = failure at h
  generalize (send c s.state).1 = reply at h
  cases failure with
  | some e =>
    obtain rfl : reply = _ := h
    exact .failed [] nofun e
  | none =>
    obtain ⟨a, rfl⟩ := h
    exact .answered (fun f hf => List.mem_singleton.mp hf) nofun

end Reports

end Work

end PreparedSql
