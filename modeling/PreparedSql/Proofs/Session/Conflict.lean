import PreparedSql.Proofs.Retry.Attempts
import PreparedSql.Proofs.Session.Conversions
import PreparedSql.Session.Script

/-!
# Server errors and repetition

Whatever is asked of a connection, an error of the server ends it, and comes out as the error that
the code of the server's error stands for (`ServerError.Classified`). The same goes for a procedure
that is put together from requests and ends with a commit (`Procedure.isConflict_iff`). So it is
repeated just if its first failure is the server's word that a transaction lost against a concurrent
one, or if it fetches rows of which a conversion of the caller says the same.
-/
namespace PreparedSql

variable {σ α β : Type}

/-- The error that stands for one of the server: four codes have a kind of their own. -/
structure ServerError.Classified (e : ServerError) (error : Error) : Prop where
  serialization : error = .serialization e.message ↔ e.code = "40001"
  unique : error = .uniqueViolation (e.constraint.getD "unknown" ++ ": " ++ e.message) ↔
    e.code = "23505"
  foreignKey : error = .foreignKeyViolation (e.constraint.getD "unknown" ++ ": " ++ e.message) ↔
    e.code = "23503"
  check : error = .checkViolation (e.constraint.getD "unknown" ++ ": " ++ e.message) ↔
    e.code = "23514"
  query : error = .query .server ↔ e.code ∉ ["40001", "23505", "23503", "23514"]

namespace ServerError

variable (e : ServerError)

theorem classified_toError : e.Classified e.toError := by
  unfold toError Error.serializationFailureCode
  constructor <;> grind [violation]

theorem isConflict_toError_iff :
    IsConflict (.error e.toError : Except Error α) ↔ e.code = "40001" := by
  rw [← e.classified_toError.serialization]
  constructor
  · rintro ⟨text, h⟩
    have htext : e.toError = .serialization text := Except.error.inj h
    unfold toError at htext ⊢
    split_ifs at htext ⊢ with hcode
    rfl
  · intro h
    exact ⟨e.message, by rw [h]⟩

end ServerError

/-- Only an answer of the server is a conflict. -/
theorem ConnectionError.isConflict_toError_iff (e : ConnectionError) :
    IsConflict (.error e.toError : Except Error α) ↔
      ∃ answer, e = .server answer ∧ answer.code = "40001" := by
  cases e with
  | query failure =>
    constructor
    · rintro ⟨text, h⟩
      cases h
    · rintro ⟨answer, h, -⟩
      cases h
  | server answer =>
    rw [toError, answer.isConflict_toError_iff]
    simp

inductive Request : Type → Type 1
  | execute (q : Prepared) : Request Nat
  | fetch (q : Prepared) : Request (List Row)
  | fetchAs {α : Type} (q : Prepared) (convert : Row → Except Error α) : Request (List α)
  | fetchRow (q : Prepared) : Request (Option Row)
  | fetchRowAs {α : Type} (q : Prepared) (convert : Row → Except Error α) : Request (Option α)
  | fetchValue {α : Type} (q : Prepared) (r : CellReader α) : Request (Option α)
  | fetchPage (q : PreparedPage) : Request (PageResult Row)
  | fetchPageAs {α : Type} (q : PreparedPage) (convert : Row → Except Error α) :
    Request (PageResult α)
  | fetchOrFirstPage (q : PreparedPage) : Request (PageResult Row)
  | fetchOrFirstPageAs {α : Type} (q : PreparedPage) (convert : Row → Except Error α) :
    Request (PageResult α)

namespace Request

def work (client : Client σ) : {α : Type} → Request α → Work σ α
  | _, execute q => q.execute client
  | _, fetch q => q.fetch client
  | _, fetchAs q convert => q.fetchAs client convert
  | _, fetchRow q => q.fetchRow client
  | _, fetchRowAs q convert => q.fetchRowAs client convert
  | _, fetchValue q r => q.fetchValue client r
  | _, fetchPage q => q.fetch client
  | _, fetchPageAs q convert => q.fetchAs client convert
  | _, fetchOrFirstPage q => q.fetchOrFirstPage client
  | _, fetchOrFirstPageAs q convert => q.fetchOrFirstPageAs client convert

/-- What the caller's own conversion reports of the rows that are fetched. -/
def conversionError? (client : Client σ) (s : Session σ) : {α : Type} → Request α → Option Error
  | _, fetchAs q convert => (q.fetch client).conversionError? id convert s
  | _, fetchRowAs q convert => (q.fetchRow client).conversionError? Option.toList convert s
  | _, fetchPageAs q convert => (q.fetch client).conversionError? PageResult.items convert s
  | _, fetchOrFirstPageAs q convert =>
    (q.fetchOrFirstPage client).conversionError? PageResult.items convert s
  | _, _ => none

variable (connection : Connection σ) (s : Session σ)

/-- Where no call fails, only the reading of rows can. -/
theorem reportsAt_work (r : Request α) :
    (r.work connection.client).ReportsAt connection
      (fun e => e.IsDecode ∨ r.conversionError? connection.client s = some e) s := by
  cases r with
  | execute q => exact (q.reports_execute connection s).mono nofun
  | fetch q => exact (q.reports_fetch connection s).mono nofun
  | fetchAs q convert =>
    exact Work.reportsAt_converted mapM_eq_error_iff ((q.reports_fetch connection s).mono nofun)
  | fetchRow q => exact (q.reports_fetchRow connection s).mono nofun
  | fetchRowAs q convert =>
    exact Work.reportsAt_converted mapM_eq_error_iff_toList
      ((q.reports_fetchRow connection s).mono nofun)
  | fetchValue q r => exact (q.reports_fetchValue connection r s).mono fun _ => Or.inl
  | fetchPage q => exact (q.reports_fetch connection s).mono fun _ => Or.inl
  | fetchPageAs q convert =>
    exact Work.reportsAt_converted PageResult.mapM_eq_error_iff (q.reports_fetch connection s)
  | fetchOrFirstPage q => exact (q.reports_fetchOrFirstPage connection s).mono fun _ => Or.inl
  | fetchOrFirstPageAs q convert =>
    exact Work.reportsAt_converted PageResult.mapM_eq_error_iff
      (q.reports_fetchOrFirstPage connection s)

variable {connection s}

theorem refusesAt_work {r : Request α} {e : Error}
    (h : r.conversionError? connection.client s = some e) :
    (r.work connection.client).RefusesAt connection e s := by
  cases r with
  | fetchAs q convert =>
    exact Work.refusesAt_converted mapM_eq_error_iff (q.reports_fetch connection s) h
  | fetchRowAs q convert =>
    exact Work.refusesAt_converted mapM_eq_error_iff_toList (q.reports_fetchRow connection s) h
  | fetchPageAs q convert =>
    exact Work.refusesAt_converted PageResult.mapM_eq_error_iff (q.reports_fetch connection s) h
  | fetchOrFirstPageAs q convert =>
    exact Work.refusesAt_converted PageResult.mapM_eq_error_iff
      (q.reports_fetchOrFirstPage connection s) h
  | _ => cases h

end Request

/-- Requests one after another, each of which may depend on the results before it. The first error
ends the whole. -/
inductive Procedure (α : Type) : Type 1
  | done (result : α)
  | ask {β : Type} (r : Request β) (next : β → Procedure α)

theorem Work.run_commit (send : σ → Except ConnectionError Unit × σ) (s : Session σ) :
    (Work.commit send).run.run s =
      (ConnectionError.lift (send s.state).1, { s with state := (send s.state).2 }) :=
  rfl

namespace Procedure

def work (client : Client σ) : Procedure α → Work σ α
  | done result => pure result
  | ask r next => r.work client >>= fun b => (next b).work client

def conversionError? (client : Client σ) : Procedure α → Session σ → Option Error
  | done _, _ => none
  | ask r next, s =>
    (r.conversionError? client s).or <|
      match (r.work client).run.run s with
      | (.ok b, s') => (next b).conversionError? client s'
      | (.error _, _) => none

theorem reportsAt_work (connection : Connection σ) (t : Procedure α) (s : Session σ) :
    (t.work connection.client).ReportsAt connection
      (fun e => e.IsDecode ∨ t.conversionError? connection.client s = some e) s := by
  induction t generalizing s with
  | done result => exact Work.Reports.pure result s
  | ask r next ih =>
    apply Work.ReportsAt.bind
    · apply (r.reportsAt_work connection s).mono
      rintro e (hdecode | hrefused)
      · exact .inl hdecode
      · rw [conversionError?, hrefused, Option.some_or]
        exact .inr rfl
    · intro b s' hrun
      have hread : r.conversionError? connection.client s = none := by
        rw [Option.eq_none_iff_forall_ne_some]
        intro e hrefused
        obtain ⟨hresult, -⟩ := Request.refusesAt_work hrefused
        rw [hrun] at hresult
        cases hresult
      rw [conversionError?, hread, Option.none_or, hrun]
      exact ih b s'

theorem refusesAt_work {connection : Connection σ} {t : Procedure α} {s : Session σ} {e : Error}
    (h : t.conversionError? connection.client s = some e) :
    (t.work connection.client).RefusesAt connection e s := by
  induction t generalizing s with
  | done result => cases h
  | ask r next ih =>
    rw [conversionError?] at h
    cases hr : r.conversionError? connection.client s with
    | some e' =>
      rw [hr, Option.some_or] at h
      obtain rfl := Option.some.inj h
      exact (Request.refusesAt_work hr).bind _
    | none =>
      rw [hr, Option.none_or] at h
      rcases hrun : (r.work connection.client).run.run s with ⟨result, s'⟩
      rw [hrun] at h
      cases result with
      | error _ => cases h
      | ok b => exact (r.reportsAt_work connection s).bind_refusesAt hrun (ih b h)

section Committed

variable (connection : Connection σ) (commit : σ → Except ConnectionError Unit × σ)
  (t : Procedure α)

def committed : Work σ α := do
  let result ← t.work connection.client
  Work.commit commit
  return result

/-- The first failure of the connection: of a call, or else of the commit if it comes to that. -/
def firstFailure (s : Session σ) : Option ConnectionError :=
  let (result, s') := (t.work connection.client).run.run s
  let failures := connection.failures (s'.calls.drop s.calls.length) s.state
  (failures.findSome? id).or <|
    match result with
    | .ok _ => ConnectionError.of? (commit s'.state).1
    | .error _ => none

theorem run_committed (s : Session σ) :
    ((t.committed connection commit).run.run s).1 =
      match (t.work connection.client).run.run s with
      | (.ok result, s') => (ConnectionError.lift (commit s'.state).1).map fun _ => result
      | (.error e, _) => .error e := by
  rw [committed, Work.run_bind]
  rcases (t.work connection.client).run.run s with ⟨e | result, s'⟩
  · rfl
  · dsimp only
    rw [Work.run_bind, Work.run_commit]
    cases (commit s'.state).1 with
    | error e => rfl
    | ok _ => rfl

theorem findSome?_of_answered {failures : List (Option ConnectionError)}
    (h : ∀ f ∈ failures, f = none) : failures.findSome? id = none :=
  List.findSome?_eq_none_iff.mpr h

/-- The first failure of the connection is the result, or else only a column or a conversion can
have failed. -/
theorem committed_cases (s : Session σ) :
    (∃ e, t.firstFailure connection commit s = some e ∧
      ((t.committed connection commit).run.run s).1 = .error e.toError) ∨
    (t.firstFailure connection commit s = none ∧
      ∀ e, ((t.committed connection commit).run.run s).1 = .error e →
        e.IsDecode ∨ t.conversionError? connection.client s = some e) := by
  obtain ⟨calls, hcalls, -, hends⟩ := t.reportsAt_work connection s
  rw [run_committed, firstFailure]
  rcases hrun : (t.work connection.client).run.run s with ⟨result, s'⟩
  rw [hrun] at hcalls hends
  dsimp only at hcalls hends ⊢
  rw [hcalls, List.drop_left]
  generalize connection.failures calls s.state = failures at hends
  cases hends with
  | answered hanswered hown =>
    rw [findSome?_of_answered hanswered, Option.none_or]
    cases result with
    | error e => exact .inr ⟨rfl, hown⟩
    | ok result =>
      dsimp only
      cases (commit s'.state).1 with
      | error e => exact .inl ⟨e, rfl, rfl⟩
      | ok _ => exact .inr ⟨rfl, nofun⟩
  | failed before hanswered e =>
    have hsome : (before ++ [some e]).findSome? id = some e := by
      rw [List.findSome?_append, findSome?_of_answered hanswered]
      rfl
    rw [hsome]
    exact .inl ⟨e, rfl, rfl⟩

variable {connection commit t} {s : Session σ}

theorem committed_of_conversionError {e : Error}
    (h : t.conversionError? connection.client s = some e) :
    t.firstFailure connection commit s = none ∧
      ((t.committed connection commit).run.run s).1 = .error e := by
  obtain ⟨hresult, calls, hcalls, hanswered⟩ := refusesAt_work h
  rw [run_committed, firstFailure]
  rcases hrun : (t.work connection.client).run.run s with ⟨result, s'⟩
  rw [hrun] at hresult hcalls
  obtain rfl : result = .error e := hresult
  dsimp only at hcalls ⊢
  rw [hcalls, List.drop_left, findSome?_of_answered hanswered]
  exact ⟨rfl, rfl⟩

theorem isConflict_of_firstFailure {e : ConnectionError}
    (h : t.firstFailure connection commit s = some e) :
    IsConflict ((t.committed connection commit).run.run s).1 ↔
      ∃ answer, e = .server answer ∧ answer.code = "40001" := by
  obtain ⟨e', he', hresult⟩ | ⟨hnone, -⟩ := t.committed_cases connection commit s
  · obtain rfl := Option.some.inj (h.symm.trans he')
    rw [hresult, e.isConflict_toError_iff]
  · rw [hnone] at h
    cases h

/-- A procedure loses against a concurrent one if that is what its first failure says, or a
conversion where there is none. -/
theorem isConflict_iff :
    IsConflict ((t.committed connection commit).run.run s).1 ↔
      (∃ e, t.firstFailure connection commit s = some (.server e) ∧ e.code = "40001") ∨
        t.firstFailure connection commit s = none ∧
          ∃ text, t.conversionError? connection.client s = some (.serialization text) := by
  constructor
  · rintro ⟨text, htext⟩
    obtain ⟨e, he, -⟩ | ⟨hnone, hown⟩ := t.committed_cases connection commit s
    · obtain ⟨answer, rfl, hcode⟩ := (isConflict_of_firstFailure he).mp ⟨text, htext⟩
      exact .inl ⟨answer, he, hcode⟩
    · obtain ⟨column, text', hdecode⟩ | hrefused := hown _ htext
      · cases hdecode
      · exact .inr ⟨hnone, text, hrefused⟩
  · rintro (⟨e, he, hcode⟩ | ⟨-, text, hrefused⟩)
    · exact (isConflict_of_firstFailure he).mpr ⟨e, rfl, hcode⟩
    · exact ⟨text, (committed_of_conversionError hrefused).2⟩

end Committed

end Procedure

/-- If a call fails, it is the last one, and its failure is the result. -/
theorem Ends.of_getElem? {own : Error → Prop} {failures : List (Option ConnectionError)}
    {result : Except Error α} (h : Ends own failures result) {i : Nat} {e : ConnectionError}
    (hi : failures[i]? = some (some e)) :
    i + 1 = failures.length ∧ (∀ j < i, failures[j]? = some none) ∧ result = .error e.toError := by
  cases h with
  | answered hanswered => cases hanswered _ (List.mem_of_getElem? hi)
  | failed before hanswered e' =>
    by_cases hlast : i < before.length
    · rw [List.getElem?_append_left hlast] at hi
      cases hanswered _ (List.mem_of_getElem? hi)
    · have hlength : i < (before ++ [some e']).length := (List.getElem?_eq_some_iff.mp hi).1
      rw [List.length_append, List.length_singleton] at hlength
      obtain rfl : i = before.length := by omega
      rw [List.getElem?_concat_length] at hi
      obtain rfl : e' = e := Option.some.inj (Option.some.inj hi)
      refine ⟨by rw [List.length_append, List.length_singleton], ?_, rfl⟩
      intro j hj
      rw [List.getElem?_append_left hj, List.getElem?_eq_getElem hj]
      exact congrArg some (hanswered _ (List.getElem_mem hj))

namespace Work

variable (w : Work σ α) (s : Session σ)

/-- The session after `n` repetitions of work; what was done before stays done. -/
def sessionAfter : Nat → Session σ
  | 0 => s
  | n + 1 => (w.run.run (sessionAfter n)).2

def outcome (i : Nat) : Except Error α :=
  (w.run.run (w.sessionAfter s (i - 1))).1

end Work

namespace Connection

open Procedure

/-- An error of the server is the last answer to a request, whatever is asked for, and comes out as
the error that stands for it; so it does when it is passed on otherwise, as from a commit. A
procedure that fails with its first error is repeated, while attempts are left, just if that is an
error of the server with the code of a failed serialization, or if no call fails and the caller's
own conversion of the fetched rows reports such a failure. -/
theorem server_errors_decide_repetition (connection : Connection σ)
    (commit : σ → Except ConnectionError Unit × σ) (s : Session σ) :
    (∀ e : ServerError, ∃ error, e.Classified error ∧
      (∀ (α : Type) (r : Request α),
        let outcome := (r.work connection.client).run.run s
        ∃ calls, outcome.2.calls = s.calls ++ calls ∧
          ∀ i, (connection.failures calls s.state)[i]? = some (some (.server e)) →
            i + 1 = calls.length ∧
              (∀ j < i, (connection.failures calls s.state)[j]? = some none) ∧
              outcome.1 = .error error) ∧
      (∀ α : Type, ConnectionError.lift (.error (.server e) : Except ConnectionError α) =
        .error error) ∧
      ((commit s.state).1 = .error (.server e) →
        ((Work.commit commit).run.run s).1 = .error error)) ∧
    ∀ (α : Type) (t : Procedure α) (p : RetryPolicy),
      let w := t.committed connection commit
      let run := p.run (w.outcome s)
      let most := max 1 p.maxAttempts.toNat
      ∀ i, 1 ≤ i → i ≤ run.calls →
        let begun := w.sessionAfter s (i - 1)
        let first := t.firstFailure connection commit begun
        let refused := t.conversionError? connection.client begun
        (∀ e, first = some (.server e) → (i < run.calls ↔ i < most ∧ e.code = "40001")) ∧
        (i < run.calls ↔ i < most ∧
          ((∃ e, first = some (.server e) ∧ e.code = "40001") ∨
            first = none ∧ ∃ text, refused = some (.serialization text))) := by
  refine ⟨fun e => ⟨e.toError, e.classified_toError, ?_, ?_, ?_⟩, ?_⟩
  · intro α r outcome
    obtain ⟨calls, hcalls, -, hends⟩ := r.reportsAt_work connection s
    refine ⟨calls, hcalls, fun i hi => ?_⟩
    rw [← connection.length_failures calls s.state]
    exact hends.of_getElem? hi
  · intro α
    rfl
  · intro h
    rw [Work.run_commit, h]
    rfl
  · intro α t p w run most i hi hmade begun first refused
    rw [p.lt_calls_iff _ hi hmade, p.toNat_attempts]
    refine ⟨fun e he => ?_, ?_⟩
    · rw [Work.outcome, isConflict_of_firstFailure he]
      simp only [ConnectionError.server.injEq, exists_eq_left']
      rfl
    · rw [Work.outcome, isConflict_iff]

/-- The first attempt reads a row and then loses against a concurrent transaction, so there is a
second one, which finds no reply. -/
theorem server_errors_decide_repetition_of_one :
    let lost : ServerError := ⟨"40001", "could not serialize access", none⟩
    let rows : Reply := ⟨[], [("id", .int8)], [[.int 7]], 0, none⟩
    let s : Session Script := .ofState ⟨[rows, ⟨[], [], [], 0, some (.run, lost)⟩], []⟩
    let t : Procedure Nat :=
      .ask (.fetchAs ⟨"SELECT id FROM t", [], none⟩ fun row => row.named .int64 "id") fun _ =>
        .ask (.execute ⟨"DELETE FROM t", [], none⟩) .done
    let w := t.committed Script.connection fun s => (.ok (), s)
    t.firstFailure Script.connection (fun s => (.ok (), s)) s = some (.server lost) ∧
      (RetryPolicy.standard.run (w.outcome s)).calls = 2 := by
  intro lost rows s t w
  have hfirst : t.firstFailure Script.connection (fun s => (.ok (), s)) s = some (.server lost) :=
    rfl
  refine ⟨hfirst, ?_⟩
  obtain ⟨-, hrepeated⟩ :=
    server_errors_decide_repetition Script.connection (fun s => (.ok (), s)) s
  have hone := RetryPolicy.standard.one_le_calls (w.outcome s)
  obtain ⟨-, hiff⟩ := hrepeated Nat t .standard 1 (Nat.le_refl 1) hone
  have htwo : 2 ≤ (RetryPolicy.standard.run (w.outcome s)).calls :=
    hiff.mpr ⟨by decide, .inl ⟨lost, hfirst, rfl⟩⟩
  obtain ⟨hsecond, -⟩ := hrepeated Nat t .standard 2 (by decide) htwo
  have hlast : ¬ 2 < (RetryPolicy.standard.run (w.outcome s)).calls := by
    intro hthird
    exact absurd ((hsecond Script.exhausted rfl).mp hthird).2 (by decide)
  exact Nat.le_antisymm (Nat.le_of_not_lt hlast) htwo

/-- A conversion that reports a failed serialization has its procedure repeated, although the server
answers every statement. -/
theorem conversions_may_report_conflicts :
    let rows : Reply := ⟨[], [("id", .int8)], [[.int 7]], 0, none⟩
    let s : Session Script := .ofState ⟨[rows], []⟩
    let refuse : Row → Except Error Int64 := fun _ => .error (.serialization "row refused")
    let t : Procedure (List Int64) := .ask (.fetchAs ⟨"SELECT id FROM t", [], none⟩ refuse) .done
    let w := t.committed Script.connection fun s => (.ok (), s)
    t.firstFailure Script.connection (fun s => (.ok (), s)) s = none ∧
      1 < (RetryPolicy.standard.run (w.outcome s)).calls := by
  intro rows s refuse t w
  have hanswered : t.firstFailure Script.connection (fun s => (.ok (), s)) s = none := rfl
  refine ⟨hanswered, ?_⟩
  rw [RetryPolicy.lt_calls_iff _ _ (Nat.le_refl 1) (RetryPolicy.one_le_calls _ _)]
  exact ⟨by decide, isConflict_iff.mpr (.inr ⟨hanswered, "row refused", rfl⟩)⟩

end Connection

end PreparedSql
