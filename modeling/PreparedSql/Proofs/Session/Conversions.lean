import PreparedSql.Proofs.Session.Failures
import PreparedSql.Session.Paging

/-!
# Errors of reading rows

Rows are read when the calls that fetch them are answered. A column that cannot be read is an error
of a kind of its own (`Error.IsDecode`). The conversion of rows that a caller brings along may
report any error, and the first row that it refuses ends the whole (`Work.refusesAt_converted`).
-/
namespace PreparedSql

variable {σ α β γ : Type}

def Error.IsDecode (e : Error) : Prop :=
  ∃ column text, e = .decode column text

theorem Row.isDecode_of_readColumn {row : Row} {r : CellReader α} {label : String}
    {index : Option Nat} {e : Error} (h : row.readColumn r label index = .error e) :
    e.IsDecode := by
  unfold Row.readColumn at h
  split at h
  · cases h
    exact ⟨_, _, rfl⟩
  · split at h
    · cases h
    · cases h
      exact ⟨_, _, rfl⟩

def firstRefusal? (convert : Row → Except Error α) : List Row → Option Error
  | [] => none
  | row :: rows =>
    match convert row with
    | .error e => some e
    | .ok _ => firstRefusal? convert rows

section Refusals

variable {convert : Row → Except Error α} {e : Error}

theorem exists_of_firstRefusal? {rows : List Row} (h : firstRefusal? convert rows = some e) :
    ∃ row ∈ rows, convert row = .error e := by
  induction rows with
  | nil => cases h
  | cons row rows ih =>
    rw [firstRefusal?] at h
    split at h
    · next e' hrow =>
      obtain rfl := Option.some.inj h
      exact ⟨row, List.mem_cons_self, hrow⟩
    · obtain ⟨row', hmem, hrow'⟩ := ih h
      exact ⟨row', List.mem_cons_of_mem row hmem, hrow'⟩

theorem mapM_eq_error_iff (rows : List Row) (e : Error) :
    rows.mapM convert = .error e ↔ firstRefusal? convert rows = some e := by
  induction rows with
  | nil =>
    constructor
    · nofun
    · nofun
  | cons row rows ih =>
    rw [List.mapM_cons, firstRefusal?]
    cases convert row with
    | error e' =>
      change Except.error e' = Except.error e ↔ _
      simp only [Except.error.injEq, Option.some.injEq]
    | ok a =>
      dsimp only
      rw [← ih]
      cases rows.mapM convert with
      | error e' => rfl
      | ok items =>
        constructor
        · nofun
        · nofun

theorem mapM_eq_error_iff_toList (row : Option Row) (e : Error) :
    row.mapM convert = .error e ↔ firstRefusal? convert row.toList = some e := by
  cases row with
  | none =>
    constructor
    · nofun
    · nofun
  | some row =>
    rw [Option.mapM_some, Option.toList_some, firstRefusal?]
    cases convert row with
    | error e' =>
      change Except.error e' = Except.error e ↔ _
      simp only [Except.error.injEq, Option.some.injEq]
    | ok a =>
      constructor
      · nofun
      · nofun

theorem PageResult.mapM_eq_error_iff (page : PageResult Row) (e : Error) :
    page.mapM convert = .error e ↔ firstRefusal? convert page.items = some e := by
  rw [← PreparedSql.mapM_eq_error_iff, PageResult.mapM]
  cases page.items.mapM convert with
  | error e' =>
    change Except.error e' = Except.error e ↔ _
    simp only [Except.error.injEq]
  | ok items =>
    constructor
    · nofun
    · nofun

end Refusals

namespace Work

/-- What a conversion reports of the rows that work fetches, if the work comes to an end. -/
def conversionError? (fetched : Work σ β) (rows : β → List Row)
    (convert : Row → Except Error α) (s : Session σ) : Option Error :=
  match (fetched.run.run s).1 with
  | .ok b => firstRefusal? convert (rows b)
  | .error _ => none

def RefusesAt (connection : Connection σ) (e : Error) (w : Work σ α) (s : Session σ) : Prop :=
  (w.run.run s).1 = .error e ∧
    ∃ calls, (w.run.run s).2.calls = s.calls ++ calls ∧
      ∀ f ∈ connection.failures calls s.state, f = none

variable {connection : Connection σ} {own : Error → Prop} {e : Error} {w : Work σ α}
  {s : Session σ}

theorem RefusesAt.bind (h : w.RefusesAt connection e s) (next : α → Work σ β) :
    (w >>= next).RefusesAt connection e s := by
  obtain ⟨hresult, calls, hcalls, hanswered⟩ := h
  rw [RefusesAt, run_bind]
  rcases hrun : w.run.run s with ⟨result, s'⟩
  rw [hrun] at hresult hcalls
  obtain rfl : result = .error e := hresult
  exact ⟨rfl, calls, hcalls, hanswered⟩

theorem ReportsAt.bind_refusesAt {next : α → Work σ β} {a : α} {s' : Session σ}
    (h : w.ReportsAt connection own s) (hrun : w.run.run s = (.ok a, s'))
    (hnext : (next a).RefusesAt connection e s') : (w >>= next).RefusesAt connection e s := by
  obtain ⟨calls, hcalls, hstate, hends⟩ := h
  obtain ⟨hresult, later, hlater, hanswered⟩ := hnext
  rw [hrun] at hcalls hstate hends
  rw [RefusesAt, run_bind, hrun]
  refine ⟨hresult, calls ++ later, ?_, ?_⟩
  · rw [hlater, hcalls, List.append_assoc]
  · rw [connection.failures_append, ← hstate]
    exact List.forall_mem_append.mpr ⟨hends.all_answered, hanswered⟩

section Converted

variable {fetched : Work σ β} {rows : β → List Row} {convert : Row → Except Error α}
  {read : β → Except Error γ}
  (hread : ∀ b e, read b = .error e ↔ firstRefusal? convert (rows b) = some e)
  (h : fetched.ReportsAt connection own s)
include hread h

theorem reportsAt_converted :
    (fetched >>= fun b => ofExcept (read b)).ReportsAt connection
      (fun e => own e ∨ fetched.conversionError? rows convert s = some e) s := by
  apply (h.mono fun _ => Or.inl).bind
  intro b s' hrun
  apply ReportsAt.ofExcept
  intro e he
  right
  rw [conversionError?, hrun]
  exact (hread b e).mp he

theorem refusesAt_converted (he : fetched.conversionError? rows convert s = some e) :
    (fetched >>= fun b => ofExcept (read b)).RefusesAt connection e s := by
  obtain ⟨calls, hcalls, -, hends⟩ := h
  rcases hrun : fetched.run.run s with ⟨result, s'⟩
  rw [conversionError?, hrun] at he
  rw [hrun] at hcalls hends
  cases result with
  | error _ => cases he
  | ok b =>
    rw [RefusesAt, run_bind, hrun]
    exact ⟨(hread b e).mpr he, calls, hcalls, hends.all_answered⟩

end Converted

end Work

namespace Prepared

variable (connection : Connection σ) (q : Prepared)

/-- A run makes one call, so it reports what the client that it is handed to reports of that. -/
theorem reports_run {send : Call → σ → Except Error α × σ} (operation : Operation)
    {method : Method}
    (hstate : ∀ s, (send ⟨method, q.tag, q.sql, q.args⟩ s).2 =
      (connection.answer ⟨method, q.tag, q.sql, q.args⟩ s).2)
    (hpasses : ∀ s, ConnectionError.Passes
      (connection.answer ⟨method, q.tag, q.sql, q.args⟩ s).1
      (send ⟨method, q.tag, q.sql, q.args⟩ s).1) :
    (q.run send operation method).Reports connection fun _ => False := by
  apply Work.Reports.bind (Work.Reports.report _)
  intro _
  exact Work.Reports.call hstate hpasses

theorem reports_execute : (q.execute connection.client).Reports connection fun _ => False :=
  q.reports_run connection .execute (fun _ => rfl) fun _ => ConnectionError.passes_lift _

theorem reports_fetch : (q.fetch connection.client).Reports connection fun _ => False :=
  q.reports_run connection .fetch (fun _ => rfl) fun _ => ConnectionError.passes_lift _

/-- Taking the first row of an answer does not change whether there is one. -/
theorem reports_fetchRow : (q.fetchRow connection.client).Reports connection fun _ => False :=
  q.reports_run connection .fetchRow (fun _ => rfl) fun _ =>
    (ConnectionError.passes_lift _).map List.head?

theorem reports_fetchValue (r : CellReader α) :
    (q.fetchValue connection.client r).Reports connection Error.IsDecode := by
  intro s
  apply (Work.reportsAt_converted mapM_eq_error_iff_toList (q.reports_fetchRow connection s)).mono
  rintro e (hnone | hrefused)
  · exact hnone.elim
  · unfold Work.conversionError? at hrefused
    split at hrefused
    · obtain ⟨row, -, hrow⟩ := exists_of_firstRefusal? hrefused
      exact Row.isDecode_of_readColumn hrow
    · cases hrefused

end Prepared

namespace PreparedPage

variable (connection : Connection σ) (q : PreparedPage)

theorem reports_totalCount (rows : List Row) :
    (q.totalCount connection.client rows).Reports connection Error.IsDecode := by
  cases rows with
  | cons row rows => exact Work.Reports.ofExcept fun e h => Row.isDecode_of_readColumn h
  | nil =>
    by_cases hindex : q.pageIndex = 0
    · rw [totalCount, if_pos hindex]
      exact Work.Reports.pure 0
    · rw [totalCount, if_neg hindex]
      apply (q.count.reports_fetchValue connection _).bind
      intro total
      exact Work.Reports.pure _

theorem reports_fetch : (q.fetch connection.client).Reports connection Error.IsDecode := by
  apply ((q.query.reports_fetch connection).mono nofun).bind
  intro rows
  apply (q.reports_totalCount connection rows).bind
  intro total
  exact Work.Reports.pure _

theorem reports_fetchOrFirstPage :
    (q.fetchOrFirstPage connection.client).Reports connection Error.IsDecode := by
  apply (q.reports_fetch connection).bind
  intro page
  by_cases hfirst : page.isPastEnd ∧ 0 < q.pageIndex
  · rw [if_pos hfirst]
    exact q.firstPage.reports_fetch connection
  · rw [if_neg hfirst]
    exact Work.Reports.pure page

end PreparedPage

end PreparedSql
