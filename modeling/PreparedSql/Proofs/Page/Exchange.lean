import PreparedSql.Proofs.Page.Prepared
import PreparedSql.Session.Paging

/-!
# The exchange with a client

Fetching a page sends the first statements of one plan: that of the page, that of the count and that
of the first page. Whatever the client answers, each further one depends on the answers before it
(`PreparedPage.run_fetch_of_told`, `PreparedPage.run_fetch_of_untold`), and the first failure ends
the exchange.
-/
namespace PreparedSql

variable {σ α : Type}

def Session.sent (s : Session σ) (e : Event) (c : Call) (state : σ) : Session σ :=
  (s.report e).called c state

theorem Session.calls_sent (s : Session σ) (e : Event) (c : Call) (state : σ) :
    (s.sent e c state).calls = s.calls ++ [c] := by
  rw [sent, calls_called, calls_report]

def failure? : Except Error α → Option Error
  | .error e => some e
  | .ok _ => none

theorem map_eq_error_iff {β : Type} {f : α → β} {x : Except Error α} {e : Error} :
    x.map f = .error e ↔ failure? x = some e := by
  cases x <;> simp [Except.map, failure?]

theorem map_eq_ok_iff {β : Type} {f : α → β} {x : Except Error α} {b : β} :
    x.map f = .ok b ↔ ∃ a, x = .ok a ∧ f a = b := by
  cases x <;> simp [Except.map]

namespace Prepared

def call (q : Prepared) (method : Method) : Call :=
  ⟨method, q.tag, q.sql, q.args⟩

def sentBy (q : Prepared) (operation : Operation) (method : Method) (state : σ)
    (s : Session σ) : Session σ :=
  s.sent (.running operation q.tag q.args.length) (q.call method) state

theorem run_fetchRow (q : Prepared) (client : Client σ) (s : Session σ) :
    (q.fetchRow client).run.run s =
      ((client.queryFirst (q.call .queryFirst) s.state).1,
        q.sentBy .fetchRow .queryFirst (client.queryFirst (q.call .queryFirst) s.state).2 s) :=
  rfl

end Prepared

/-- Sends the statements of a plan up to the one in the last place. Those before it succeed, and the
whole fails with just what the last one fails with. -/
structure Exchange (plan : List Call) (failures : List (Option Error)) (before : Session σ)
    (outcome : Except Error α × Session σ) (last : Nat) : Prop where
  calls : outcome.2.calls = before.calls ++ plan.take (last + 1)
  succeeded : ∀ i < last, failures[i]? = some none
  failed : ∀ e, outcome.1 = .error e ↔ failures[last]? = some (some e)

/-- What a client would answer to the statements of a plan, each sent after those before it. -/
structure Replies where
  page : Except Error (List Row)
  count : Except Error (Option Row)
  firstPage : Except Error (List Row)

namespace Replies

/-- How many rows there are on all pages as told by those of one, unless there are none. -/
def told : List Row → Except Error (Option Int64)
  | [] => .ok none
  | row :: _ => (row.named .int64 PageRequest.totalColumn).map some

def counted : Option Row → Except Error Int64
  | none => .ok 0
  | some row => row.nth .int64 0

variable (a : Replies)

def failures : List (Option Error) :=
  [failure? (a.page >>= told), failure? (a.count >>= counted), failure? (a.firstPage >>= told)]

/-- Only an empty page behind the first one has its rows counted. -/
def AsksCount (pageIndex : Int64) : Prop :=
  a.page = .ok [] ∧ 0 < pageIndex

/-- The first page is asked for if there are rows, but none on the page. -/
def AsksFirstPage (pageIndex : Int64) : Prop :=
  a.AsksCount pageIndex ∧ ∃ total, (a.count >>= counted) = .ok total ∧ 0 < total

variable {a}

theorem not_asksCount_of_told {rows : List Row} {pageIndex : Int64} (hpage : a.page = .ok rows)
    (htold : rows ≠ [] ∨ pageIndex = 0) : ¬ a.AsksCount pageIndex := by
  rintro ⟨hempty, hpos⟩
  rw [hpage] at hempty
  obtain hrows | rfl := htold
  · exact hrows (Except.ok.inj hempty)
  · exact Int64.lt_irrefl hpos

end Replies

namespace PreparedPage

variable (q : PreparedPage) (client : Client σ) (s : Session σ)

def plan : List Call :=
  [q.query.call .query, q.count.call .queryFirst, q.firstPage.query.call .query]

def replies (state : σ) : Replies :=
  let (page, state) := client.query (q.query.call .query) state
  let (count, state) := client.queryFirst (q.count.call .queryFirst) state
  ⟨page, count, (client.query (q.firstPage.query.call .query) state).1⟩

def afterPage : Session σ :=
  q.query.sentBy .fetch .query (client.query (q.query.call .query) s.state).2 s

def afterCount : Session σ :=
  let s' := q.afterPage client s
  q.count.sentBy .fetchRow .queryFirst
    (client.queryFirst (q.count.call .queryFirst) s'.state).2 s'

theorem run_page :
    (q.query.fetch client).run.run s =
      ((q.replies client s.state).page, q.afterPage client s) :=
  rfl

theorem run_totalCount (hindex : q.pageIndex ≠ 0) :
    (q.totalCount client []).run.run (q.afterPage client s) =
      ((q.replies client s.state).count >>= Replies.counted, q.afterCount client s) := by
  have hreply : (q.replies client s.state).count =
      (client.queryFirst (q.count.call .queryFirst) (q.afterPage client s).state).1 := rfl
  rw [totalCount, if_neg hindex, Prepared.fetchValue, Prepared.fetchRowAs, Work.run_bind,
    Work.run_bind, Prepared.run_fetchRow, ← hreply]
  cases (q.replies client s.state).count with
  | error e => rfl
  | ok answer =>
    cases answer with
    | none => rfl
    | some row =>
      have hcounted : (.ok (some row) : Except Error (Option Row)) >>= Replies.counted =
          row.nth .int64 0 := rfl
      rw [hcounted]
      simp only [Work.run_ofExcept, Option.mapM_some]
      cases row.nth .int64 0 <;> rfl

variable {q client s}

theorem run_fetch_of_error {e : Error} (h : (q.replies client s.state).page = .error e) :
    (q.fetch client).run.run s = (.error e, q.afterPage client s) := by
  rw [fetch, Work.run_bind, run_page, h]

/-- Rows tell how many there are in all, and an empty first page tells that there are none. -/
theorem run_fetch_of_told {rows : List Row} (h : (q.replies client s.state).page = .ok rows)
    (hrows : rows ≠ [] ∨ q.pageIndex = 0) :
    (q.fetch client).run.run s =
      ((Replies.told rows).map fun total => ⟨q.pageIndex, q.pageSize, total.getD 0, rows⟩,
        q.afterPage client s) := by
  rw [fetch, Work.run_bind, run_page, h]
  cases rows with
  | nil =>
    have hindex : q.pageIndex = 0 := hrows.resolve_left fun h => h rfl
    simp only [Work.run_bind, totalCount, if_pos hindex]
    rfl
  | cons row rows =>
    simp only [Work.run_bind, totalCount, Work.run_ofExcept, Replies.told]
    cases row.named .int64 PageRequest.totalColumn <;> rfl

theorem run_fetch_of_untold (h : (q.replies client s.state).page = .ok [])
    (hindex : q.pageIndex ≠ 0) :
    (q.fetch client).run.run s =
      (((q.replies client s.state).count >>= Replies.counted).map
          fun total => ⟨q.pageIndex, q.pageSize, total, []⟩,
        q.afterCount client s) := by
  rw [fetch, Work.run_bind, run_page, h]
  dsimp only
  rw [Work.run_bind, q.run_totalCount client s hindex]
  cases (q.replies client s.state).count >>= Replies.counted <;> rfl

/-- The page fails, or it tells how many rows there are, or they are counted. -/
theorem fetch_cases (q : PreparedPage) (client : Client σ) (s : Session σ)
    (hindex : 0 ≤ q.pageIndex) :
    (∃ e, (q.replies client s.state).page = .error e ∧
      (q.fetch client).run.run s = (.error e, q.afterPage client s)) ∨
    (∃ rows, (q.replies client s.state).page = .ok rows ∧
      ¬ (q.replies client s.state).AsksCount q.pageIndex ∧
      (q.fetch client).run.run s =
        ((Replies.told rows).map fun total => ⟨q.pageIndex, q.pageSize, total.getD 0, rows⟩,
          q.afterPage client s)) ∨
    ((q.replies client s.state).AsksCount q.pageIndex ∧
      (q.fetch client).run.run s =
        (((q.replies client s.state).count >>= Replies.counted).map
            fun total => ⟨q.pageIndex, q.pageSize, total, []⟩,
          q.afterCount client s)) := by
  cases hpage : (q.replies client s.state).page with
  | error e => exact .inl ⟨e, rfl, run_fetch_of_error hpage⟩
  | ok rows =>
    by_cases htold : rows ≠ [] ∨ q.pageIndex = 0
    · exact .inr (.inl ⟨rows, rfl, Replies.not_asksCount_of_told hpage htold,
        run_fetch_of_told hpage htold⟩)
    · obtain ⟨hrows, hne⟩ := not_or.mp htold
      obtain rfl : rows = [] := Decidable.not_not.mp hrows
      exact .inr (.inr ⟨⟨hpage, Int64.lt_of_le_of_ne hindex (Ne.symm hne)⟩,
        run_fetch_of_untold hpage hne⟩)

theorem run_fetchOrFirstPage :
    (q.fetchOrFirstPage client).run.run s =
      match (q.fetch client).run.run s with
      | (.ok page, s') =>
        if page.isPastEnd ∧ 0 < q.pageIndex then (q.firstPage.fetch client).run.run s'
        else (.ok page, s')
      | (.error e, s') => (.error e, s') := by
  rw [fetchOrFirstPage, Work.run_bind]
  rcases (q.fetch client).run.run s with ⟨e | page, s'⟩
  · rfl
  · dsimp only
    split <;> rfl

theorem calls_afterPage : (q.afterPage client s).calls = s.calls ++ q.plan.take 1 :=
  s.calls_sent _ _ _

theorem calls_afterCount : (q.afterCount client s).calls = s.calls ++ q.plan.take 2 := by
  rw [afterCount, Prepared.sentBy, Session.calls_sent, calls_afterPage, List.append_assoc]
  rfl

section Exchange

variable {outcome : Except Error (PageResult Row) × Session σ}

theorem exchange_page (hsession : outcome.2 = q.afterPage client s)
    (hfailed : ∀ e, outcome.1 = .error e ↔
      failure? ((q.replies client s.state).page >>= Replies.told) = some e) :
    Exchange q.plan (q.replies client s.state).failures s outcome 0 where
  calls := by rw [hsession, calls_afterPage]
  succeeded _ hi := absurd hi (Nat.not_lt_zero _)
  failed e := by rw [hfailed]; simp [Replies.failures]

theorem exchange_count (hpage : (q.replies client s.state).page = .ok [])
    (hsession : outcome.2 = q.afterCount client s)
    (hfailed : ∀ e, outcome.1 = .error e ↔
      failure? ((q.replies client s.state).count >>= Replies.counted) = some e) :
    Exchange q.plan (q.replies client s.state).failures s outcome 1 where
  calls := by rw [hsession, calls_afterCount]
  succeeded i hi := by
    obtain rfl : i = 0 := Nat.lt_one_iff.mp hi
    rw [Replies.failures, hpage]
    rfl
  failed e := by rw [hfailed]; simp [Replies.failures]

/-- A first page that is fetched behind the count goes on with the exchange. -/
theorem exchange_firstPage {total : Int64} (hpage : (q.replies client s.state).page = .ok [])
    (hcount : (q.replies client s.state).count >>= Replies.counted = .ok total)
    (h : Exchange q.firstPage.plan
      (q.firstPage.replies client (q.afterCount client s).state).failures
      (q.afterCount client s) outcome 0) :
    Exchange q.plan (q.replies client s.state).failures s outcome 2 where
  calls := by
    rw [h.calls, calls_afterCount, List.append_assoc]
    rfl
  succeeded i hi := by
    rw [Replies.failures, hpage, hcount]
    match i, hi with
    | 0, _ => rfl
    | 1, _ => rfl
  failed := h.failed

end Exchange

variable (q client s)

/-- Only an empty page behind the first one is followed by a second statement. -/
theorem exchange_fetch (hindex : 0 ≤ q.pageIndex) :
    ∃ last < 2,
      Exchange q.plan (q.replies client s.state).failures s ((q.fetch client).run.run s) last ∧
      (1 ≤ last ↔ (q.replies client s.state).AsksCount q.pageIndex) ∧
      ∀ page, ((q.fetch client).run.run s).1 = .ok page →
        page.pageIndex = q.pageIndex ∧ (q.replies client s.state).page = .ok page.items := by
  obtain ⟨e, hpage, hrun⟩ | ⟨rows, hpage, hstops, hrun⟩ | ⟨hasks, hrun⟩ :=
    fetch_cases q client s hindex
  · rw [hrun]
    refine ⟨0, Nat.zero_lt_two, exchange_page rfl ?_, ?_, nofun⟩
    · simp [hpage, failure?, bind, Except.bind]
    · simp [Replies.AsksCount, hpage]
  · rw [hrun]
    refine ⟨0, Nat.zero_lt_two, exchange_page rfl fun e => ?_, ?_, fun page hok => ?_⟩
    · rw [map_eq_error_iff, hpage]
      rfl
    · exact iff_of_false (Nat.not_succ_le_zero 0) hstops
    · obtain ⟨total, -, rfl⟩ := map_eq_ok_iff.mp hok
      exact ⟨rfl, hpage⟩
  · rw [hrun]
    refine ⟨1, Nat.one_lt_two, exchange_count hasks.1 rfl fun e => map_eq_error_iff, ?_,
      fun page hok => ?_⟩
    · exact iff_of_true (Nat.le_refl 1) hasks
    · obtain ⟨total, -, rfl⟩ := map_eq_ok_iff.mp hok
      exact ⟨rfl, hasks.1⟩

variable {q client s} in
/-- A page past the end was counted, and the first page is asked for. -/
theorem asksFirstPage_of_isPastEnd (hindex : 0 ≤ q.pageIndex) {page : PageResult Row}
    (hok : ((q.fetch client).run.run s).1 = .ok page) (hpast : page.isPastEnd = true) :
    (q.replies client s.state).AsksFirstPage q.pageIndex := by
  obtain ⟨e, -, hrun⟩ | ⟨rows, -, -, hrun⟩ | ⟨hasks, hrun⟩ := fetch_cases q client s hindex
  · rw [hrun] at hok
    cases hok
  · rw [hrun] at hok
    obtain ⟨total, htotal, rfl⟩ := map_eq_ok_iff.mp hok
    obtain ⟨hempty, hpos⟩ := Bool.and_eq_true_iff.mp hpast
    obtain rfl : rows = [] := List.isEmpty_iff.mp hempty
    -- no rows tell of none, so they are not past the end
    obtain rfl : none = total := Except.ok.inj htotal
    cases hpos
  · rw [hrun] at hok
    obtain ⟨total, htotal, rfl⟩ := map_eq_ok_iff.mp hok
    obtain ⟨-, hpos⟩ := Bool.and_eq_true_iff.mp hpast
    exact ⟨hasks, total, htotal, of_decide_eq_true hpos⟩

/-- The page stays unless the first page is asked for. -/
theorem exchange_fetchOrFirstPage (hindex : 0 ≤ q.pageIndex) :
    ∃ last < 3,
      Exchange q.plan (q.replies client s.state).failures s
        ((q.fetchOrFirstPage client).run.run s) last ∧
      (1 ≤ last ↔ (q.replies client s.state).AsksCount q.pageIndex) ∧
      (2 ≤ last ↔ (q.replies client s.state).AsksFirstPage q.pageIndex) ∧
      ∀ page, ((q.fetchOrFirstPage client).run.run s).1 = .ok page →
        page.isPastEnd = false ∧
          if last < 2 then page.pageIndex = q.pageIndex ∧
            (q.replies client s.state).page = .ok page.items
          else page.pageIndex = 0 ∧ (q.replies client s.state).firstPage = .ok page.items := by
  by_cases hasks : (q.replies client s.state).AsksFirstPage q.pageIndex
  · obtain ⟨⟨hpage, hpos⟩, total, hcount, htotal⟩ := hasks
    have hrun : (q.fetchOrFirstPage client).run.run s =
        (q.firstPage.fetch client).run.run (q.afterCount client s) := by
      rw [run_fetchOrFirstPage, run_fetch_of_untold hpage (Int64.ne_of_lt hpos).symm, hcount]
      exact if_pos ⟨by simpa [PageResult.isPastEnd] using htotal, hpos⟩
    obtain ⟨last, hlast, hexchange, hcounts, hok⟩ := exchange_fetch q.firstPage client
      (q.afterCount client s) (Int64.le_refl 0)
    -- the first page is not followed by a count
    have hstops : ¬ 1 ≤ last := fun h => Int64.lt_irrefl (hcounts.mp h).2
    obtain rfl : last = 0 := Nat.eq_zero_of_not_pos hstops
    rw [hrun]
    refine ⟨2, Nat.lt_succ_self 2, exchange_firstPage hpage hcount hexchange, ?_, ?_,
      fun page h => ?_⟩
    · exact iff_of_true (Nat.le_succ 1) ⟨hpage, hpos⟩
    · exact iff_of_true (Nat.le_refl 2) ⟨⟨hpage, hpos⟩, total, hcount, htotal⟩
    · refine ⟨?_, hok page h⟩
      rw [Bool.eq_false_iff]
      intro hpast
      exact Int64.lt_irrefl (asksFirstPage_of_isPastEnd (Int64.le_refl 0) h hpast).1.2
  · have hstays : ∀ page, ((q.fetch client).run.run s).1 = .ok page → page.isPastEnd = false :=
      fun page h => Bool.eq_false_iff.mpr fun hpast =>
        hasks (asksFirstPage_of_isPastEnd hindex h hpast)
    have hrun : (q.fetchOrFirstPage client).run.run s = (q.fetch client).run.run s := by
      rw [run_fetchOrFirstPage]
      rcases hfetch : (q.fetch client).run.run s with ⟨e | page, s'⟩
      · rfl
      · have hpage : page.isPastEnd = false := hstays page (by rw [hfetch])
        simp [hpage]
    rw [hrun]
    obtain ⟨last, hlast, hexchange, hcounts, hok⟩ := exchange_fetch q client s hindex
    refine ⟨last, Nat.lt_succ_of_lt hlast, hexchange, hcounts, ?_, fun page h => ?_⟩
    · exact iff_of_false (Nat.not_le.mpr hlast) hasks
    · rw [if_pos hlast]
      exact ⟨hstays page h, hok page h⟩

end PreparedPage

namespace PageRequest

/-- The statement of a page, the count and the statement of the first page; the count has a tag of
its own. -/
def planAt (r : PageRequest) (rows : Fragment) (tag : Option String) (index : Int64) : List Call :=
  let page := (r.onPage index).pageStatement rows
  let count := countStatement rows
  let firstPage := (r.onPage 0).pageStatement rows
  [⟨.query, tag, page.sql, page.args⟩,
    ⟨.queryFirst, tag.map (· ++ ".count"), count.sql, count.args⟩,
    ⟨.query, tag, firstPage.sql, firstPage.args⟩]

theorem Obtained.exists_plan {r : PageRequest} {q : PreparedPage} (h : r.Obtained q) :
    ∃ rows tag, r.renderInner = .ok rows ∧ q.plan = r.planAt rows tag q.pageIndex := by
  obtain ⟨rows, tag, index, hrows, -, rfl⟩ := h.exists_pageAt
  refine ⟨rows, tag, hrows, ?_⟩
  rw [PreparedPage.plan, firstPage_pageAt]
  rfl

end PageRequest

namespace PreparedPage

/-- Whatever is answered, fetching sends the first statements of the plan. The count is sent if the
page came back empty and is not the first one, and the statement of the first page if there are rows
then. The first failure ends the exchange and is its result. A result tells the place of its rows,
and is not past the end where the first page can be had instead. -/
theorem fetching_follows_plan (r : PageRequest) (q : PreparedPage) (h : r.Obtained q)
    (client : Client σ) (s : Session σ) :
    let a := q.replies client s.state
    let fetched := (q.fetch client).run.run s
    let fetchedOrFirst := (q.fetchOrFirstPage client).run.run s
    (∃ rows tag, r.renderInner = .ok rows ∧ q.plan = r.planAt rows tag q.pageIndex) ∧
    (∃ last < 2, Exchange q.plan a.failures s fetched last ∧
      (1 ≤ last ↔ a.AsksCount q.pageIndex) ∧
      ∀ page, fetched.1 = .ok page → page.pageIndex = q.pageIndex ∧ a.page = .ok page.items) ∧
    (∃ last < 3, Exchange q.plan a.failures s fetchedOrFirst last ∧
      (1 ≤ last ↔ a.AsksCount q.pageIndex) ∧ (2 ≤ last ↔ a.AsksFirstPage q.pageIndex) ∧
      ∀ page, fetchedOrFirst.1 = .ok page → page.isPastEnd = false ∧
        if last < 2 then page.pageIndex = q.pageIndex ∧ a.page = .ok page.items
        else page.pageIndex = 0 ∧ a.firstPage = .ok page.items) :=
  ⟨h.exists_plan, exchange_fetch q client s h.accepted.1,
    exchange_fetchOrFirstPage q client s h.accepted.1⟩

def vanishingRows : Client Unit where
  query _ _ := (.ok [], ())
  queryFirst _ _ := (.ok (some ⟨[⟨"_totalrows", .int8, .int 3⟩]⟩), ())
  execute _ _ := (.ok 0, ())

theorem asksFirstPage_vanishingRows (q : PreparedPage) (hindex : 0 < q.pageIndex) :
    (q.replies vanishingRows ()).AsksFirstPage q.pageIndex :=
  ⟨⟨rfl, hindex⟩, 3, rfl, by decide⟩

/-- If the rows vanish behind the count, all three statements are sent and the first page is
empty. -/
theorem fetching_follows_plan_vanishing :
    ∃ q, (PageRequest.mk ⟨.select ⟨"items", ["id"], false, false⟩, []⟩ 2 10 []).Obtained q ∧
      let outcome := (q.fetchOrFirstPage vanishingRows).run.run (.ofState ())
      outcome.2.calls.map Call.tag = [some "items", some "items.count", some "items"] ∧
        ∀ page, outcome.1 = .ok page → page.pageIndex = 0 ∧ page.items = [] := by
  obtain ⟨rows, hrows⟩ := PageRequest.exists_rows_of_checkAll
    (.mk ⟨.select ⟨"items", ["id"], false, false⟩, []⟩ 2 10 []) rfl
  have hprepare := (PageRequest.prepare_eq_ok_iff _).mpr ⟨rows, hrows, rfl⟩
  have hobtained := PageRequest.Obtained.tagged "items" (.prepared hprepare)
  refine ⟨_, hobtained, ?_⟩
  obtain ⟨-, -, last, hlast, hexchange, -, hfirst, hok⟩ :=
    fetching_follows_plan _ _ hobtained vanishingRows (.ofState ())
  have hindex : (0 : Int64) < 2 := by decide
  have hasks : 2 ≤ last := hfirst.mpr (asksFirstPage_vanishingRows _ hindex)
  obtain rfl : last = 2 := Nat.le_antisymm (Nat.le_of_lt_succ hlast) hasks
  refine ⟨?_, fun page h => ?_⟩
  · rw [hexchange.calls]
    rfl
  · obtain ⟨hplace, hitems⟩ := (hok page h).2
    exact ⟨hplace, (Except.ok.inj hitems).symm⟩

end PreparedPage

end PreparedSql
