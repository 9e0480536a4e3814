import Mathlib.Data.List.Basic
import PreparedSql.Proofs.Page.Count
import PreparedSql.Proofs.Page.Exchange

/-!
# Pages as windows

From a server that answers by fixed rows, a page holds the rows in its window and their number, and
all pages one after another hold all rows. Nothing is said of the statement but that the server
answers it (`PageRequest.Serves`).
-/
namespace PreparedSql

def Column.ofTotal (n : Nat) : Column :=
  ⟨PageRequest.totalColumn, .int8, .int (.ofNat n)⟩

namespace Row

def withTotal (n : Nat) (row : Row) : Row :=
  ⟨row.columns ++ [.ofTotal n]⟩

def withoutTotal (row : Row) : Row :=
  ⟨row.columns.filter fun c => c.name != PageRequest.totalColumn⟩

/-- No column has the name of the one that tells how many rows there are. -/
def TotalFree (row : Row) : Prop :=
  ∀ c ∈ row.columns, c.name ≠ PageRequest.totalColumn

instance (row : Row) : Decidable row.TotalFree :=
  inferInstanceAs (Decidable (∀ c ∈ row.columns, c.name ≠ PageRequest.totalColumn))

variable {row : Row} (h : row.TotalFree) (n : Nat)
include h

theorem withoutTotal_withTotal : (row.withTotal n).withoutTotal = row := by
  have hcolumns : row.columns.filter (fun c => c.name != PageRequest.totalColumn) = row.columns :=
    List.filter_eq_self.mpr fun c hc => bne_iff_ne.mpr (h c hc)
  have htotal : [Column.ofTotal n].filter (fun c => c.name != PageRequest.totalColumn) = [] := by
    simp [Column.ofTotal]
  rw [withoutTotal, withTotal, List.filter_append, hcolumns, htotal, List.append_nil]

/-- A column whose name differs in the case of its letters is not taken for it. -/
theorem columnIndex?_withTotal :
    (row.withTotal n).columnIndex? PageRequest.totalColumn = some row.columns.length := by
  have hnone : row.columns.findIdx? (·.name == PageRequest.totalColumn) = none :=
    List.findIdx?_eq_none_iff.mpr fun c hc => beq_eq_false_iff_ne.mpr (h c hc)
  rw [columnIndex?, withTotal, List.findIdx?_append, hnone]
  simp [Column.ofTotal]

theorem named_withTotal :
    (row.withTotal n).named .int64 PageRequest.totalColumn = .ok (.ofNat n) := by
  have hcolumn : (row.withTotal n).columns[row.columns.length]? = some (.ofTotal n) := by
    simp [withTotal]
  rw [named, columnIndex?_withTotal h, readColumn, Option.bind_some, hcolumn]
  rfl

end Row

section Windows

variable {α : Type}

/-- The part of a list that belongs on a page. -/
def window (index size : Int64) (l : List α) : List α :=
  (l.drop (index.toInt.toNat * size.toInt.toNat)).take size.toInt.toNat

theorem length_window_le (index size : Int64) (l : List α) :
    (window index size l).length ≤ size.toInt.toNat :=
  List.length_take_le _ _

theorem window_eq_nil_iff {index size : Int64} (hindex : 0 ≤ index) (hsize : 1 ≤ size)
    (l : List α) : window index size l = [] ↔ (l.length : Int) ≤ index.toInt * size.toInt := by
  have hindex' : (index.toInt.toNat : Int) = index.toInt :=
    Int.toNat_of_nonneg (Int64.le_iff_toInt_le.mp hindex)
  have hone : 1 ≤ size.toInt := Int64.le_iff_toInt_le.mp hsize
  have hsize' : (size.toInt.toNat : Int) = size.toInt := Int.toNat_of_nonneg (by omega)
  have hne : size.toInt.toNat ≠ 0 := by omega
  rw [window, List.take_eq_nil_iff, or_iff_right hne, List.drop_eq_nil_iff, ← hindex', ← hsize']
  norm_cast

/-- The windows of as many pages are the front of the list. -/
theorem flatMap_windows (size pages : Nat) (l : List α) :
    (List.range pages).flatMap (fun index => (l.drop (index * size)).take size) =
      l.take (pages * size) := by
  induction pages with
  | zero => simp
  | succ pages ih =>
    rw [List.range_succ, List.flatMap_append, ih, List.flatMap_singleton, Nat.succ_mul,
      List.take_add]

end Windows

namespace PageRequest

open PreparedPage

variable {σ : Type} {client : Client σ} {r : PageRequest} {q : PreparedPage} {l : List Row}
  {s : Session σ}

/-- A server that finds the rows, whenever and under whatever tag it is asked for a part of them or
their number. -/
structure Serves (client : Client σ) (r : PageRequest) (l : List Row) : Prop where
  query : ∀ rows, r.inner.render = .ok rows → ∀ tag (offset size : Int64) state,
    0 ≤ offset → 0 ≤ size →
    (client.query ⟨.query, tag, (r.pageStatement rows).sql,
        rows.args ++ [.int offset, .int size]⟩ state).1 =
      .ok (((l.drop offset.toInt.toNat).take size.toInt.toNat).map (Row.withTotal l.length))
  queryFirst : ∀ rows, r.inner.render = .ok rows → ∀ tag state,
    (client.queryFirst ⟨.queryFirst, tag, (countStatement rows).sql, rows.args⟩ state).1 =
      .ok (some ⟨[.ofTotal l.length]⟩)

theorem Serves.onPage (h : Serves client r l) (index : Int64) :
    Serves client (r.onPage index) l where
  query rows hrows tag offset size state := by
    rw [pageStatement_sql_onPage]
    exact h.query rows hrows tag offset size state
  queryFirst := h.queryFirst

def served (r : PageRequest) (l : List Row) (index : Int64) : PageResult Row :=
  ⟨index, r.pageSize, .ofNat l.length, (window index r.pageSize l).map (Row.withTotal l.length)⟩

section Served

variable {index : Int64} (hlength : (l.length : Int) ≤ Int64.maxValue.toInt)
  (hsize : 1 ≤ r.pageSize)
include hlength

theorem toInt_totalCount_served : (r.served l index).totalCount.toInt = l.length := by
  rw [Int64.toInt_maxValue] at hlength
  exact Int64.toInt_ofNat_of_lt (by omega)

theorem totalCount_served_nonneg : 0 ≤ (r.served l index).totalCount := by
  rw [Int64.le_iff_toInt_le, toInt_totalCount_served hlength]
  exact Int.natCast_nonneg _

include hsize

theorem lt_pageCount_served_iff (i : Int) :
    i < (r.served l index).pageCount.toInt ↔ i * r.pageSize.toInt < l.length := by
  rw [PageResult.lt_pageCount_iff (totalCount_served_nonneg hlength) hsize,
    toInt_totalCount_served hlength]
  rfl

theorem isPastEnd_served_iff (hindex : 0 ≤ index) :
    (r.served l index).isPastEnd = true ↔ l ≠ [] ∧ (r.served l index).pageCount ≤ index := by
  have hempty : (r.served l index).items.isEmpty = true ↔
      (r.served l index).pageCount ≤ index := by
    rw [List.isEmpty_iff, served, List.map_eq_nil_iff, window_eq_nil_iff hindex hsize,
      Int64.le_iff_toInt_le, ← Int.not_lt, ← Int.not_lt]
    exact not_congr (lt_pageCount_served_iff hlength hsize _).symm
  have htotal : 0 < (r.served l index).totalCount ↔ l ≠ [] := by
    rw [Int64.lt_iff_toInt_lt, toInt_totalCount_served hlength, ← List.length_pos_iff]
    exact Int.natCast_pos
  rw [PageResult.isPastEnd, Bool.and_eq_true, decide_eq_true_iff, hempty, htotal, and_comm]

end Served

theorem replies_of_serves (h : r.Obtained q) (hserves : Serves client r l) (state : σ) :
    (q.replies client state).page = .ok (r.served l q.pageIndex).items ∧
      (q.replies client state).count = .ok (some ⟨[.ofTotal l.length]⟩) := by
  obtain ⟨hindex, hsize, hfits⟩ := h.accepted
  obtain ⟨rows, tag, index, hrows, -, rfl⟩ := h.exists_pageAt
  have hrender := (renderInner_eq_ok_iff.mp hrows).2
  refine ⟨?_, hserves.queryFirst rows hrender _ _⟩
  have hindex' : 0 ≤ index.toInt := Int64.le_iff_toInt_le.mp hindex
  have hsize' : 0 ≤ r.pageSize.toInt := Int.le_trans (by decide) (Int64.le_iff_toInt_le.mp hsize)
  have hproduct : 0 ≤ index.toInt * r.pageSize.toInt := Int.mul_nonneg hindex' hsize'
  -- the bound row offset is the exact product
  have hoffset : (Int64.ofInt (r.onPage index).rowOffset).toInt =
      index.toInt * r.pageSize.toInt :=
    Int64.toInt_ofInt_of_le (Int.le_trans (by decide) hproduct) (Int.lt_add_one_of_le hfits)
  have hnonneg : 0 ≤ Int64.ofInt (r.onPage index).rowOffset := by
    rw [Int64.le_iff_toInt_le, hoffset]
    exact hproduct
  have hquery := hserves.query rows hrender tag _ r.pageSize state hnonneg
    (Int64.le_iff_toInt_le.mpr hsize')
  rw [hoffset, Int.toNat_mul hindex' hsize', ← r.pageStatement_sql_onPage rows index] at hquery
  exact hquery

theorem told_served (hfree : ∀ row ∈ l, row.TotalFree) {index : Int64}
    (hitems : (r.served l index).items ≠ []) :
    Replies.told (r.served l index).items = .ok (some (.ofNat l.length)) := by
  cases hwindow : window index r.pageSize l with
  | nil => exact absurd (by rw [served, hwindow, List.map_nil]) hitems
  | cons row rows =>
    have hrow : row ∈ l := List.mem_of_mem_drop (List.mem_of_mem_take
      (hwindow ▸ List.mem_cons_self : row ∈ window index r.pageSize l))
    rw [served, hwindow, List.map_cons, Replies.told, Row.named_withTotal (hfree row hrow)]
    rfl

theorem fetch_of_serves (h : r.Obtained q) (hserves : Serves client r l)
    (hfree : ∀ row ∈ l, row.TotalFree) (s : Session σ) :
    ((q.fetch client).run.run s).1 = .ok (r.served l q.pageIndex) := by
  obtain ⟨hpage, hcount⟩ := replies_of_serves h hserves s.state
  obtain ⟨hindex, hsize, -⟩ := h.accepted
  by_cases hitems : (r.served l q.pageIndex).items = []
  · have hresult : r.served l q.pageIndex = ⟨q.pageIndex, q.pageSize, .ofNat l.length, []⟩ := by
      rw [← hitems, h.pageSize_eq]
      rfl
    rw [hitems] at hpage
    rw [hresult]
    by_cases hfirst : q.pageIndex = 0
    · -- an empty first page has no rows behind it
      have hwindow := (window_eq_nil_iff hindex hsize l).mp (List.map_eq_nil_iff.mp hitems)
      rw [hfirst, Int64.toInt_zero, Int.zero_mul] at hwindow
      have hzero : l.length = 0 := Int.natCast_nonpos_iff.mp hwindow
      rw [run_fetch_of_told hpage (.inr hfirst), hzero]
      rfl
    · have hcounted : Replies.counted (some ⟨[.ofTotal l.length]⟩) = .ok (.ofNat l.length) := rfl
      rw [run_fetch_of_untold hpage hfirst, hcount]
      simp only [bind, Except.bind, hcounted, Except.map]
  · rw [run_fetch_of_told hpage (.inl hitems), told_served hfree hitems, h.pageSize_eq]
    rfl

theorem run_fetch_of_serves (h : r.Obtained q) (hserves : Serves client r l)
    (hfree : ∀ row ∈ l, row.TotalFree) (s : Session σ) :
    ∃ s', (q.fetch client).run.run s = (.ok (r.served l q.pageIndex), s') :=
  ⟨_, Prod.ext (fetch_of_serves h hserves hfree s) rfl⟩

/-- The page, if it is one of those counted or there are no rows, and else the first one. -/
theorem fetchOrFirstPage_of_serves (h : r.Obtained q) (hserves : Serves client r l)
    (hlength : (l.length : Int) ≤ Int64.maxValue.toInt) (hfree : ∀ row ∈ l, row.TotalFree) :
    ((q.fetchOrFirstPage client).run.run s).1 =
      .ok (if q.pageIndex < (r.served l q.pageIndex).pageCount ∨ l = [] then
        r.served l q.pageIndex else r.served l 0) := by
  obtain ⟨hindex, hsize, -⟩ := h.accepted
  obtain ⟨s', hfetch⟩ := run_fetch_of_serves h hserves hfree s
  have hpast : (r.served l q.pageIndex).isPastEnd = true ↔
      ¬ (q.pageIndex < (r.served l q.pageIndex).pageCount ∨ l = []) := by
    rw [isPastEnd_served_iff hlength hsize hindex, not_or, Int64.not_lt, and_comm]
  rw [run_fetchOrFirstPage, hfetch]
  dsimp only
  by_cases hkept : q.pageIndex < (r.served l q.pageIndex).pageCount ∨ l = []
  · rw [if_pos hkept, if_neg fun hasks => hpast.mp hasks.1 hkept]
  · rw [if_neg hkept]
    by_cases hfirst : q.pageIndex = 0
    · rw [hfirst, if_neg fun hasks => Int64.lt_irrefl hasks.2]
    · rw [if_pos ⟨hpast.mpr hkept, Int64.lt_of_le_of_ne hindex (Ne.symm hfirst)⟩]
      exact fetch_of_serves h.firstPage hserves hfree _

section Pages

def fetchPages (r : PageRequest) (client : Client σ) : List Int64 → Work σ (List Row)
  | [] => pure []
  | index :: later => do
    let q ← Work.ofExcept (r.onPage index).prepare
    let page ← q.fetch client
    let rows ← r.fetchPages client later
    return page.items ++ rows

theorem run_fetchPages {rows : Fragment} (hrows : r.renderInner = .ok rows)
    (hserves : Serves client r l) (hfree : ∀ row ∈ l, row.TotalFree) (indices : List Int64)
    (hindices : ∀ index ∈ indices,
      0 ≤ index ∧ index.toInt * r.pageSize.toInt ≤ Int64.maxValue.toInt)
    (s : Session σ) :
    ∃ s', (r.fetchPages client indices).run.run s =
      (.ok (indices.flatMap fun index => (r.served l index).items), s') := by
  induction indices generalizing s with
  | nil => exact ⟨s, rfl⟩
  | cons index later ih =>
    obtain ⟨⟨hindex, hfits⟩, hbehind⟩ := List.forall_mem_cons.mp hindices
    have hprepare : (r.onPage index).prepare = .ok ((r.onPage index).pageAt rows none index) :=
      (prepare_eq_ok_iff _).mpr ⟨rows, renderInner_onPage hrows hindex hfits, rfl⟩
    obtain ⟨s₁, hfetch⟩ :=
      run_fetch_of_serves (.prepared hprepare) (hserves.onPage index) hfree s
    obtain ⟨s₂, hlater⟩ := ih hbehind s₁
    refine ⟨s₂, ?_⟩
    rw [fetchPages, Work.run_bind, Work.run_ofExcept, hprepare]
    dsimp only
    rw [Work.run_bind, hfetch]
    dsimp only
    rw [Work.run_bind, hlater]
    rfl

/-- The indices of the pages that are counted, from a page of the rows. -/
def pageIndices (page : PageResult Row) : List Int64 :=
  (List.range page.pageCount.toInt.toNat).map Int64.ofNat

section Indices

variable (hlength : (l.length : Int) ≤ Int64.maxValue.toInt) (hsize : 1 ≤ r.pageSize)
  (index : Int64)
include hlength hsize

/-- A page that is counted begins before the last row. -/
theorem begins_of_lt_pageCount {i : Nat} (hi : i < (r.served l index).pageCount.toInt.toNat) :
    (Int64.ofNat i).toInt = i ∧ (i : Int) * r.pageSize.toInt ≤ Int64.maxValue.toInt := by
  have hcounted : (i : Int) < (r.served l index).pageCount.toInt := Int.lt_toNat.mp hi
  have hbegins := (lt_pageCount_served_iff hlength hsize i).mp hcounted
  have hbound := (r.served l index).pageCount.toInt_le
  rw [Int64.toInt_maxValue] at hbound
  exact ⟨Int64.toInt_ofNat_of_lt (by omega), Int.le_trans (Int.le_of_lt hbegins) hlength⟩

theorem acceptable_of_mem_pageIndices :
    ∀ i ∈ pageIndices (r.served l index),
      0 ≤ i ∧ i.toInt * r.pageSize.toInt ≤ Int64.maxValue.toInt := by
  intro i hi
  obtain ⟨n, hn, rfl⟩ := List.mem_map.mp hi
  obtain ⟨htoInt, hfits⟩ := begins_of_lt_pageCount hlength hsize index (List.mem_range.mp hn)
  rw [Int64.le_iff_toInt_le, htoInt]
  exact ⟨Int.natCast_nonneg n, hfits⟩

/-- The pages that are counted hold the rows in their order, each of them once. -/
theorem flatMap_pageIndices :
    ((pageIndices (r.served l index)).flatMap fun i => (r.served l i).items) =
      l.map (Row.withTotal l.length) := by
  have hitems : ∀ n ∈ List.range (r.served l index).pageCount.toInt.toNat,
      (r.served l (.ofNat n)).items =
        ((l.drop (n * r.pageSize.toInt.toNat)).take r.pageSize.toInt.toNat).map
          (Row.withTotal l.length) := by
    intro n hn
    obtain ⟨htoInt, -⟩ := begins_of_lt_pageCount hlength hsize index (List.mem_range.mp hn)
    rw [served, window, htoInt, Int.toNat_natCast]
  have hall : l.length ≤ (r.served l index).pageCount.toInt.toNat * r.pageSize.toInt.toNat := by
    have hone : 1 ≤ r.pageSize.toInt := Int64.le_iff_toInt_le.mp hsize
    have hnonneg : -1 < (r.served l index).pageCount.toInt :=
      (lt_pageCount_served_iff hlength hsize _).mpr (by omega)
    have hlast := mt (lt_pageCount_served_iff hlength hsize _).mpr
      (Int.lt_irrefl (r.served l index).pageCount.toInt)
    rw [← Int.ofNat_le, Int.natCast_mul, Int.toNat_of_nonneg (by omega),
      Int.toNat_of_nonneg (by omega)]
    exact Int.not_lt.mp hlast
  rw [pageIndices, List.flatMap_map, List.flatMap_congr hitems, ← List.map_flatMap,
    flatMap_windows, List.take_of_length_le hall]

end Indices

/-- From a server that finds the rows of a list, a page holds those in its window and their number.
It is past the end if there are rows, but it is not one of those counted; then the first page can be
had instead. All pages that are counted, one after another, hold the rows of the list. -/
theorem fetching_is_window (r : PageRequest) (q : PreparedPage) (h : r.Obtained q)
    (client : Client σ) (l : List Row) (hserves : Serves client r l)
    (hlength : (l.length : Int) ≤ Int64.maxValue.toInt)
    (hfree : ∀ row ∈ l, row.TotalFree) (s : Session σ) :
    ∃ page, ((q.fetch client).run.run s).1 = .ok page ∧
      page.pageIndex = q.pageIndex ∧ page.pageSize = r.pageSize ∧
      page.totalCount.toInt = l.length ∧
      page.items = (window q.pageIndex r.pageSize l).map (Row.withTotal l.length) ∧
      page.items.length ≤ r.pageSize.toInt.toNat ∧
      (page.isPastEnd = true ↔ l ≠ [] ∧ page.pageCount ≤ q.pageIndex) ∧
      ((q.fetchOrFirstPage client).run.run s).1 =
        .ok (if q.pageIndex < page.pageCount ∨ l = [] then page
          else { page with
            pageIndex := 0
            items := (l.take r.pageSize.toInt.toNat).map (Row.withTotal l.length) }) ∧
      ∃ rows, ((r.fetchPages client (pageIndices page)).run.run s).1 = .ok rows ∧
        rows.map Row.withoutTotal = l := by
  obtain ⟨hindex, hsize, -⟩ := h.accepted
  obtain ⟨fragment, tag, index, hrows, -⟩ := h.exists_pageAt
  refine ⟨r.served l q.pageIndex, fetch_of_serves h hserves hfree s, rfl, rfl,
    toInt_totalCount_served hlength, rfl, ?_, isPastEnd_served_iff hlength hsize hindex, ?_, ?_⟩
  · rw [served, List.length_map]
    exact length_window_le q.pageIndex r.pageSize l
  · have hfirst : window 0 r.pageSize l = l.take r.pageSize.toInt.toNat := by
      rw [window, Int64.toInt_zero, Int.toNat_zero, Nat.zero_mul, List.drop_zero]
    rw [fetchOrFirstPage_of_serves h hserves hlength hfree, ← hfirst]
    rfl
  · obtain ⟨s', hpages⟩ := run_fetchPages hrows hserves hfree _
      (acceptable_of_mem_pageIndices hlength hsize q.pageIndex) s
    refine ⟨_, congrArg Prod.fst hpages, ?_⟩
    rw [flatMap_pageIndices hlength hsize, List.map_map]
    calc l.map (Row.withoutTotal ∘ Row.withTotal l.length)
      _ = l.map id := List.map_congr_left fun row hrow =>
        Row.withoutTotal_withTotal (hfree row hrow) l.length
      _ = l := List.map_id l

def answering (l : List Row) : Client Unit where
  query c _ :=
    match c.args.reverse with
    | .int size :: .int offset :: _ =>
      (.ok (((l.drop offset.toInt.toNat).take size.toInt.toNat).map (Row.withTotal l.length)), ())
    | _ => (.ok [], ())
  queryFirst _ _ := (.ok (some ⟨[.ofTotal l.length]⟩), ())
  execute _ _ := (.ok 0, ())

theorem serves_answering (r : PageRequest) (l : List Row) : Serves (answering l) r l where
  query rows _ tag offset size state _ _ := by
    have hargs : (rows.args ++ [Value.int offset, .int size]).reverse =
        .int size :: .int offset :: rows.args.reverse := by simp
    rw [answering]
    simp only [hargs]
  queryFirst _ _ _ _ := rfl

/-- Two pages hold three rows, so a third one is past the end. -/
theorem fetching_is_window_of_three :
    let l : List Row := [1, 2, 3].map fun n => ⟨[⟨"id", .int8, .int n⟩]⟩
    ∃ q, (PageRequest.mk ⟨.select ⟨"items", ["id"], false, false⟩, []⟩ 2 2 []).Obtained q ∧
      Serves (answering l) (.mk ⟨.select ⟨"items", ["id"], false, false⟩, []⟩ 2 2 []) l ∧
      (l.length : Int) ≤ Int64.maxValue.toInt ∧ (∀ row ∈ l, row.TotalFree) ∧
      ∃ page, ((q.fetch (answering l)).run.run (.ofState ())).1 = .ok page ∧
        page.items = [] ∧ page.isPastEnd = true := by
  intro l
  obtain ⟨fragment, hrows⟩ := PageRequest.exists_rows_of_checkAll
    (.mk ⟨.select ⟨"items", ["id"], false, false⟩, []⟩ 2 2 []) rfl
  have hprepare := (PageRequest.prepare_eq_ok_iff _).mpr ⟨fragment, hrows, rfl⟩
  have hlength : (l.length : Int) ≤ Int64.maxValue.toInt := by decide
  have hfree : ∀ row ∈ l, row.TotalFree := by decide
  obtain ⟨page, hfetch, -, hsize, htotal, hitems, -, hpast, -⟩ :=
    fetching_is_window _ _ (.prepared hprepare) (answering l) l (serves_answering _ l) hlength hfree
      (.ofState ())
  refine ⟨_, .prepared hprepare, serves_answering _ l, hlength, hfree, page, hfetch, ?_, ?_⟩
  · rw [hitems]
    rfl
  · obtain ⟨index, size, total, items⟩ := page
    obtain rfl : size = 2 := hsize
    obtain rfl : total = 3 := Int64.toInt_inj.mp htotal
    have hcount : (PageResult.mk 0 2 3 ([] : List Row)).pageCount ≤ 2 := by decide
    exact hpast.mpr ⟨List.cons_ne_nil _ _, hcount⟩

end Pages

end PageRequest

end PreparedSql
