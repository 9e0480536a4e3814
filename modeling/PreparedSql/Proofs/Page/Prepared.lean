import PreparedSql.Proofs.Statement.Precedence

/-!
# Prepared pages

What is obtained from a page request by preparing it, tagging the result and turning to the first
page is always the two statements of the request for some page, with one tag between them
(`PageRequest.Obtained.exists_pageAt`).
-/
namespace PreparedSql.PageRequest

def onPage (r : PageRequest) (index : Int64) : PageRequest :=
  { r with pageIndex := index }

def pageAt (r : PageRequest) (rows : Fragment) (tag : Option String) (index : Int64) :
    PreparedPage where
  query := { Prepared.ofFragment ((r.onPage index).pageStatement rows) with tag := tag }
  count := { Prepared.ofFragment (countStatement rows) with tag := tag.map (· ++ ".count") }
  pageIndex := index
  pageSize := r.pageSize

variable (r : PageRequest) (rows : Fragment) (tag : Option String) (index : Int64)

theorem pageStatement_sql_onPage :
    ((r.onPage index).pageStatement rows).sql = (r.pageStatement rows).sql := by
  have hordering : (r.onPage index).orderingSql = r.orderingSql := rfl
  have hcut : ((r.onPage index).cut rows.args.length).sql = (r.cut rows.args.length).sql := by
    simp only [cut, Fragment.ofValue, List.length_singleton]
  simp only [pageStatement, hordering, hcut]

theorem pageStatement_args :
    (r.pageStatement rows).args =
      rows.args ++ [.int (Int64.ofInt r.rowOffset), .int r.pageSize] :=
  rfl

theorem rowOffset_onPage_zero : (r.onPage 0).rowOffset = 0 :=
  Int.zero_mul _

/-- The tag that was set last is the one that stays. -/
theorem tagged_pageAt (last : String) :
    (r.pageAt rows tag index).tagged last = r.pageAt rows (some last) index :=
  rfl

theorem firstPage_pageAt : (r.pageAt rows tag index).firstPage = r.pageAt rows tag 0 := by
  have hargs (i : Int64) : (r.pageAt rows tag i).query.args =
      rows.args ++ [.int (Int64.ofInt (r.onPage i).rowOffset), .int r.pageSize] := rfl
  have hset (offset : Value) :
      (rows.args ++ [offset, .int r.pageSize]).set (rows.args.length + 2 - 2) (.int 0) =
        rows.args ++ [.int 0, .int r.pageSize] := by
    rw [Nat.add_sub_cancel, List.set_append_right _ _ (Nat.le_refl _), Nat.sub_self,
      List.set_cons_zero]
  have hquery : (r.pageAt rows tag 0).query =
      { (r.pageAt rows tag index).query with args := rows.args ++ [.int 0, .int r.pageSize] } := by
    rw [pageAt, Prepared.ofFragment, pageStatement_args, rowOffset_onPage_zero]
    rfl
  rw [PreparedPage.firstPage, hargs]
  simp only [List.length_append, List.length_cons, List.length_nil, Nat.zero_add,
    Nat.reduceAdd, Nat.le_add_left, if_true, hset]
  rw [← hquery]
  rfl

theorem prepare_eq_ok_iff {q : PreparedPage} :
    r.prepare = .ok q ↔ ∃ rows, r.renderInner = .ok rows ∧ q = r.pageAt rows none r.pageIndex := by
  rw [prepare]
  cases h : r.renderInner with
  | error fault => simp
  | ok rows =>
    simp only [Except.ok.injEq, exists_eq_left']
    exact eq_comm

theorem exists_rows_of_checkAll (h : r.checkAll = .ok ()) : ∃ rows, r.renderInner = .ok rows := by
  rw [renderInner_eq, h]
  exact ⟨_, rfl⟩

/-- What a request comes to when it is prepared, tagged and turned to the first page. -/
inductive Obtained (r : PageRequest) : PreparedPage → Prop
  | prepared {q : PreparedPage} (h : r.prepare = .ok q) : Obtained r q
  | tagged {q : PreparedPage} (tag : String) (h : Obtained r q) : Obtained r (q.tagged tag)
  | firstPage {q : PreparedPage} (h : Obtained r q) : Obtained r q.firstPage

variable {r}

theorem Obtained.exists_pageAt {q : PreparedPage} (h : r.Obtained q) :
    ∃ rows tag index, r.renderInner = .ok rows ∧ (index = r.pageIndex ∨ index = 0) ∧
      q = r.pageAt rows tag index := by
  induction h with
  | prepared h =>
    obtain ⟨rows, hrows, rfl⟩ := r.prepare_eq_ok_iff.mp h
    exact ⟨rows, none, r.pageIndex, hrows, .inl rfl, rfl⟩
  | tagged tag h ih =>
    obtain ⟨rows, older, index, hrows, hindex, rfl⟩ := ih
    exact ⟨rows, some tag, index, hrows, hindex, r.tagged_pageAt rows older index tag⟩
  | firstPage h ih =>
    obtain ⟨rows, tag, index, hrows, -, rfl⟩ := ih
    exact ⟨rows, tag, 0, hrows, .inr rfl, r.firstPage_pageAt rows tag index⟩

theorem renderInner_eq_ok_iff {rows : Fragment} :
    r.renderInner = .ok rows ↔ r.check = .ok () ∧ r.inner.render = .ok rows := by
  rw [renderInner]
  cases r.check with
  | ok _ => exact (and_iff_right rfl).symm
  | error fault =>
    constructor
    · intro h
      cases h
    · rintro ⟨h, -⟩
      cases h

/-- The rows are the same for every page of the request that is accepted. -/
theorem renderInner_onPage {rows : Fragment} {index : Int64} (h : r.renderInner = .ok rows)
    (hindex : 0 ≤ index) (hfits : index.toInt * r.pageSize.toInt ≤ Int64.maxValue.toInt) :
    (r.onPage index).renderInner = .ok rows := by
  obtain ⟨hcheck, hrender⟩ := renderInner_eq_ok_iff.mp h
  obtain ⟨-, hsize, -⟩ := r.check_eq_ok_iff_bounds.mp hcheck
  have hnonneg : 0 ≤ index.toInt * r.pageSize.toInt :=
    Int.mul_nonneg (Int64.le_iff_toInt_le.mp hindex)
      (Int.le_trans (by decide) (Int64.le_iff_toInt_le.mp hsize))
  exact renderInner_eq_ok_iff.mpr ⟨(r.onPage index).check_eq_ok_iff_bounds.mpr
    ⟨hindex, hsize, Int.le_trans (by decide) hnonneg, hfits⟩, hrender⟩

/-- Whatever was obtained from a request has acceptable coordinates. -/
theorem Obtained.accepted {q : PreparedPage} (h : r.Obtained q) :
    0 ≤ q.pageIndex ∧ 1 ≤ r.pageSize ∧
      q.pageIndex.toInt * r.pageSize.toInt ≤ Int64.maxValue.toInt := by
  obtain ⟨rows, tag, index, hrows, hindex, rfl⟩ := h.exists_pageAt
  obtain ⟨hnonneg, hsize, -, hfits⟩ :=
    r.check_eq_ok_iff_bounds.mp (renderInner_eq_ok_iff.mp hrows).1
  obtain rfl | rfl := hindex
  · exact ⟨hnonneg, hsize, hfits⟩
  · refine ⟨Int64.le_refl 0, hsize, ?_⟩
    have hzero : (0 : Int64).toInt * r.pageSize.toInt = 0 := Int.zero_mul _
    exact hzero ▸ by decide

theorem Obtained.pageSize_eq {q : PreparedPage} (h : r.Obtained q) : q.pageSize = r.pageSize := by
  obtain ⟨rows, tag, index, -, -, rfl⟩ := h.exists_pageAt
  rfl

end PreparedSql.PageRequest
