import Mathlib.Data.List.Basic
import Mathlib.Data.List.Induction
import PreparedSql.Proofs.Page.Prepared
import PreparedSql.Proofs.Statement.Prefixes
import PreparedSql.Proofs.Statement.Steps

/-!
# Changes to prepared pages

However often a prepared page is tagged and turned to the first page, it stays what preparing its
chain anew would give: for the page it has come to and with the tag it was given last
(`PageRequest.changeAll_pageAt`). So the row offset behind its other values is never out of step
with the page index.
-/
namespace PreparedSql

namespace Draft

theorem start_ne_page (first : Step) (r : PageRequest) : start first ≠ some (.page r) := by
  cases first <;> simp [start]

/-- Only rows that can be divided are divided into pages. -/
theorem step_eq_page {d : Draft} {last : Step} {r : PageRequest}
    (h : d.step last = some (.page r)) :
    d = .statement r.inner ∧ r.inner.orderable = true ∧
      last = .paginate r.pageIndex r.pageSize r.ordering := by
  cases effect_of_step h with
  | paginate pageIndex pageSize ordering hdivides => exact ⟨rfl, hdivides, rfl⟩

end Draft

namespace Chain

theorem compile_of_statement {steps : List Step} {s : Statement}
    (h : draft steps = .ok (.statement s)) : compile steps = .ok (s.prepare.map .plain) := by
  rw [compile, h]

theorem compile_of_page {steps : List Step} {r : PageRequest} (h : draft steps = .ok (.page r)) :
    compile steps = .ok (r.prepare.map .page) := by
  rw [compile, h]

/-- A chain that asks for a page does so in its last step. -/
theorem exists_inner_of_page {steps : List Step} {r : PageRequest}
    (h : draft steps = .ok (.page r)) :
    ∃ inner, steps = inner ++ [.paginate r.pageIndex r.pageSize r.ordering] ∧
      draft inner = .ok (.statement r.inner) ∧
      ∀ index, draft (inner ++ [.paginate index r.pageSize r.ordering]) =
        .ok (.page (r.onPage index)) := by
  obtain rfl | ⟨inner, last, rfl⟩ := List.eq_nil_or_concat' steps
  · cases h
  · by_cases hinner : inner = []
    · subst hinner
      rw [List.nil_append, draft] at h
      split at h
      · next d hstart =>
        obtain rfl := Except.ok.inj h
        exact absurd hstart (Draft.start_ne_page last r)
      · cases h
    · obtain ⟨d, hdraft, hstep⟩ := (draft_append_singleton_eq_ok_iff hinner).mp h
      obtain ⟨rfl, hdivides, rfl⟩ := Draft.step_eq_page hstep
      refine ⟨inner, rfl, hdraft, fun index => ?_⟩
      rw [draft_append_singleton_eq_ok_iff hinner]
      refine ⟨_, hdraft, ?_⟩
      simp only [Draft.step, hdivides, if_true]
      rfl

end Chain

def Prepared.toFragment (q : Prepared) : Fragment :=
  ⟨q.sql, q.args⟩

namespace PreparedPage

inductive Change
  | tag (name : String)
  | firstPage
  deriving DecidableEq

def change (q : PreparedPage) : Change → PreparedPage
  | .tag name => q.tagged name
  | .firstPage => q.firstPage

def changeAll (q : PreparedPage) (changes : List Change) : PreparedPage :=
  changes.foldl change q

namespace Change

def tag? : Change → Option String
  | .tag name => some name
  | .firstPage => none

def lastTag? (changes : List Change) : Option String :=
  (changes.filterMap tag?).getLast?

/-- The page that changes lead to from the page with the given index. -/
def pageAfter (index : Int64) (changes : List Change) : Int64 :=
  if .firstPage ∈ changes then 0 else index

variable (changes : List Change)

theorem lastTag?_append_tag (name : String) : lastTag? (changes ++ [.tag name]) = some name := by
  simp [lastTag?, tag?]

theorem lastTag?_append_firstPage : lastTag? (changes ++ [.firstPage]) = lastTag? changes := by
  simp [lastTag?, tag?]

theorem pageAfter_append_tag (index : Int64) (name : String) :
    pageAfter index (changes ++ [.tag name]) = pageAfter index changes := by
  simp [pageAfter]

theorem pageAfter_append_firstPage (index : Int64) :
    pageAfter index (changes ++ [.firstPage]) = 0 := by
  simp [pageAfter]

end Change

theorem changeAll_append_singleton (q : PreparedPage) (changes : List Change) (c : Change) :
    q.changeAll (changes ++ [c]) = (q.changeAll changes).change c := by
  rw [changeAll, List.foldl_append]
  rfl

end PreparedPage

namespace PageRequest

open PreparedPage PreparedPage.Change

theorem changeAll_pageAt (r : PageRequest) (rows : Fragment) (index : Int64)
    (changes : List Change) :
    (r.pageAt rows none index).changeAll changes =
      r.pageAt rows (lastTag? changes) (pageAfter index changes) := by
  induction changes using List.reverseRecOn with
  | nil => rfl
  | append_singleton changes c ih =>
    rw [changeAll_append_singleton, ih]
    cases c with
    | tag name =>
      rw [lastTag?_append_tag, pageAfter_append_tag]
      exact r.tagged_pageAt rows _ _ name
    | firstPage =>
      rw [lastTag?_append_firstPage, pageAfter_append_firstPage]
      exact r.firstPage_pageAt rows _ _

section Pages

variable {r : PageRequest} {rows : Fragment} {index : Int64}

theorem inner_prepare (hrows : r.renderInner = .ok rows) :
    r.inner.prepare = .ok (.ofFragment rows) := by
  rw [Statement.prepare, (renderInner_eq_ok_iff.mp hrows).2]

theorem prepare_onPage (hrows : r.renderInner = .ok rows) (hindex : 0 ≤ index)
    (hfits : index.toInt * r.pageSize.toInt ≤ Int64.maxValue.toInt) :
    (r.onPage index).prepare = .ok (r.pageAt rows none index) :=
  (prepare_eq_ok_iff _).mpr ⟨rows, renderInner_onPage hrows hindex hfits, rfl⟩

/-- The two values behind those of the rows, the first of which is the exact product. -/
theorem args_pageAt (tag : Option String) (hindex : 0 ≤ index) (hsize : 0 ≤ r.pageSize)
    (hfits : index.toInt * r.pageSize.toInt ≤ Int64.maxValue.toInt) :
    ∃ offset : Int64, offset.toInt = index.toInt * r.pageSize.toInt ∧
      (r.pageAt rows tag index).query.args = rows.args ++ [.int offset, .int r.pageSize] := by
  have hproduct : 0 ≤ index.toInt * r.pageSize.toInt :=
    Int.mul_nonneg (Int64.le_iff_toInt_le.mp hindex) (Int64.le_iff_toInt_le.mp hsize)
  exact ⟨.ofInt (r.onPage index).rowOffset,
    Int64.toInt_ofInt_of_le (Int.le_trans (by decide) hproduct) (Int.lt_add_one_of_le hfits), rfl⟩

end Pages

/-- Preparing a request fails as writing it does, and else gives what is written. -/
theorem prepare_query (r : PageRequest) :
    r.prepare.map (fun q => q.query.toFragment) = r.render.mapError Fault.toError := by
  rw [prepare, render]
  cases r.renderInner <;> rfl

/-- A prepared page is the statement that its chain is written as. Whatever is done to it, it stays
what the chain gives when it is compiled anew for the page it has come to, with the tag that it was
given last and the count's tag made from that. Its values are those of the rows, the exact row
offset and the page size, and the count has those of the rows alone. -/
theorem changes_recompile (steps : List Step) (r : PageRequest)
    (h : Chain.draft steps = .ok (.page r)) :
    Chain.compile steps = .ok (r.prepare.map .page) ∧
      r.prepare.map (fun q => q.query.toFragment) = r.render.mapError Fault.toError ∧
      ∃ inner, steps = inner ++ [.paginate r.pageIndex r.pageSize r.ordering] ∧
        ∀ q, r.prepare = .ok q →
          ∃ rows, Chain.compile inner = .ok (.ok (.plain rows)) ∧
            ∀ changes, let reached := q.changeAll changes
              (∃ fresh, Chain.compile (inner ++
                  [.paginate (pageAfter r.pageIndex changes) r.pageSize r.ordering]) =
                    .ok (.ok (.page fresh)) ∧
                reached = { fresh with
                  query := { fresh.query with tag := lastTag? changes }
                  count := { fresh.count with tag := (lastTag? changes).map (· ++ ".count") } }) ∧
              (∃ offset : Int64, offset.toInt = reached.pageIndex.toInt * reached.pageSize.toInt ∧
                reached.query.args = rows.args ++ [.int offset, .int reached.pageSize]) ∧
              reached.count.args = rows.args := by
  obtain ⟨inner, hsteps, hinner, hanew⟩ := Chain.exists_inner_of_page h
  refine ⟨Chain.compile_of_page h, r.prepare_query, inner, hsteps, fun q hq => ?_⟩
  obtain ⟨rows, hrows, rfl⟩ := r.prepare_eq_ok_iff.mp hq
  obtain ⟨hnonneg, hsize, -, hfits⟩ :=
    r.check_eq_ok_iff_bounds.mp (renderInner_eq_ok_iff.mp hrows).1
  have hsize' : 0 ≤ r.pageSize := Int64.le_trans (by decide) hsize
  have hrowsCompile : Chain.compile inner = .ok (.ok (.plain (.ofFragment rows))) := by
    rw [Chain.compile_of_statement hinner, inner_prepare hrows]
    rfl
  refine ⟨.ofFragment rows, hrowsCompile, fun changes => ?_⟩
  obtain ⟨hindex', hfits'⟩ : 0 ≤ pageAfter r.pageIndex changes ∧
      (pageAfter r.pageIndex changes).toInt * r.pageSize.toInt ≤ Int64.maxValue.toInt := by
    unfold pageAfter
    split
    · rw [Int64.toInt_zero, Int.zero_mul]
      exact ⟨Int64.le_refl 0, by decide⟩
    · exact ⟨hnonneg, hfits⟩
  rw [changeAll_pageAt]
  refine ⟨⟨r.pageAt rows none (pageAfter r.pageIndex changes), ?_, rfl⟩,
    args_pageAt _ hindex' hsize' hfits', rfl⟩
  rw [Chain.compile_of_page (hanew _), prepare_onPage hrows hindex' hfits']
  rfl

/-- Of two tags the last one stays, and turning to the first page clears the row offset. -/
theorem changes_recompile_fourth_page :
    let inner : List Step := [.select "items", .column "id", .filter,
      .condition (.compare .and ⟨"owner", .eq, .bound (.text "42")⟩)]
    ∃ q, Chain.compile (inner ++ [.paginate 3 25 ["id"]]) = .ok (.ok (.page q)) ∧
      q.query.args = [.text "42", .int 75, .int 25] ∧
      let reached := q.changeAll [.tag "a", .firstPage, .tag "b"]
      (∃ fresh, Chain.compile (inner ++ [.paginate 0 25 ["id"]]) = .ok (.ok (.page fresh)) ∧
        reached = { fresh with
          query := { fresh.query with tag := some "b" }
          count := { fresh.count with tag := some "b.count" } }) ∧
      reached.query.args = [.text "42", .int 0, .int 25] ∧ reached.count.args = [.text "42"] := by
  intro inner
  have hdraft : Chain.draft (inner ++ [.paginate 3 25 ["id"]]) = .ok (.page _) := rfl
  have hrowsOnly : Chain.compile inner = .ok (.ok (.plain _)) := rfl
  obtain ⟨hcompile, -, inner', hsteps, hprepared⟩ := changes_recompile _ _ hdraft
  obtain rfl : inner = inner' := List.append_cancel_right hsteps
  refine ⟨_, hcompile, rfl, ?_⟩
  obtain ⟨rows, hrows, hreached⟩ := hprepared _ rfl
  obtain rfl := Compiled.plain.inj (Except.ok.inj (Except.ok.inj (hrowsOnly.symm.trans hrows)))
  obtain ⟨hfresh, ⟨offset, hoffset, hargs⟩, hcount⟩ :=
    hreached [.tag "a", .firstPage, .tag "b"]
  obtain rfl : offset = 0 := Int64.toInt_inj.mp hoffset
  exact ⟨hfresh, hargs, hcount⟩

end PageRequest

end PreparedSql
