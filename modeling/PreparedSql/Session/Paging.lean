import PreparedSql.Page.Result
import PreparedSql.Session.Execution

/-!
# Fetching pages

Every row of a page says how many rows there are in all. An empty page says nothing, so the rows are
then counted by the second statement, except on the first page, which is only empty if there are no
rows at all.
-/
namespace PreparedSql.PreparedPage

variable {σ α : Type}

/-- The number of rows on all pages, told by the page's first row or else counted. -/
def totalCount (q : PreparedPage) (client : Client σ) : List Row → Work σ Int64
  | row :: _ => Work.ofExcept (row.named .int64 PageRequest.totalColumn)
  | [] =>
    if q.pageIndex = 0 then pure 0
    else do
      let total ← q.count.fetchValue client .int64
      return total.getD 0

def fetch (q : PreparedPage) (client : Client σ) : Work σ (PageResult Row) := do
  let rows ← q.query.fetch client
  let total ← q.totalCount client rows
  return ⟨q.pageIndex, q.pageSize, total, rows⟩

/-- The page, or the first page if there are rows but none on it. -/
def fetchOrFirstPage (q : PreparedPage) (client : Client σ) : Work σ (PageResult Row) := do
  let page ← q.fetch client
  if page.isPastEnd ∧ 0 < q.pageIndex then q.firstPage.fetch client else return page

def fetchAs (q : PreparedPage) (client : Client σ) (convert : Row → Except Error α) :
    Work σ (PageResult α) := do
  let page ← q.fetch client
  Work.ofExcept (page.mapM convert)

def fetchOrFirstPageAs (q : PreparedPage) (client : Client σ) (convert : Row → Except Error α) :
    Work σ (PageResult α) := do
  let page ← q.fetchOrFirstPage client
  Work.ofExcept (page.mapM convert)

end PreparedSql.PreparedPage
