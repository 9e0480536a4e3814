import PreparedSql.Json.Printer

/-!
# Page results

One page of rows and how many rows there are on all pages.
-/
namespace PreparedSql

structure PageResult (α : Type) where
  pageIndex : Int64
  pageSize : Int64
  totalCount : Int64
  items : List α
  deriving Repr

namespace PageResult

variable {α β : Type}

/-- The number of pages that hold all rows: full pages, and one more for the rest. -/
def pageCount (r : PageResult α) : Int64 :=
  if r.pageSize ≤ 0 then 0
  else r.totalCount / r.pageSize + if r.totalCount % r.pageSize = 0 then 0 else 1

def isPastEnd (r : PageResult α) : Bool :=
  r.items.isEmpty && decide (0 < r.totalCount)

def map (f : α → β) (r : PageResult α) : PageResult β :=
  { r with items := r.items.map f }

/-- Converts the items; the first one that fails fails the page. -/
def mapM {ε : Type} (f : α → Except ε β) (r : PageResult α) : Except ε (PageResult β) := do
  let items ← r.items.mapM f
  return { r with items }

/-- A result as a document, with its members in this order. -/
def toDocument (item : α → Json) (r : PageResult α) : Json :=
  .object [("page_index", .int r.pageIndex.toInt), ("page_size", .int r.pageSize.toInt),
    ("total_count", .int r.totalCount.toInt), ("items", .array (r.items.map item))]

end PageResult

end PreparedSql
