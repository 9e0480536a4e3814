import PreparedSql.Statement.Render

/-!
# Page requests

A request for one page of the rows of a SELECT. The statement of a page names the rows to choose
from, counts them, and returns the page's rows with that count in an extra column; a second
statement returns the count alone.
-/
namespace PreparedSql

structure PageRequest where
  inner : Statement
  pageIndex : Int64
  pageSize : Int64
  ordering : List String
  deriving Repr

namespace PageRequest

/-- The name of the rows to choose from. -/
def dataName : String := "Data_CTE"

/-- The name of their count. -/
def countName : String := "Count_CTE"

/-- The column that holds the count in every row of a page. -/
def totalColumn : String := "_totalrows"

/-- The number of rows before the page. -/
def rowOffset (r : PageRequest) : Int :=
  r.pageIndex.toInt * r.pageSize.toInt

/-- Pages are counted from zero and have rows, and the row offset has to fit a value. -/
def check (r : PageRequest) : Except Fault Unit :=
  if r.pageIndex < 0 then .error (.negativePageIndex r.pageIndex)
  else if r.pageSize < 1 then .error (.pageSizeBelowOne r.pageSize)
  else if (Decimal.Range.signed 8).holds r.rowOffset then .ok ()
  else .error (.rowOffsetOverflow r.pageIndex r.pageSize)

def countSql : String :=
  "SELECT COUNT(*) AS " ++ totalColumn ++ " FROM " ++ dataName

/-- Names the rows to choose from, whose statement follows. -/
def dataSql : String :=
  "WITH " ++ dataName ++ " AS ("

/-- Sets the count beside every row. -/
def pageSql : String :=
  "), " ++ countName ++ " AS (" ++ countSql ++ ") SELECT * FROM " ++ dataName ++ " CROSS JOIN " ++
    countName

def countStatement (rows : Fragment) : Fragment :=
  rows.wrap dataSql (") " ++ countSql)

def orderingSql (r : PageRequest) : String :=
  if r.ordering.isEmpty then "" else " ORDER BY " ++ ", ".intercalate r.ordering

/-- Keeps the rows of the page, with the row offset and the page size behind `base` values. -/
def cut (r : PageRequest) (base : Nat) : Fragment :=
  let offset := Fragment.ofValue base (.int (Int64.ofInt r.rowOffset))
  let size := Fragment.ofValue (base + offset.args.length) (.int r.pageSize)
  ⟨" OFFSET " ++ offset.sql ++ " ROWS FETCH NEXT " ++ size.sql ++ " ROWS ONLY",
    offset.args ++ size.args⟩

def pageStatement (r : PageRequest) (rows : Fragment) : Fragment :=
  let cut := r.cut rows.args.length
  ⟨dataSql ++ rows.sql ++ pageSql ++ r.orderingSql ++ cut.sql, rows.args ++ cut.args⟩

/-- The rows to choose from, of an acceptable request. -/
def renderInner (r : PageRequest) : Except Fault Fragment := do
  r.check
  r.inner.render

def render (r : PageRequest) : Except Fault Fragment := do
  let rows ← r.renderInner
  return r.pageStatement rows

end PageRequest

end PreparedSql
