import PreparedSql.Error
import PreparedSql.Event
import PreparedSql.Statement.Chain

/-!
# Prepared statements

A statement that was written once and for all, with the values of its placeholders and a tag for
monitoring. A prepared page holds the statement of the page and the one that counts its rows.
-/
namespace PreparedSql

structure Prepared where
  sql : String
  args : List Value
  tag : Option String
  deriving Repr

structure PreparedPage where
  query : Prepared
  count : Prepared
  pageIndex : Int64
  pageSize : Int64
  deriving Repr

namespace Prepared

def ofFragment (f : Fragment) : Prepared :=
  ⟨f.sql, f.args, none⟩

def tagged (q : Prepared) (tag : String) : Prepared :=
  { q with tag := some tag }

def event (q : Prepared) : Event :=
  .prepared q.sql q.args.length

def beq (a b : Prepared) : Bool :=
  a.sql == b.sql && a.args == b.args && a.tag == b.tag

instance : BEq Prepared := ⟨beq⟩

end Prepared

namespace PreparedPage

/-- The count statement carries a tag of its own, made from that of the page. -/
def tagged (q : PreparedPage) (tag : String) : PreparedPage :=
  { q with query := q.query.tagged tag, count := q.count.tagged (tag ++ ".count") }

/-- The same statement for the first page: the value before the last is the row offset. -/
def firstPage (q : PreparedPage) : PreparedPage :=
  let args := q.query.args
  { q with
    query := { q.query with
      args := if 2 ≤ args.length then args.set (args.length - 2) (.int 0) else args }
    pageIndex := 0 }

def event (q : PreparedPage) : Event :=
  .preparedPage q.query.sql q.query.args.length q.pageIndex q.pageSize

def beq (a b : PreparedPage) : Bool :=
  a.query == b.query && a.count == b.count && a.pageIndex == b.pageIndex &&
    a.pageSize == b.pageSize

instance : BEq PreparedPage := ⟨beq⟩

end PreparedPage

def Statement.prepare (s : Statement) : Except Error Prepared :=
  match s.render with
  | .ok f => .ok (.ofFragment f)
  | .error fault => .error fault.toError

def PageRequest.prepare (r : PageRequest) : Except Error PreparedPage :=
  match r.renderInner with
  | .ok rows =>
    .ok {
      query := .ofFragment (r.pageStatement rows)
      count := .ofFragment (PageRequest.countStatement rows)
      pageIndex := r.pageIndex
      pageSize := r.pageSize }
  | .error fault => .error fault.toError

/-- A chain that was put together and prepared. -/
inductive Compiled
  | plain (q : Prepared)
  | page (q : PreparedPage)
  deriving Repr

namespace Compiled

def tagged (tag : String) : Compiled → Compiled
  | plain q => plain (q.tagged tag)
  | page q => page (q.tagged tag)

def event : Compiled → Event
  | plain q => q.event
  | page q => q.event

def beq : Compiled → Compiled → Bool
  | plain a, plain b => a == b
  | page a, page b => a == b
  | _, _ => false

instance : BEq Compiled := ⟨beq⟩

end Compiled

namespace Chain

/-- Puts a chain together and prepares it. An illegal step comes before every fault, since nothing
is written until the chain is complete. -/
def compile (steps : List Step) : Except IllegalStep (Except Error Compiled) :=
  match draft steps with
  | .error illegal => .error illegal
  | .ok (.pendingConflict _ _) => .error ⟨steps.length⟩
  | .ok (.statement s) => .ok (s.prepare.map .plain)
  | .ok (.page r) => .ok (r.prepare.map .page)

end Chain

end PreparedSql
