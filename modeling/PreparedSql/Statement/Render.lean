import PreparedSql.Predicate.Render
import PreparedSql.Statement.Basic
import PreparedSql.Text.Blank

/-!
# Statements as SQL

The root is written first and each clause after it, with placeholders numbered on. What a clause
itself lacks is found before anything below it is written, so the fault of a later clause comes
first; only a predicate is looked at after the statement below it.
-/
namespace PreparedSql

namespace Root

def render : Root → Except Fault Fragment
  | select s =>
    let distinct := if s.distinct then "DISTINCT " else ""
    if Text.isBlank s.table then .error .selectWithoutTable
    else if s.counting then .ok (.ofText ("SELECT " ++ distinct ++ "COUNT(*) FROM " ++ s.table))
    else if s.columns.isEmpty then .error (.selectWithoutColumn s.table)
    else
      .ok (.ofText ("SELECT " ++ distinct ++ ", ".intercalate s.columns ++ " FROM " ++ s.table))
  | insert table assignments =>
    if assignments.isEmpty then .error (.insertWithoutField table)
    else
      .ok ((Assignment.renderColumns 0 assignments).wrap ("INSERT INTO " ++ table ++ " ") "")
  | update table assignments =>
    if assignments.isEmpty then .error (.updateWithoutField table)
    else
      .ok ((Assignment.renderPairs 0 assignments).wrap ("UPDATE " ++ table ++ " SET ") "")
  | delete table =>
    if Text.isBlank table then .error .deleteWithoutTable
    else .ok (.ofText ("DELETE FROM " ++ table))

end Root

namespace Join

def sql (j : Join) : String :=
  let nickname := match j.nickname with
    | some name => " AS " ++ name
    | none => ""
  j.kind.sql ++ " JOIN " ++ j.table ++ nickname ++ " ON " ++ j.left ++ " = " ++ j.right

end Join

namespace SortTerm

def sql (t : SortTerm) : String :=
  if t.descending then t.column ++ " DESC" else t.column

end SortTerm

namespace Window

def checkBound (fault : Int64 → Fault) : Option Int64 → Except Fault Unit
  | some n => if n < 0 then .error (fault n) else .ok ()
  | none => .ok ()

/-- There has to be a bound, and no bound may be negative. -/
def check (w : Window) : Except Fault Unit :=
  if w.maxCount.isNone ∧ w.startIndex.isNone then .error .windowWithoutBound
  else do
    checkBound .negativeMaxCount w.maxCount
    checkBound .negativeStartIndex w.startIndex

def renderBound (base : Nat) (keyword : String) (n : Int64) : Fragment :=
  (Fragment.ofValue base (.int n)).wrap (keyword ++ " ") ""

def render (base : Nat) (w : Window) : Fragment :=
  match w.maxCount, w.startIndex with
  | none, none => .ofText ""
  | some n, none => renderBound base "LIMIT" n
  | none, some n => renderBound base "OFFSET" n
  | some m, some n =>
    let first := renderBound base "LIMIT" m
    let second := renderBound (base + first.args.length) "OFFSET" n
    ⟨first.sql ++ " " ++ second.sql, first.args ++ second.args⟩

end Window

namespace Clause

def targetSql (target : List String) : String :=
  if target.isEmpty then "" else " (" ++ ", ".intercalate target ++ ")"

/-- What a clause lacks, found without what it is put on. -/
def check : Clause → Except Fault Unit
  | join j => if Text.isBlank j.table then .error .joinWithoutTable else .ok ()
  | limit w => w.check
  | call function _ => if Text.isBlank function then .error .callWithoutFunction else .ok ()
  | onConflict target (.update assignments) =>
    if target.isEmpty then .error .conflictWithoutTarget
    else if assignments.isEmpty then .error .conflictWithoutField
    else .ok ()
  | returning columns => if columns.isEmpty then .error .returningWithoutColumn else .ok ()
  | filter _ | orderBy _ | existence | onConflict _ .nothing => .ok ()

def append (below : Fragment) (own : Fragment) : Fragment :=
  ⟨below.sql ++ " " ++ own.sql, below.args ++ own.args⟩

def attach (below : Fragment) : Clause → Except Fault Fragment
  | join j => .ok (append below (.ofText j.sql))
  | filter p => do
    let own ← p.renderOpen below.args.length
    return append below (own.wrap "WHERE " "")
  | orderBy terms =>
    .ok (append below (.ofText ("ORDER BY " ++ ", ".intercalate (terms.map SortTerm.sql))))
  | limit w => .ok (append below (w.render below.args.length))
  | existence => .ok (below.wrap "SELECT EXISTS (" ")")
  | call function arguments =>
    .ok (below.wrap ("SELECT " ++ function ++ "((")
      (")" ++ String.join (arguments.map (", " ++ ·)) ++ ")"))
  | onConflict target .nothing =>
    .ok (append below (.ofText ("ON CONFLICT" ++ targetSql target ++ " DO NOTHING")))
  | onConflict target (.update assignments) =>
    .ok (append below ((Assignment.renderPairs below.args.length assignments).wrap
      ("ON CONFLICT" ++ targetSql target ++ " DO UPDATE SET ") ""))
  | returning columns =>
    .ok (append below (.ofText ("RETURNING " ++ ", ".intercalate columns)))

end Clause

namespace Statement

/-- A root with clauses on it, the latest first. -/
def renderClauses (root : Root) : List Clause → Except Fault Fragment
  | [] => root.render
  | c :: older => do
    c.check
    let below ← renderClauses root older
    c.attach below

def render (s : Statement) : Except Fault Fragment :=
  renderClauses s.root s.clauses

end Statement

end PreparedSql
