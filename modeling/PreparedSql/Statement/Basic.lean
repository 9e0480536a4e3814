import PreparedSql.Assignment
import PreparedSql.Predicate.Basic

/-!
# Statements

A statement is a root (SELECT, INSERT, UPDATE or DELETE) and the clauses put on it one after the
other. Tables, columns and sort terms are SQL that the caller answers for.
-/
namespace PreparedSql

structure Selection where
  table : String
  columns : List String
  distinct : Bool
  /-- Counts rows instead of returning columns. -/
  counting : Bool
  deriving Repr

inductive Root
  | select (s : Selection)
  | insert (table : String) (assignments : List Assignment)
  | update (table : String) (assignments : List Assignment)
  | delete (table : String)
  deriving Repr

inductive JoinKind
  | inner
  | left
  | right
  | outer
  | fullOuter
  deriving DecidableEq, Repr

structure Join where
  kind : JoinKind
  table : String
  /-- The name that the joined table goes by. -/
  nickname : Option String
  left : String
  right : String
  deriving Repr

structure SortTerm where
  column : String
  descending : Bool
  deriving Repr

/-- A part of the rows: how many at most, and how many are skipped. -/
structure Window where
  maxCount : Option Int64
  startIndex : Option Int64
  deriving Repr

inductive ConflictAction
  | nothing
  | update (assignments : List Assignment)
  deriving Repr

inductive Clause
  | join (j : Join)
  | filter (p : Predicate)
  | orderBy (terms : List SortTerm)
  | limit (w : Window)
  /-- Asks whether the statement returns a row. -/
  | existence
  /-- Calls a function with the statement's result and further arguments. -/
  | call (function : String) (arguments : List String)
  | onConflict (target : List String) (action : ConflictAction)
  | returning (columns : List String)
  deriving Repr

structure Statement where
  root : Root
  /-- The clauses, the latest first. -/
  clauses : List Clause
  deriving Repr

namespace JoinKind

def all : List JoinKind :=
  [inner, left, right, outer, fullOuter]

def sql : JoinKind → String
  | inner => "INNER"
  | left => "LEFT"
  | right => "RIGHT"
  | outer => "OUTER"
  | fullOuter => "FULL OUTER"

end JoinKind

namespace Root

def isSelect : Root → Bool
  | select _ => true
  | _ => false

end Root

namespace Statement

def push (s : Statement) (c : Clause) : Statement :=
  { s with clauses := c :: s.clauses }

/-- The predicate of the clause that was put on last. -/
def predicate? (s : Statement) : Option Predicate :=
  match s.clauses with
  | .filter p :: _ => some p
  | _ => none

end Statement

end PreparedSql
