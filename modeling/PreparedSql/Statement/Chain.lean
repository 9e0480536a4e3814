import PreparedSql.Page.Request
import PreparedSql.Predicate.Growth

/-!
# Chains of steps

A statement is put together by steps, each of which fits some statements and not others: a join
after a filter, an order on an UPDATE or anything after a page request is no step at all. A chain
with a step that does not fit is refused at that step before any of it is written.
-/
namespace PreparedSql

inductive Step
  | select (table : String)
  | selectCount (table : String)
  | insert (table : String)
  | update (table : String)
  | delete (table : String)
  | column (name : String)
  | columns (names : List String)
  | distinct
  | join (kind : JoinKind) (table left right : String)
  | nickname (name : String)
  | filter
  | filterWith (steps : List FilterStep)
  | condition (step : FilterStep)
  | orderBy (term : SortTerm)
  | thenBy (term : SortTerm)
  | limit (maxCount : Int64)
  | offset (startIndex : Int64)
  | window (w : Window)
  | existence
  | call (function : String)
  | argument (sql : String)
  | assign (column : String) (value : FieldValue)
  | assignOptional (column : String) (value : Option Value)
  | assignExcluded (column : String)
  | onConflict (target : List String)
  | doNothing
  | doUpdate
  | returning (columns : List String)
  | paginate (pageIndex pageSize : Int64) (ordering : List String)
  deriving Repr

/-- What a chain has put together so far. -/
inductive Draft
  | statement (s : Statement)
  /-- An INSERT with a conflict target for which no action is chosen yet. -/
  | pendingConflict (s : Statement) (target : List String)
  | page (r : PageRequest)
  deriving Repr

namespace Statement

def ofRoot (root : Root) : Statement :=
  ⟨root, []⟩

/-- Joins follow a SELECT or another join. -/
def joinable (s : Statement) : Bool :=
  match s.clauses with
  | [] => s.root.isSelect
  | .join _ :: _ => true
  | _ => false

def filterable (s : Statement) : Bool :=
  match s.clauses with
  | [] =>
    match s.root with
    | .insert _ _ => false
    | _ => true
  | .join _ :: _ => true
  | _ => false

/-- Rows can be sorted, and divided into pages, until they are sorted or cut. -/
def orderable (s : Statement) : Bool :=
  match s.clauses with
  | .filter _ :: _ => s.root.isSelect
  | _ => s.joinable

def limitable (s : Statement) : Bool :=
  match s.clauses with
  | .orderBy _ :: _ => true
  | _ => s.orderable

def wrappable (s : Statement) : Bool :=
  match s.clauses with
  | .limit _ :: _ => true
  | _ => s.limitable

/-- Changed rows can be returned, once. -/
def returnable (s : Statement) : Bool :=
  match s.clauses with
  | [] => !s.root.isSelect
  | .filter _ :: _ => !s.root.isSelect
  | .onConflict _ _ :: _ => true
  | _ => false

/-- Changes the columns of a SELECT that has no clauses yet. -/
def onSelection (s : Statement) (change : Selection → Selection) : Option Statement :=
  match s.root, s.clauses with
  | .select selection, [] => some (ofRoot (.select (change selection)))
  | _, _ => none

/-- Adds assignments to an INSERT or UPDATE without clauses or to a conflict's update. -/
def addAssignments (s : Statement) (added : List Assignment) : Option Statement :=
  match s.root, s.clauses with
  | .insert table assignments, [] => some (ofRoot (.insert table (assignments ++ added)))
  | .update table assignments, [] => some (ofRoot (.update table (assignments ++ added)))
  | root, .onConflict target (.update assignments) :: older =>
    some ⟨root, .onConflict target (.update (assignments ++ added)) :: older⟩
  | _, _ => none

def pushIf (s : Statement) (admitted : Bool) (c : Clause) : Option Statement :=
  if admitted then some (s.push c) else none

/-- Sets the bounds that `change` gives on a LIMIT clause, or on a new one. -/
def onWindow (s : Statement) (change : Window → Window) : Option Statement :=
  match s.clauses with
  | .limit w :: older => some { s with clauses := .limit (change w) :: older }
  | _ => s.pushIf s.limitable (.limit (change ⟨none, none⟩))

/-- The statement after a step that adds to it, if the step fits. -/
def step (s : Statement) : Step → Option Statement
  | .column name => s.onSelection fun x => { x with columns := x.columns ++ [name] }
  | .columns names => s.onSelection fun x => { x with columns := x.columns ++ names }
  | .distinct => s.onSelection fun x => { x with distinct := true }
  | .join kind table left right => s.pushIf s.joinable (.join ⟨kind, table, none, left, right⟩)
  | .nickname name =>
    match s.clauses with
    | .join j :: older => some { s with clauses := .join { j with nickname := some name } :: older }
    | _ => none
  | .filter => s.pushIf s.filterable (.filter .empty)
  | .filterWith steps => s.pushIf s.filterable (.filter (Predicate.growAll .empty steps))
  | .condition step =>
    match s.clauses with
    | .filter p :: older => some { s with clauses := .filter (p.grow step) :: older }
    | _ => none
  | .orderBy term => s.pushIf s.orderable (.orderBy [term])
  | .thenBy term =>
    match s.clauses with
    | .orderBy terms :: older => some { s with clauses := .orderBy (terms ++ [term]) :: older }
    | _ => none
  | .limit n => s.onWindow fun w => { w with maxCount := some n }
  | .offset n => s.onWindow fun w => { w with startIndex := some n }
  | .window w => s.pushIf s.limitable (.limit w)
  | .existence => s.pushIf s.wrappable .existence
  | .call function => s.pushIf s.wrappable (.call function [])
  | .argument sql =>
    match s.clauses with
    | .call function arguments :: older =>
      some { s with clauses := .call function (arguments ++ [sql]) :: older }
    | _ => none
  | .assign column value => s.addAssignments [⟨column, value⟩]
  | .assignOptional column value =>
    s.addAssignments (value.toList.map fun v => ⟨column, .bound v⟩)
  | .assignExcluded column =>
    match s.clauses with
    | .onConflict _ _ :: _ => s.addAssignments [⟨column, .excluded column⟩]
    | _ => none
  | .returning columns => s.pushIf s.returnable (.returning columns)
  | _ => none

def admitsConflict (s : Statement) : Bool :=
  match s.root, s.clauses with
  | .insert _ _, [] => true
  | _, _ => false

end Statement

namespace Draft

def start : Step → Option Draft
  | .select table => some (.statement (.ofRoot (.select ⟨table, [], false, false⟩)))
  | .selectCount table => some (.statement (.ofRoot (.select ⟨table, [], false, true⟩)))
  | .insert table => some (.statement (.ofRoot (.insert table [])))
  | .update table => some (.statement (.ofRoot (.update table [])))
  | .delete table => some (.statement (.ofRoot (.delete table)))
  | _ => none

def step : Draft → Step → Option Draft
  | statement s, .onConflict target =>
    if s.admitsConflict then some (pendingConflict s target) else none
  | statement s, .paginate pageIndex pageSize ordering =>
    if s.orderable then some (page ⟨s, pageIndex, pageSize, ordering⟩) else none
  | statement s, next => (s.step next).map statement
  | pendingConflict s target, .doNothing =>
    some (statement (s.push (.onConflict target .nothing)))
  | pendingConflict s target, .doUpdate =>
    some (statement (s.push (.onConflict target (.update []))))
  | _, _ => none

/-- What a draft is written as; a pending conflict is not written. -/
def render? : Draft → Option (Except Fault Fragment)
  | statement s => some s.render
  | pendingConflict _ _ => none
  | page r => some r.render

/-- The predicate of a draft whose last clause is a filter. -/
def predicate? : Draft → Option Predicate
  | statement s => s.predicate?
  | _ => none

end Draft

/-- The place of a step that does not fit, or the number of steps if only an end is missing. -/
structure IllegalStep where
  index : Nat
  deriving DecidableEq, Repr

namespace Chain

/-- The drafts after each further step, the first of which stands at `index`, and the step that does
not fit, if there is one. -/
def follow (index : Nat) (d : Draft) : List Step → List Draft × Option IllegalStep
  | [] => ([], none)
  | next :: steps =>
    match d.step next with
    | some e =>
      let (drafts, illegal) := follow (index + 1) e steps
      (e :: drafts, illegal)
    | none => ([], some ⟨index⟩)

def drafts : List Step → List Draft × Option IllegalStep
  | [] => ([], none)
  | first :: steps =>
    match Draft.start first with
    | some d =>
      let (drafts, illegal) := follow 1 d steps
      (d :: drafts, illegal)
    | none => ([], some ⟨0⟩)

/-- Applies steps to a draft, the first of which stands at `index`. -/
def extend (index : Nat) (d : Draft) : List Step → Except IllegalStep Draft
  | [] => .ok d
  | next :: steps =>
    match d.step next with
    | some e => extend (index + 1) e steps
    | none => .error ⟨index⟩

def draft : List Step → Except IllegalStep Draft
  | [] => .error ⟨0⟩
  | first :: steps =>
    match Draft.start first with
    | some d => extend 1 d steps
    | none => .error ⟨0⟩

end Chain

end PreparedSql
