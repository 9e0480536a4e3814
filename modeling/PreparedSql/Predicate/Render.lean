import PreparedSql.Fragment
import PreparedSql.Predicate.Basic

/-!
# Predicates as SQL

A predicate is written for the number of values in front of it, and each child of a group for the
values of the children before it as well. The first fault from the left is reported; that a group
is too short comes before the faults of its children.
-/
namespace PreparedSql

namespace Leaf

/-- The operands of a membership test: a value that is no list counts as a list of itself. -/
def members : Value → List Value
  | .list values => values
  | v => [v]

/-- A test for membership in no values is constant. -/
def renderMembers (base : Nat) (column operator : String) (negated : Bool) :
    List Value → Fragment
  | [] => .ofText (if negated then "1=1" else "1=0")
  | values =>
    ⟨column ++ " " ++ operator ++ " (" ++
      ", ".intercalate (Fragment.placeholders base values) ++ ")", values⟩

/-- NULL is tested for and not compared with, and a list is no operand. -/
def renderValue (base : Nat) (l : Leaf) (operator : String) : Value → Except Fault Fragment
  | .null =>
    if l.comparison = .eq then .ok (.ofText (l.column ++ " IS NULL"))
    else if l.comparison = .ne then .ok (.ofText (l.column ++ " IS NOT NULL"))
    else .error (.nullComparison l.column)
  | .list _ => .error (.listComparison l.column)
  | v => .ok ((Fragment.ofValue base v).wrap (l.column ++ " " ++ operator ++ " ") "")

def render (base : Nat) (l : Leaf) : Except Fault Fragment :=
  match l.comparison.operator? with
  | none => .error (.unsupportedComparison l.comparison)
  | some operator =>
    match l.operand with
    | .raw sql => .ok (.ofText (l.column ++ " " ++ operator ++ " " ++ sql))
    | .bound v =>
      if l.comparison.membership then
        .ok (renderMembers base l.column operator l.comparison.negated (members v))
      else l.renderValue base operator v

end Leaf

namespace Predicate

/-- Connects the texts of a group's children, of which there have to be two. -/
def connect (connective : Connective) (count : Nat)
    (children : Except Fault (List String × List Value)) : Except Fault Fragment :=
  if count < 2 then .error (.shortGroup connective count)
  else children.map fun (texts, args) => ⟨connective.separator.intercalate texts, args⟩

mutual

/-- A predicate with its groups in parentheses. -/
def render (base : Nat) : Predicate → Except Fault Fragment
  | empty => .error .emptyPredicate
  | leaf l => l.render base
  | group connective children =>
    (connect connective children.length (renderChildren base children)).map (·.wrap "(" ")")

def renderChildren (base : Nat) : List Predicate → Except Fault (List String × List Value)
  | [] => .ok ([], [])
  | child :: children => do
    let first ← render base child
    let (texts, args) ← renderChildren (base + first.args.length) children
    return (first.sql :: texts, first.args ++ args)

end

/-- The predicate of a WHERE clause, whose outermost group has no parentheses. -/
def renderOpen (base : Nat) : Predicate → Except Fault Fragment
  | group connective children =>
    connect connective children.length (renderChildren base children)
  | p => p.render base

end Predicate

end PreparedSql
