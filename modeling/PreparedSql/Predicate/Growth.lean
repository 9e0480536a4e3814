import PreparedSql.Predicate.Basic

/-!
# Growing predicates

A WHERE clause grows step by step. A single comparison joins the outermost group if that has the
same connective; a predicate that was put together beforehand is always set beside all that was
there before.
-/
namespace PreparedSql

inductive FilterStep
  | compare (connective : Connective) (l : Leaf)
  | compareAll (connective : Connective) (leaves : List Leaf)
  | combine (connective : Connective) (p : Predicate)
  deriving Repr

namespace Predicate

/-- Adds a comparison to a group of the same connective, else beside what was there. -/
def addLeaf (root : Predicate) (connective : Connective) (l : Leaf) : Predicate :=
  match root with
  | empty => leaf l
  | leaf previous => group connective [leaf previous, leaf l]
  | group c children =>
    if c = connective then group c (children ++ [leaf l])
    else group connective [group c children, leaf l]

def combineWith (root : Predicate) (connective : Connective) (p : Predicate) : Predicate :=
  match root with
  | empty => p
  | previous => group connective [previous, p]

def grow (root : Predicate) : FilterStep → Predicate
  | .compare connective l => root.addLeaf connective l
  | .compareAll connective leaves =>
    root.combineWith .and (group connective (leaves.map leaf))
  | .combine connective p => root.combineWith connective p

def growAll (root : Predicate) (steps : List FilterStep) : Predicate :=
  steps.foldl grow root

@[simp] theorem growAll_nil (root : Predicate) : root.growAll [] = root := rfl

@[simp] theorem growAll_cons (root : Predicate) (step : FilterStep) (steps : List FilterStep) :
    root.growAll (step :: steps) = (root.grow step).growAll steps := rfl

theorem growAll_append (root : Predicate) (steps later : List FilterStep) :
    root.growAll (steps ++ later) = (root.growAll steps).growAll later := by
  simp [growAll]

end Predicate

end PreparedSql
