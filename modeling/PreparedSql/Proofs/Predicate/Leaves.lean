import PreparedSql.Predicate.Growth

/-!
# Comparisons of a predicate

The comparisons of a predicate from left to right. However a predicate grows, the comparisons of the
next step come behind those that were there (`Predicate.leaves_growAll`).
-/
namespace PreparedSql

namespace FilterStep

def operand : FilterStep → Predicate
  | compare _ l => .leaf l
  | compareAll connective leaves => .group connective (leaves.map .leaf)
  | combine _ p => p

def connective : FilterStep → Connective
  | compare connective _ => connective
  | compareAll _ _ => .and
  | combine connective _ => connective

end FilterStep

namespace Predicate

mutual

def leaves : Predicate → List Leaf
  | empty => []
  | leaf l => [l]
  | group _ children => leavesOfAll children

def leavesOfAll : List Predicate → List Leaf
  | [] => []
  | child :: children => leaves child ++ leavesOfAll children

end

theorem leavesOfAll_eq_flatMap (children : List Predicate) :
    leavesOfAll children = children.flatMap leaves := by
  induction children with
  | nil => rfl
  | cons child children ih => rw [leavesOfAll, ih, List.flatMap_cons]

theorem leaves_addLeaf (root : Predicate) (connective : Connective) (l : Leaf) :
    (root.addLeaf connective l).leaves = root.leaves ++ [l] := by
  cases root with
  | empty => rfl
  | leaf previous => rfl
  | group c children =>
    rw [addLeaf]
    split <;> simp [leaves, leavesOfAll_eq_flatMap]

theorem leaves_combineWith (root : Predicate) (connective : Connective) (p : Predicate) :
    (root.combineWith connective p).leaves = root.leaves ++ p.leaves := by
  cases root <;> simp [combineWith, leaves, leavesOfAll]

theorem leaves_grow (root : Predicate) (step : FilterStep) :
    (root.grow step).leaves = root.leaves ++ step.operand.leaves := by
  cases step with
  | compare connective l => exact leaves_addLeaf root connective l
  | compareAll connective leaves => exact leaves_combineWith root .and _
  | combine connective p => exact leaves_combineWith root connective p

theorem leaves_growAll (root : Predicate) (steps : List FilterStep) :
    (root.growAll steps).leaves = root.leaves ++ steps.flatMap (·.operand.leaves) := by
  induction steps generalizing root with
  | nil => simp
  | cons step steps ih => rw [growAll_cons, ih, leaves_grow, List.append_assoc, List.flatMap_cons]

end Predicate

end PreparedSql
