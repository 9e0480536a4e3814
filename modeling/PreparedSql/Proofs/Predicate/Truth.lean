import Mathlib.Order.BoundedOrder.Lattice
import Mathlib.Order.Lattice
import PreparedSql.Proofs.Predicate.Leaves
import PreparedSql.Statement.Chain

/-!
# What a grown predicate says

Comparisons are false, unknown or true; AND takes the least of its conditions and OR the greatest.
Whichever groups the steps of a filter make, the predicate has the value of the steps taken from
left to right, and its comparisons are those of the steps in their order.
-/
namespace PreparedSql

inductive Truth
  | false
  | unknown
  | true
  deriving DecidableEq, Repr

namespace Truth

def rank : Truth → Nat
  | false => 0
  | unknown => 1
  | true => 2

theorem rank_injective : Function.Injective rank := by
  intro a b h
  cases a <;> cases b <;> first | rfl | cases h

instance : LinearOrder Truth :=
  LinearOrder.lift' rank rank_injective

instance : BoundedOrder Truth where
  top := true
  le_top a := by cases a <;> decide
  bot := false
  bot_le a := by cases a <;> decide

end Truth

namespace Connective

def combine : Connective → Truth → Truth → Truth
  | and => min
  | or => max

def neutral : Connective → Truth
  | and => .true
  | or => .false

def combineAll (c : Connective) (values : List Truth) : Truth :=
  values.foldr c.combine c.neutral

variable (c : Connective)

theorem combine_assoc (a b d : Truth) :
    c.combine (c.combine a b) d = c.combine a (c.combine b d) := by
  cases c with
  | and => exact min_assoc a b d
  | or => exact max_assoc a b d

theorem combine_neutral (a : Truth) : c.combine a c.neutral = a := by
  cases c with
  | and => exact min_top_right a
  | or => exact max_bot_right a

theorem neutral_combine (a : Truth) : c.combine c.neutral a = a := by
  cases c with
  | and => exact min_top_left a
  | or => exact max_bot_left a

theorem combineAll_append_singleton (values : List Truth) (a : Truth) :
    c.combineAll (values ++ [a]) = c.combine (c.combineAll values) a := by
  induction values with
  | nil => exact (c.combine_neutral a).trans (c.neutral_combine a).symm
  | cons b values ih =>
    change c.combine b (c.combineAll (values ++ [a])) = c.combine (c.combine b _) a
    rw [ih, combine_assoc]
    rfl

theorem combineAll_pair (a b : Truth) : c.combineAll [a, b] = c.combine a b := by
  change c.combine a (c.combine b c.neutral) = _
  rw [combine_neutral]

end Connective

namespace Predicate

variable (ofLeaf : Leaf → Truth) (ofEmpty : Truth)

mutual

/-- The value of a predicate whose comparisons have the given values. An empty predicate has no
value of its own, and is given one. -/
def value : Predicate → Truth
  | empty => ofEmpty
  | leaf l => ofLeaf l
  | group connective children => connective.combineAll (valuesOfAll children)

def valuesOfAll : List Predicate → List Truth
  | [] => []
  | child :: children => value child :: valuesOfAll children

end

theorem valuesOfAll_eq_map (children : List Predicate) :
    valuesOfAll ofLeaf ofEmpty children = children.map (value ofLeaf ofEmpty) := by
  induction children with
  | nil => rfl
  | cons child children ih => rw [valuesOfAll, ih, List.map_cons]

theorem value_pair (connective : Connective) (p q : Predicate) :
    (group connective [p, q]).value ofLeaf ofEmpty =
      connective.combine (p.value ofLeaf ofEmpty) (q.value ofLeaf ofEmpty) :=
  connective.combineAll_pair _ _

/-- A comparison that joins a group changes its value as it would beside the group. -/
theorem value_addLeaf {root : Predicate} (hroot : root ≠ empty) (connective : Connective)
    (l : Leaf) :
    (root.addLeaf connective l).value ofLeaf ofEmpty =
      connective.combine (root.value ofLeaf ofEmpty) (ofLeaf l) := by
  cases root with
  | empty => exact absurd rfl hroot
  | leaf previous => exact value_pair ofLeaf ofEmpty connective (leaf previous) (leaf l)
  | group c children =>
    by_cases h : c = connective
    · subst h
      rw [addLeaf, if_pos rfl, value, value, valuesOfAll_eq_map, valuesOfAll_eq_map,
        List.map_append]
      exact c.combineAll_append_singleton _ _
    · rw [addLeaf, if_neg h]
      exact value_pair ofLeaf ofEmpty connective (group c children) (leaf l)

theorem combineWith_eq_pair {root : Predicate} (hroot : root ≠ empty) (connective : Connective)
    (p : Predicate) : root.combineWith connective p = group connective [root, p] := by
  cases root with
  | empty => exact absurd rfl hroot
  | _ => rfl

theorem value_grow {root : Predicate} (hroot : root ≠ empty) (step : FilterStep) :
    (root.grow step).value ofLeaf ofEmpty =
      step.connective.combine (root.value ofLeaf ofEmpty) (step.operand.value ofLeaf ofEmpty) := by
  cases step with
  | compare connective l => exact value_addLeaf ofLeaf ofEmpty hroot connective l
  | compareAll connective leaves =>
    rw [grow, combineWith_eq_pair hroot]
    exact value_pair ofLeaf ofEmpty .and root _
  | combine connective p =>
    rw [grow, combineWith_eq_pair hroot]
    exact value_pair ofLeaf ofEmpty connective root p

theorem grow_empty (step : FilterStep) : empty.grow step = step.operand := by
  cases step <;> rfl

theorem grow_ne_empty {root : Predicate} (hroot : root ≠ empty) (step : FilterStep) :
    root.grow step ≠ empty := by
  cases step with
  | compare connective l =>
    cases root with
    | empty => exact absurd rfl hroot
    | leaf previous => simp [grow, addLeaf]
    | group c children => by_cases h : c = connective <;> simp [grow, addLeaf, h]
  | compareAll connective leaves => simp [grow, combineWith_eq_pair hroot]
  | combine connective p => simp [grow, combineWith_eq_pair hroot]

theorem value_growAll {root : Predicate} (hroot : root ≠ empty) (steps : List FilterStep) :
    (root.growAll steps).value ofLeaf ofEmpty =
      steps.foldl (fun v step => step.connective.combine v (step.operand.value ofLeaf ofEmpty))
        (root.value ofLeaf ofEmpty) := by
  -- only an empty predicate is replaced by a step, and none of the later ones is empty
  induction steps generalizing root with
  | nil => rfl
  | cons step steps ih =>
    rw [growAll_cons, ih (grow_ne_empty hroot step), value_grow ofLeaf ofEmpty hroot,
      List.foldl_cons]

end Predicate

namespace Chain

theorem extend_conditions (index : Nat) (s : Statement) (p : Predicate) (steps : List FilterStep) :
    extend index (.statement (s.push (.filter p))) (steps.map .condition) =
      .ok (.statement (s.push (.filter (p.growAll steps)))) := by
  induction steps generalizing index p with
  | nil => rfl
  | cons step steps ih =>
    rw [List.map_cons, extend]
    exact ih (index + 1) (p.grow step)

theorem extend_filterWith (index : Nat) {s : Statement} (h : s.filterable = true)
    (steps later : List FilterStep) :
    extend index (.statement s) (.filterWith steps :: later.map .condition) =
      .ok (.statement (s.push (.filter (Predicate.growAll .empty (steps ++ later))))) := by
  have hstep : (Draft.statement s).step (.filterWith steps) =
      some (.statement (s.push (.filter (Predicate.growAll .empty steps)))) := by
    simp [Draft.step, Statement.step, Statement.pushIf, h]
  rw [extend, hstep, Predicate.growAll_append]
  exact extend_conditions (index + 1) s _ later

/-- However the steps of a filter are applied, its predicate has the value of the steps from left
to right and the comparisons of the steps in their order. The first step only sets the predicate,
so its connective makes no difference. -/
theorem filter_value_and_leaves (index : Nat) (s : Statement) (h : s.filterable = true)
    (first : FilterStep) (rest : List FilterStep) (hfirst : first.operand ≠ .empty) :
    ∃ d p, extend index (.statement s) (.filter :: (first :: rest).map .condition) = .ok d ∧
      (∀ steps later, steps ++ later = first :: rest →
        extend index (.statement s) (.filterWith steps :: later.map .condition) = .ok d) ∧
      d.predicate? = some p ∧
      (∀ ofLeaf ofEmpty, p.value ofLeaf ofEmpty =
        rest.foldl (fun v step => step.connective.combine v (step.operand.value ofLeaf ofEmpty))
          (first.operand.value ofLeaf ofEmpty)) ∧
      p.leaves = (first :: rest).flatMap fun step => step.operand.leaves := by
  -- a filter that is started without steps is the same as one that is given none
  have hfilter : extend index (.statement s) (.filter :: (first :: rest).map .condition) =
      extend index (.statement s) (.filterWith [] :: (first :: rest).map .condition) := rfl
  refine ⟨.statement (s.push (.filter (Predicate.growAll .empty (first :: rest)))),
    Predicate.growAll .empty (first :: rest), ?_, ?_, rfl, ?_, ?_⟩
  · rw [hfilter, extend_filterWith index h, List.nil_append]
  · intro steps later hsteps
    rw [extend_filterWith index h, hsteps]
  · intro ofLeaf ofEmpty
    rw [Predicate.growAll_cons, Predicate.grow_empty, Predicate.value_growAll ofLeaf ofEmpty hfirst]
  · rw [Predicate.leaves_growAll, Predicate.leaves, List.nil_append]

/-- A comparison that joins a group, and a predicate beside it. -/
theorem filter_value_and_leaves_mixed :
    let a : Leaf := ⟨"a", .eq, .bound (.int 1)⟩
    let b : Leaf := ⟨"b", .gt, .raw "a"⟩
    ∃ d p, extend 1 (.statement (.ofRoot (.delete "t"))) [.filter, .condition (.compare .or a),
        .condition (.compare .or b), .condition (.combine .and (.leaf a))] = .ok d ∧
      extend 1 (.statement (.ofRoot (.delete "t"))) [.filterWith [.compare .or a, .compare .or b],
        .condition (.combine .and (.leaf a))] = .ok d ∧
      d.predicate? = some p ∧
      (∀ ofLeaf ofEmpty, p.value ofLeaf ofEmpty = min (max (ofLeaf a) (ofLeaf b)) (ofLeaf a)) ∧
      p.leaves = [a, b, a] := by
  intro a b
  obtain ⟨d, p, hfilter, hwith, hp, hvalue, hleaves⟩ := filter_value_and_leaves 1
    (.ofRoot (.delete "t")) rfl (.compare .or a) [.compare .or b, .combine .and (.leaf a)] nofun
  exact ⟨d, p, hfilter, hwith [.compare .or a, .compare .or b] [.combine .and (.leaf a)] rfl, hp,
    hvalue, hleaves⟩

end Chain

end PreparedSql
