/-!
# Comparisons

A comparison is put together from flags. Twelve combinations have an operator; a predicate with any
other combination is refused.
-/
namespace PreparedSql

structure Comparison where
  equal : Bool
  greater : Bool
  less : Bool
  negated : Bool
  like : Bool
  insensitive : Bool
  membership : Bool
  deriving DecidableEq, Repr

namespace Comparison

def unset : Comparison := ⟨false, false, false, false, false, false, false⟩
def eq : Comparison := { unset with equal := true }
def gt : Comparison := { unset with greater := true }
def lt : Comparison := { unset with less := true }
def negation : Comparison := { unset with negated := true }
def matching : Comparison := { unset with like := true }
def ignoringCase : Comparison := { unset with insensitive := true }
def within : Comparison := { unset with membership := true }

/-- All flags of both. -/
def union (a b : Comparison) : Comparison where
  equal := a.equal || b.equal
  greater := a.greater || b.greater
  less := a.less || b.less
  negated := a.negated || b.negated
  like := a.like || b.like
  insensitive := a.insensitive || b.insensitive
  membership := a.membership || b.membership

def ne : Comparison := negation.union eq
def ge : Comparison := gt.union eq
def le : Comparison := lt.union eq
def ilike : Comparison := matching.union ignoringCase
def notWithin : Comparison := negation.union within
def notIlike : Comparison := negation.union ilike

/-- Whether every flag of `b` is set in `a`. -/
def contains (a b : Comparison) : Bool :=
  a.union b == a

def flagNames : List (Comparison × String) :=
  [(negation, "NOT"), (eq, "EQUAL"), (gt, "GREATER"), (lt, "LESS"), (matching, "LIKE"),
    (ignoringCase, "INSENSITIVE"), (within, "IN")]

def describe (c : Comparison) : String :=
  let names := (flagNames.filter fun flag => c.contains flag.1).map Prod.snd
  "Comparison(" ++ (if names.isEmpty then "EMPTY" else " | ".intercalate names) ++ ")"

/-- The supported combinations and their operators. -/
def operators : List (Comparison × String) :=
  [(eq, "="), (ne, "!="), (gt, ">"), (ge, ">="), (lt, "<"), (le, "<="), (matching, "LIKE"),
    (negation.union matching, "NOT LIKE"), (ilike, "ILIKE"), (notIlike, "NOT ILIKE"),
    (within, "IN"), (notWithin, "NOT IN")]

def operator? (c : Comparison) : Option String :=
  operators.lookup c

theorem contains_iff (a b : Comparison) : a.contains b = true ↔ a.union b = a := by
  simp [contains]

theorem mem_operators {c : Comparison} {operator : String} (h : c.operator? = some operator) :
    (c, operator) ∈ operators := by
  obtain ⟨before, after, heq, -⟩ := List.lookup_eq_some_iff.mp h
  rw [heq]
  exact List.mem_append_right before List.mem_cons_self

end Comparison

end PreparedSql
