import PreparedSql.Value.Basic

/-!
# Fragments of statements

A piece of SQL together with the values of its placeholders. Placeholders are numbered through the
whole statement, so a fragment is written for a given number of values in front of it.
-/
namespace PreparedSql

structure Fragment where
  sql : String
  args : List Value
  deriving Repr

/-- The placeholder of the value with the given index, counted from one. -/
def placeholder (index : Nat) : String :=
  "$" ++ Decimal.natText index

namespace Fragment

def ofText (sql : String) : Fragment :=
  ⟨sql, []⟩

/-- The placeholder of a value behind `base` others. -/
def ofValue (base : Nat) (v : Value) : Fragment :=
  ⟨placeholder (base + 1), [v]⟩

/-- Changes the text around the placeholders. -/
def wrap (f : Fragment) (before after : String) : Fragment :=
  ⟨before ++ f.sql ++ after, f.args⟩

def placeholders (base : Nat) : List Value → List String
  | [] => []
  | _ :: values => placeholder (base + 1) :: placeholders (base + 1) values

@[simp] theorem length_placeholders (base : Nat) (values : List Value) :
    (placeholders base values).length = values.length := by
  induction values generalizing base with
  | nil => rfl
  | cons v values ih => simp [placeholders, ih]

end Fragment

end PreparedSql
