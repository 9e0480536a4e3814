import PreparedSql.Predicate.Render
import PreparedSql.Proofs.Template.Basic

/-!
# Templates of predicates

What is wrong with a predicate does not depend on the values in front of it, and what it is written
as is a template. `Predicate.render_eq` says so of a whole predicate: writing it is checking it and
then numbering its template.
-/
namespace PreparedSql

open Template

/-- What could be written had no fault. -/
theorem check_eq_ok_of_map {check : Except Fault Unit} {f g : Fragment}
    (h : (check.map fun _ => g) = .ok f) : check = .ok () ∧ g = f := by
  cases check with
  | error fault => cases h
  | ok _ => exact ⟨rfl, Except.ok.inj h⟩

namespace Leaf

def memberTemplate (l : Leaf) (operator : String) : List Value → Template
  | [] => [.text (if l.comparison.negated then "1=1" else "1=0")]
  | values =>
    .text l.column :: .text " " :: .text operator :: .text " (" ::
      (joined ", " (values.map fun v => [.value v]) ++ [.text ")"])

def valueTemplate (l : Leaf) (operator : String) : Value → Template
  | .null => [.text l.column, .text (if l.comparison = .ne then " IS NOT NULL" else " IS NULL")]
  | v => [.text l.column, .text " ", .text operator, .text " ", .value v]

/-- A comparison without an operator is not written at all. -/
def template (l : Leaf) : Template :=
  match l.comparison.operator? with
  | none => []
  | some operator =>
    match l.operand with
    | .raw sql => [.text l.column, .text " ", .text operator, .text " ", .text sql]
    | .bound v =>
      if l.comparison.membership then l.memberTemplate operator (members v)
      else l.valueTemplate operator v

def checkValue (l : Leaf) : Value → Except Fault Unit
  | .null =>
    if l.comparison = .eq ∨ l.comparison = .ne then .ok () else .error (.nullComparison l.column)
  | .list _ => .error (.listComparison l.column)
  | _ => .ok ()

def check (l : Leaf) : Except Fault Unit :=
  if l.comparison.operator?.isNone then .error (.unsupportedComparison l.comparison)
  else
    match l.operand with
    | .raw _ => .ok ()
    | .bound v => if l.comparison.membership then .ok () else l.checkValue v

end Leaf

namespace Predicate

mutual

def template : Predicate → Template
  | empty => []
  | leaf l => l.template
  | group connective children =>
    .text "(" :: (joined connective.separator (templates children) ++ [.text ")"])

def templates : List Predicate → List Template
  | [] => []
  | child :: children => template child :: templates children

end

def openTemplate : Predicate → Template
  | group connective children => joined connective.separator (templates children)
  | p => p.template

mutual

/-- The first fault of a predicate from the left; a group's own comes before its children's. -/
def check : Predicate → Except Fault Unit
  | empty => .error .emptyPredicate
  | leaf l => l.check
  | group connective children =>
    if children.length < 2 then .error (.shortGroup connective children.length)
    else checkAll children

def checkAll : List Predicate → Except Fault Unit
  | [] => .ok ()
  | child :: children => do
    check child
    checkAll children

end

end Predicate

namespace Leaf

variable (base : Nat) (l : Leaf)

theorem numberEach_placeholders (values : List Value) :
    numberEach base (values.map fun v => [.value v]) = Fragment.placeholders base values := by
  induction values generalizing base with
  | nil => rfl
  | cons v values ih => simp [numberEach, Fragment.placeholders, ih]

theorem valuesOfAll_singletons (values : List Value) :
    valuesOfAll (values.map fun v => [.value v]) = values := by
  induction values with
  | nil => rfl
  | cons v values ih =>
    rw [valuesOfAll] at ih ⊢
    simp [ih]

theorem renderMembers_eq (operator : String) (values : List Value) :
    renderMembers base l.column operator l.comparison.negated values =
      instantiate base (l.memberTemplate operator values) := by
  cases values with
  | nil => simp [renderMembers, memberTemplate, instantiate, Fragment.ofText]
  | cons v values =>
    have hnumber := numberEach_placeholders base (v :: values)
    have hvalues := valuesOfAll_singletons (v :: values)
    simp only [renderMembers, memberTemplate, instantiate, number_text, number_append,
      number_joined, values_text, values_append, values_joined, hnumber, hvalues]
    simp [String.append_assoc]

theorem renderValue_eq (operator : String) (v : Value) :
    l.renderValue base operator v =
      (l.checkValue v).map fun _ => instantiate base (l.valueTemplate operator v) := by
  cases v with
  | null =>
    by_cases heq : l.comparison = .eq
    · have hne : l.comparison ≠ .ne := by rw [heq]; decide
      simp only [renderValue, checkValue, valueTemplate, if_pos heq, if_neg hne,
        if_pos (Or.inl heq)]
      simp [Except.map, instantiate, Fragment.ofText]
    · by_cases hne : l.comparison = .ne
      · simp only [renderValue, checkValue, valueTemplate, if_neg heq, if_pos hne,
          if_pos (Or.inr hne)]
        simp [Except.map, instantiate, Fragment.ofText]
      · simp [renderValue, checkValue, heq, hne, Except.map]
  | list items => rfl
  | _ =>
    simp [renderValue, checkValue, valueTemplate, Except.map, instantiate, Fragment.ofValue,
      Fragment.wrap, String.append_assoc]

theorem render_eq : l.render base = l.check.map fun _ => instantiate base l.template := by
  cases hop : l.comparison.operator? with
  | none => simp [render, check, hop, Except.map]
  | some operator =>
    cases hoperand : l.operand with
    | raw sql =>
      simp [render, check, template, hop, hoperand, Except.map, instantiate, Fragment.ofText,
        String.append_assoc]
    | bound v =>
      by_cases hm : l.comparison.membership = true
      · have hmembers := renderMembers_eq base l operator (members v)
        simp [render, check, template, hop, hoperand, hm, Except.map, hmembers]
      · have hvalue := renderValue_eq base l operator v
        simp [render, check, template, hop, hoperand, hm, hvalue]

end Leaf

namespace Predicate

theorem connect_eq (base : Nat) (connective : Connective) (children : List Predicate)
    (h : renderChildren base children = (checkAll children).map fun _ =>
      (numberEach base (templates children), valuesOfAll (templates children))) :
    connect connective children.length (renderChildren base children) =
      (check (group connective children)).map fun _ =>
        instantiate base (joined connective.separator (templates children)) := by
  rw [connect, check, h]
  split
  · rfl
  · cases checkAll children with
    | error fault => rfl
    | ok _ => simp [Except.map, instantiate, number_joined, values_joined]

mutual

/-- Writing a predicate is checking it and numbering its template. -/
theorem render_eq (base : Nat) (p : Predicate) :
    p.render base = p.check.map fun _ => instantiate base p.template := by
  cases p with
  | empty => rfl
  | leaf l => exact l.render_eq base
  | group connective children =>
    have hconnect := connect_eq base connective children (renderChildren_eq base children)
    rw [render, hconnect]
    cases check (group connective children) with
    | error fault => rfl
    | ok _ =>
      simp [Except.map, Fragment.wrap, template, instantiate, number_append, String.append_assoc]

theorem renderChildren_eq (base : Nat) (children : List Predicate) :
    renderChildren base children = (checkAll children).map fun _ =>
      (numberEach base (templates children), valuesOfAll (templates children)) := by
  cases children with
  | nil => rfl
  | cons child children =>
    rw [renderChildren, checkAll, render_eq base child]
    cases child.check with
    | error fault => rfl
    | ok _ =>
      have hrest := renderChildren_eq (base + (values child.template).length) children
      change (renderChildren (base + (values child.template).length) children >>= _) = _
      rw [hrest]
      cases hcheck : checkAll children with
      | error fault => simp [Except.map, bind, Except.bind]
      | ok _ =>
        simp [Except.map, bind, Except.bind, pure, Except.pure, templates, numberEach, valuesOfAll]

end

theorem renderOpen_eq (base : Nat) (p : Predicate) :
    p.renderOpen base = p.check.map fun _ => instantiate base p.openTemplate := by
  cases p with
  | group connective children =>
    exact connect_eq base connective children (renderChildren_eq base children)
  | empty => exact render_eq base .empty
  | leaf l => exact render_eq base (.leaf l)

end Predicate

end PreparedSql
