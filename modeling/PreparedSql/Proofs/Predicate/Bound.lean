import PreparedSql.Proofs.Predicate.Writable

/-!
# Values that a predicate binds

A predicate binds the values of its comparisons from left to right. What is compared is never NULL
or a list, for NULL is tested for or refused and a list is refused. The operands of a membership
test are bound as they are, so NULL and lists are bound just if they are among those
(`Predicate.args_scalar_iff`).
-/
namespace PreparedSql

open Template

/-- Whether a value is one value that is not NULL, as a placeholder stands for. -/
def Value.isScalar (v : Value) : Bool :=
  !v.isNull && !v.isList

namespace Leaf

def tested (l : Leaf) : List Value :=
  match l.operand with
  | .raw _ => []
  | .bound v => if l.comparison.membership then members v else []

def boundValues (l : Leaf) : List Value :=
  match l.operand with
  | .raw _ => []
  | .bound v => if l.comparison.membership then members v else if v.isNull then [] else [v]

/-- A value that is compared, and not tested for membership. -/
def Compares (l : Leaf) (v : Value) : Prop :=
  l.operand = .bound v ∧ l.comparison.membership = false

variable {l : Leaf}

theorem values_memberTemplate (l : Leaf) (operator : String) (values : List Value) :
    Template.values (l.memberTemplate operator values) = values := by
  cases values with
  | nil => rfl
  | cons v values =>
    have hvalues := valuesOfAll_singletons (v :: values)
    simp only [memberTemplate, values_text, values_append, values_joined, hvalues, values_nil,
      List.append_nil]

theorem values_valueTemplate (l : Leaf) (operator : String) (v : Value) :
    Template.values (l.valueTemplate operator v) = if v.isNull then [] else [v] := by
  cases v <;> rfl

theorem exists_operator_of_check (h : l.check = .ok ()) :
    ∃ operator, l.comparison.operator? = some operator := by
  rw [check] at h
  split at h
  · cases h
  · next hsome => exact Option.ne_none_iff_exists'.mp fun hnone => hsome (by rw [hnone]; rfl)

theorem values_template (h : l.check = .ok ()) : Template.values l.template = l.boundValues := by
  obtain ⟨operator, hoperator⟩ := exists_operator_of_check h
  rw [template, boundValues, hoperator]
  cases l.operand with
  | raw sql => rfl
  | bound v =>
    cases hmembership : l.comparison.membership with
    | true => simp only [if_true, values_memberTemplate]
    | false => simp only [Bool.false_eq_true, if_false, values_valueTemplate]

/-- A list is not compared, and NULL only for equality. -/
theorem Compares.not_list {v : Value} (hv : l.Compares v) (h : l.check = .ok ()) :
    v.isList = false ∧ (v.isNull = true → l.comparison = .eq ∨ l.comparison = .ne) := by
  obtain ⟨hoperand, hmembership⟩ := hv
  obtain ⟨operator, hoperator⟩ := exists_operator_of_check h
  have hchecked : l.checkValue v = .ok () := by
    simpa [check, hoperator, hoperand, hmembership] using h
  cases v with
  | null =>
    refine ⟨rfl, fun _ => ?_⟩
    by_contra hne
    rw [checkValue, if_neg hne] at hchecked
    cases hchecked
  | list items => cases hchecked
  | _ =>
    refine ⟨rfl, fun hnull => ?_⟩
    cases hnull

theorem boundValues_scalar_iff (h : l.check = .ok ()) :
    (∀ v ∈ l.boundValues, v.isScalar = true) ↔ ∀ v ∈ l.tested, v.isScalar = true := by
  cases hoperand : l.operand with
  | raw sql => simp [boundValues, tested, hoperand]
  | bound v =>
    cases hmembership : l.comparison.membership with
    | true => simp [boundValues, tested, hoperand, hmembership]
    | false =>
      have hlist := (Compares.not_list ⟨hoperand, hmembership⟩ h).1
      cases hnull : v.isNull <;>
        simp [boundValues, tested, hoperand, hmembership, hnull, hlist, Value.isScalar]

end Leaf

namespace Predicate

mutual

theorem check_of_mem_leaves {p : Predicate} (h : p.Writable) :
    ∀ l ∈ p.leaves, l.check = .ok () := by
  cases p with
  | empty => exact absurd h not_writable_empty
  | leaf l => exact List.forall_mem_singleton.mpr ((writable_iff_check _).mp h)
  | group c children => exact check_of_mem_leavesOfAll (writable_group_iff.mp h).2

theorem check_of_mem_leavesOfAll {children : List Predicate}
    (h : ∀ child ∈ children, child.Writable) : ∀ l ∈ leavesOfAll children, l.check = .ok () := by
  cases children with
  | nil => nofun
  | cons child children =>
    obtain ⟨hchild, hchildren⟩ := List.forall_mem_cons.mp h
    exact List.forall_mem_append.mpr
      ⟨check_of_mem_leaves hchild, check_of_mem_leavesOfAll hchildren⟩

end

mutual

theorem values_template {p : Predicate} (h : ∀ l ∈ p.leaves, l.check = .ok ()) :
    Template.values p.template = p.leaves.flatMap Leaf.boundValues := by
  cases p with
  | empty => rfl
  | leaf l =>
    rw [template, leaves, List.flatMap_singleton, Leaf.values_template (h l List.mem_cons_self)]
  | group c children =>
    have hchildren := valuesOfAll_templates h
    simp [template, values_joined, leaves, hchildren]

theorem valuesOfAll_templates {children : List Predicate}
    (h : ∀ l ∈ leavesOfAll children, l.check = .ok ()) :
    Template.valuesOfAll (templates children) =
      (leavesOfAll children).flatMap Leaf.boundValues := by
  cases children with
  | nil => rfl
  | cons child children =>
    obtain ⟨hchild, hchildren⟩ := List.forall_mem_append.mp h
    rw [templates, Template.valuesOfAll, List.flatMap_cons, values_template hchild,
      ← Template.valuesOfAll, valuesOfAll_templates hchildren, leavesOfAll, List.flatMap_append]

end

/-- A predicate that is written binds the values of its comparisons in their order. It compares no
list, and NULL only for equality. So it binds nothing but scalars just if there is no NULL and no
list among the operands of its membership tests. -/
theorem args_scalar_iff (base : Nat) (p : Predicate) (f : Fragment) (h : p.render base = .ok f) :
    f.args = p.leaves.flatMap Leaf.boundValues ∧
      (∀ l ∈ p.leaves, ∀ v, l.Compares v →
        v.isList = false ∧ (v.isNull = true → l.comparison = .eq ∨ l.comparison = .ne)) ∧
      ((∀ v ∈ f.args, v.isScalar = true) ↔
        ∀ l ∈ p.leaves, ∀ v ∈ l.tested, v.isScalar = true) := by
  have hleaves := check_of_mem_leaves ((render_eq_ok_iff_writable base p).mp ⟨f, h⟩)
  have hargs : f.args = p.leaves.flatMap Leaf.boundValues := by
    rw [render_eq] at h
    obtain ⟨-, rfl⟩ := check_eq_ok_of_map h
    exact values_template hleaves
  refine ⟨hargs, ?_, ?_⟩
  · intro l hl v hv
    exact hv.not_list (hleaves l hl)
  · rw [hargs, List.forall_mem_flatMap]
    exact forall₂_congr fun l hl => Leaf.boundValues_scalar_iff (hleaves l hl)

/-- NULL is tested for beside a comparison and a test for membership, both with values of their
own. -/
theorem args_scalar_iff_null_test :
    let p : Predicate := .group .and [field "a" .eq .null, field "b" .gt (.int 1),
      isIn "c" [.int 2, .text "x"]]
    ∃ f, p.render 3 = .ok f ∧
      f.sql = "(a IS NULL AND b > $4 AND c IN ($5, $6))" ∧
      f.args = [.int 1, .int 2, .text "x"] ∧ ∀ v ∈ f.args, v.isScalar = true := by
  intro p
  obtain ⟨f, hf⟩ : ∃ f, p.render 3 = .ok f := ⟨_, rfl⟩
  have hscalar := (args_scalar_iff 3 p f hf).2.2
  obtain rfl : _ = f := Except.ok.inj hf
  exact ⟨_, hf, by decide +kernel, rfl, hscalar.mpr (by decide)⟩

/-- A test for membership binds NULL, whether it stands alone or in a list, and a list in a list. -/
theorem membership_binds_null_and_lists :
    ¬ (∀ base p f, Predicate.render base p = .ok f → ∀ v ∈ f.args, v.isScalar = true) ∧
      (∃ f, (field "c" .notWithin .null).render 0 = .ok f ∧
        f.sql = "c NOT IN ($1)" ∧ f.args = [.null]) ∧
      (∃ f, (isIn "c" [.int 1, .null]).render 0 = .ok f ∧ f.args = [.int 1, .null]) ∧
      ∃ f, (isIn "c" [.list [.int 1]]).render 0 = .ok f ∧ f.args = [.list [.int 1]] := by
  refine ⟨?_, ⟨_, rfl, by decide +kernel, rfl⟩, ⟨_, rfl, rfl⟩, ⟨_, rfl, rfl⟩⟩
  intro h
  have hnull := h 0 (field "c" .notWithin .null) _ rfl .null List.mem_cons_self
  cases hnull

end Predicate

end PreparedSql
