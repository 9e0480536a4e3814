import PreparedSql.Proofs.Predicate.Truth
import PreparedSql.Proofs.Template.Predicate

/-!
# Growing a predicate that can be written

Whether a predicate can be written does not depend on what stands in front of it. A step that sets
its operand beside what was there needs both to be writable. A comparison that joins a group needs
the children of that group and not the group, which may have been too short
(`Predicate.growth_writable_iff`).
-/
namespace PreparedSql

/-- A comparison that finds a group of its own connective. -/
def FilterStep.Joins (step : FilterStep) (root : Predicate) : Prop :=
  ∃ c children l, root = .group c children ∧ step = .compare c l

namespace Predicate

def Writable (p : Predicate) : Prop :=
  ∃ f, p.render 0 = .ok f

theorem exists_map_eq_ok_iff {check : Except Fault Unit} {g : Fragment} :
    (∃ f, (check.map fun _ => g) = .ok f) ↔ check = .ok () := by
  constructor
  · rintro ⟨f, h⟩
    exact (check_eq_ok_of_map h).1
  · rintro rfl
    exact ⟨g, rfl⟩

theorem writable_iff_check (p : Predicate) : p.Writable ↔ p.check = .ok () := by
  rw [Writable, render_eq, exists_map_eq_ok_iff]

theorem render_eq_ok_iff_writable (base : Nat) (p : Predicate) :
    (∃ f, p.render base = .ok f) ↔ p.Writable := by
  rw [writable_iff_check, render_eq, exists_map_eq_ok_iff]

theorem renderOpen_eq_ok_iff_writable (base : Nat) (p : Predicate) :
    (∃ f, p.renderOpen base = .ok f) ↔ p.Writable := by
  rw [writable_iff_check, renderOpen_eq, exists_map_eq_ok_iff]

theorem checkAll_eq_ok_iff (children : List Predicate) :
    checkAll children = .ok () ↔ ∀ child ∈ children, child.Writable := by
  induction children with
  | nil => simp [checkAll]
  | cons child children ih =>
    rw [List.forall_mem_cons, ← ih, writable_iff_check, checkAll]
    cases child.check with
    | error fault => exact iff_of_false nofun fun h => nomatch h.1
    | ok _ => exact ⟨fun h => ⟨rfl, h⟩, And.right⟩

theorem not_writable_empty : ¬ empty.Writable := nofun

theorem writable_group_iff {c : Connective} {children : List Predicate} :
    (group c children).Writable ↔ 2 ≤ children.length ∧ ∀ child ∈ children, child.Writable := by
  rw [writable_iff_check, check, ← checkAll_eq_ok_iff]
  split
  · next hshort =>
    constructor
    · intro hcheck
      cases hcheck
    · rintro ⟨hlong, -⟩
      exact absurd hlong (Nat.not_le.mpr hshort)
  · next hlong => exact ⟨fun h => ⟨Nat.not_lt.mp hlong, h⟩, And.right⟩

theorem writable_pair_iff {c : Connective} {p q : Predicate} :
    (group c [p, q]).Writable ↔ p.Writable ∧ q.Writable := by
  simp [writable_group_iff]

theorem writable_append_singleton_iff {c : Connective} {children : List Predicate}
    {p : Predicate} :
    (group c (children ++ [p])).Writable ↔
      p.Writable ∧ (∀ child ∈ children, child.Writable) ∧ 1 ≤ children.length := by
  rw [writable_group_iff, List.length_append, List.length_singleton, List.forall_mem_append,
    List.forall_mem_singleton]
  constructor
  · rintro ⟨hlength, hchildren, hp⟩
    exact ⟨hp, hchildren, by omega⟩
  · rintro ⟨hp, hchildren, hlength⟩
    exact ⟨by omega, hchildren, hp⟩

/-- A step that joins no group sets its operand beside what was there. -/
theorem grow_eq_pair {root : Predicate} (hroot : root ≠ empty) {step : FilterStep}
    (hstep : ¬ step.Joins root) : root.grow step = group step.connective [root, step.operand] := by
  cases step with
  | compare connective l =>
    cases root with
    | empty => exact absurd rfl hroot
    | leaf previous => rfl
    | group c children =>
      have hne : c ≠ connective := by
        rintro rfl
        exact hstep ⟨c, children, l, rfl, rfl⟩
      rw [grow, addLeaf, if_neg hne]
      rfl
  | compareAll connective leaves => exact combineWith_eq_pair hroot .and _
  | combine connective p => exact combineWith_eq_pair hroot connective p

theorem grow_eq_snoc (c : Connective) (children : List Predicate) (l : Leaf) :
    (group c children).grow (.compare c l) = group c (children ++ [leaf l]) := by
  rw [grow, addLeaf, if_pos rfl]

theorem writable_grow_of_not_joins {root : Predicate} (hroot : root ≠ empty) {step : FilterStep}
    (hstep : ¬ step.Joins root) :
    (root.grow step).Writable ↔ root.Writable ∧ step.operand.Writable := by
  rw [grow_eq_pair hroot hstep, writable_pair_iff]

theorem writable_grow_of_joins {c : Connective} {children : List Predicate} {step : FilterStep}
    (hstep : step.Joins (group c children)) :
    ((group c children).grow step).Writable ↔
      step.operand.Writable ∧ (∀ child ∈ children, child.Writable) ∧ 1 ≤ children.length := by
  obtain ⟨c', children', l, hroot, rfl⟩ := hstep
  obtain ⟨rfl, rfl⟩ := Predicate.group.inj hroot
  rw [grow_eq_snoc, writable_append_singleton_iff]
  rfl

/-- A step repairs a predicate just if that lacked nothing but the second condition of a group, and
the step's comparison joins the group. -/
theorem writable_grow_of_not_writable {root : Predicate} (hroot : root ≠ empty)
    (hfaulty : ¬ root.Writable) (step : FilterStep) :
    (root.grow step).Writable ↔
      step.operand.Writable ∧ step.Joins root ∧
        ∃ c child, root = group c [child] ∧ child.Writable := by
  by_cases hjoins : step.Joins root
  · obtain ⟨c, children, l, rfl, rfl⟩ := id hjoins
    rw [writable_grow_of_joins hjoins]
    constructor
    · rintro ⟨hoperand, hchildren, hlength⟩
      -- a longer group of writable children could be written itself
      have hshort : ¬ 2 ≤ children.length := fun h =>
        hfaulty (writable_group_iff.mpr ⟨h, hchildren⟩)
      obtain ⟨child, rfl⟩ := List.length_eq_one_iff.mp (by omega : children.length = 1)
      exact ⟨hoperand, hjoins, c, child, rfl, hchildren child (List.mem_singleton_self child)⟩
    · rintro ⟨hoperand, -, c', child, hgroup, hchild⟩
      obtain ⟨rfl, rfl⟩ := Predicate.group.inj hgroup
      exact ⟨hoperand, List.forall_mem_singleton.mpr hchild, Nat.le_refl 1⟩
  · rw [writable_grow_of_not_joins hroot hjoins]
    exact iff_of_false (fun h => hfaulty h.1) fun h => hjoins h.2.1

theorem writable_grow {root : Predicate} {step : FilterStep} (hroot : root = empty ∨ root.Writable)
    (hoperand : step.operand.Writable) : (root.grow step).Writable := by
  by_cases hempty : root = empty
  · rw [hempty, grow_empty]
    exact hoperand
  · have hwritable : root.Writable := hroot.resolve_left hempty
    by_cases hjoins : step.Joins root
    · obtain ⟨c, children, l, rfl, rfl⟩ := id hjoins
      obtain ⟨hlength, hchildren⟩ := writable_group_iff.mp hwritable
      exact (writable_grow_of_joins hjoins).mpr ⟨hoperand, hchildren, by omega⟩
    · exact (writable_grow_of_not_joins hempty hjoins).mpr ⟨hwritable, hoperand⟩

theorem writable_growAll {root : Predicate} {steps : List FilterStep}
    (hroot : root.Writable ∨ root = empty ∧ steps ≠ [])
    (hoperands : ∀ step ∈ steps, step.operand.Writable) : (root.growAll steps).Writable := by
  induction steps generalizing root with
  | nil => exact hroot.resolve_right fun h => h.2 rfl
  | cons step steps ih =>
    obtain ⟨hstep, hsteps⟩ := List.forall_mem_cons.mp hoperands
    have hstart : root = empty ∨ root.Writable := hroot.symm.imp_left And.left
    exact ih (.inl (writable_grow hstart hstep)) hsteps

end Predicate

namespace Draft

theorem exists_grown {d : Draft} {root : Predicate} (hroot : d.predicate? = some root)
    (step : FilterStep) :
    ∃ e, d.step (.condition step) = some e ∧ e.predicate? = some (root.grow step) := by
  cases d with
  | pendingConflict s target => cases hroot
  | page r => cases hroot
  | statement s =>
    obtain ⟨base, clauses⟩ := s
    change Statement.predicate? ⟨base, clauses⟩ = some root at hroot
    rw [Statement.predicate?] at hroot
    split at hroot
    · next p older hclauses =>
      obtain rfl : clauses = _ := hclauses
      obtain rfl : p = root := Option.some.inj hroot
      exact ⟨_, rfl, rfl⟩
    · cases hroot

/-- What a further step makes of the predicate of a filter. The same can be written with any number
of values in front of it, and behind WHERE as within a group. An operand is all there is after the
first step; a later one needs what it is set beside, or the children of the group that it joins. So
only a group of one writable child is repaired, and writable operands in any order make a writable
predicate. -/
theorem growth_writable_iff {d : Draft} {root : Predicate} (hroot : d.predicate? = some root)
    (step : FilterStep) :
    (∀ base (p : Predicate), ((∃ f, p.render base = .ok f) ↔ p.Writable) ∧
      ((∃ f, p.renderOpen base = .ok f) ↔ p.Writable)) ∧
    (∃ e new, d.step (.condition step) = some e ∧ e.predicate? = some new ∧
      (root = .empty → (new.Writable ↔ step.operand.Writable)) ∧
      (root ≠ .empty → ¬ step.Joins root →
        (new.Writable ↔ root.Writable ∧ step.operand.Writable)) ∧
      (∀ c children, root = .group c children → step.Joins root →
        (new.Writable ↔
          step.operand.Writable ∧ (∀ child ∈ children, child.Writable) ∧ 1 ≤ children.length)) ∧
      (root ≠ .empty → ¬ root.Writable →
        (new.Writable ↔ step.operand.Writable ∧ step.Joins root ∧
          ∃ c child, root = .group c [child] ∧ child.Writable))) ∧
    ∀ steps : List FilterStep, steps ≠ [] → (∀ s ∈ steps, s.operand.Writable) →
      (Predicate.growAll .empty steps).Writable := by
  obtain ⟨e, hstep, he⟩ := exists_grown hroot step
  refine ⟨?_, ⟨e, root.grow step, hstep, he, ?_, ?_, ?_, ?_⟩, ?_⟩
  · intro base p
    exact ⟨p.render_eq_ok_iff_writable base, p.renderOpen_eq_ok_iff_writable base⟩
  · rintro rfl
    rw [Predicate.grow_empty]
  · intro hne hjoins
    exact Predicate.writable_grow_of_not_joins hne hjoins
  · rintro c children rfl hjoins
    exact Predicate.writable_grow_of_joins hjoins
  · intro hne hfaulty
    exact Predicate.writable_grow_of_not_writable hne hfaulty step
  · intro steps hsteps hoperands
    exact Predicate.writable_growAll (.inr ⟨rfl, hsteps⟩) hoperands

/-- A group of one is too short until a comparison of the same connective joins it; beside one of
the other connective it stays too short. -/
theorem growth_writable_iff_short_group :
    let a : Leaf := ⟨"a", .eq, .bound (.int 1)⟩
    let short : Predicate := .group .or [.leaf a]
    let d : Draft := .statement ⟨.delete "t", [.filter short]⟩
    d.predicate? = some short ∧ ¬ short.Writable ∧
      (short.grow (.compare .or a)).Writable ∧ ¬ (short.grow (.compare .and a)).Writable := by
  intro a short d
  have hleaf : (Predicate.leaf a).Writable := ⟨_, rfl⟩
  have hshort : ¬ short.Writable := fun h =>
    absurd (Predicate.writable_group_iff.mp h).1 (by decide)
  have hor : FilterStep.Joins (.compare .or a) short := ⟨.or, [.leaf a], a, rfl, rfl⟩
  have hand : ¬ FilterStep.Joins (.compare .and a) short := by
    rintro ⟨c, children, l, hgroup, hcompare⟩
    obtain ⟨rfl, -⟩ := Predicate.group.inj hgroup
    cases hcompare
  have hroot : d.predicate? = some short := rfl
  obtain ⟨-, ⟨e, new, hstep, hnew, -, -, -, hrepair⟩, -⟩ :=
    growth_writable_iff hroot (.compare .or a)
  obtain ⟨-, ⟨e', new', hstep', hnew', -, hbeside, -, -⟩, -⟩ :=
    growth_writable_iff hroot (.compare .and a)
  obtain rfl : _ = e := Option.some.inj hstep
  obtain rfl : _ = new := Option.some.inj hnew
  obtain rfl : _ = e' := Option.some.inj hstep'
  obtain rfl : _ = new' := Option.some.inj hnew'
  refine ⟨hroot, hshort, ?_, ?_⟩
  · exact (hrepair nofun hshort).mpr ⟨hleaf, hor, .or, .leaf a, rfl, hleaf⟩
  · exact fun h => hshort ((hbeside nofun hand).mp h).1

end Draft

end PreparedSql
