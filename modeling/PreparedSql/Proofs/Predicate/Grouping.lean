import PreparedSql.Proofs.Predicate.Writable
import PreparedSql.Proofs.Statement.Prefixes
import PreparedSql.Proofs.Statement.Steps

/-!
# Comparisons given together and one by one

A list of comparisons is one group, and so are the same comparisons if each joins those before it.
Whether they are given together or one by one makes no difference to a chain, as long as nothing was
set before them; else the list stands beside what was set.
-/
namespace PreparedSql

namespace Predicate

/-- Comparisons of a group's own connective join it one after another. -/
theorem growAll_compares (c : Connective) (children : List Predicate) (leaves : List Leaf) :
    (group c children).growAll (leaves.map (.compare c)) =
      group c (children ++ leaves.map leaf) := by
  induction leaves generalizing children with
  | nil => rw [List.map_nil, List.map_nil, growAll_nil, List.append_nil]
  | cons l leaves ih =>
    rw [List.map_cons, growAll_cons, grow_eq_snoc, ih, List.map_cons, List.append_assoc,
      List.singleton_append]

/-- The first comparison stands alone, the second one makes a group and the others join it. -/
theorem growAll_one_by_one (c : Connective) (first second : Leaf) (rest : List Leaf) :
    empty.growAll (.compare .and first :: (second :: rest).map (.compare c)) =
      group c ((first :: second :: rest).map leaf) := by
  have hpair : (empty.grow (.compare .and first)).grow (.compare c second) =
      group c [leaf first, leaf second] := rfl
  rw [growAll_cons, List.map_cons, growAll_cons, hpair, growAll_compares]
  rfl

theorem growAll_together (c : Connective) (leaves : List Leaf) :
    empty.growAll [.compareAll c leaves] = group c (leaves.map leaf) :=
  rfl

end Predicate

open Predicate

namespace Draft

/-- A filter is started on a statement that takes one. -/
theorem step_filter_eq_some {d e : Draft} (h : d.step .filter = some e) :
    ∃ s, d = statement s ∧ e = statement (s.push (.filter .empty)) := by
  cases d with
  | pendingConflict s target => cases h
  | page r => cases h
  | statement s =>
    obtain ⟨e', he', rfl⟩ := Option.map_eq_some_iff.mp h
    obtain ⟨-, rfl⟩ := Statement.pushIf_eq_some_iff.mp he'
    exact ⟨s, rfl, rfl⟩

theorem run_conditions (s : Statement) (p : Predicate) (steps : List FilterStep) :
    (statement (s.push (.filter p))).run (steps.map .condition) =
      some (statement (s.push (.filter (p.growAll steps)))) :=
  Chain.extend_eq_ok_iff.mp (Chain.extend_conditions 0 s p steps)

/-- Only the predicate that the steps of a filter make is left of them. -/
theorem run_filter_congr {steps steps' : List FilterStep}
    (h : growAll .empty steps = growAll .empty steps') (d : Draft) :
    d.run (.filter :: steps.map .condition) = d.run (.filter :: steps'.map .condition) := by
  rw [run_cons, run_cons]
  cases hfilter : d.step .filter with
  | none => rfl
  | some e =>
    obtain ⟨s, -, rfl⟩ := step_filter_eq_some hfilter
    rw [Option.bind_some, Option.bind_some, run_conditions, run_conditions, h]

end Draft

namespace Chain

theorem compile_filter_congr {steps steps' : List FilterStep}
    (h : growAll .empty steps = growAll .empty steps') (before later : List Step)
    (r : Except Error Compiled) :
    compile (before ++ .filter :: (steps.map .condition ++ later)) = .ok r ↔
      compile (before ++ .filter :: (steps'.map .condition ++ later)) = .ok r := by
  by_cases hbefore : before = []
  · -- a chain does not start with a filter
    subst hbefore
    rfl
  · have hrun (d : Draft) : d.run (.filter :: (steps.map .condition ++ later)) =
        d.run (.filter :: (steps'.map .condition ++ later)) := by
      rw [← List.cons_append, ← List.cons_append, Draft.run_append, Draft.run_append,
        Draft.run_filter_congr h]
    simp only [compile_eq_ok_iff, draft_append_eq_ok_iff hbefore, hrun]

/-- At least two comparisons that are given together are one group of them in their order, just as
if they were given one by one. So a chain has the same outcome either way, be it SQL with its values
or an error. Beside a predicate that was set before, the group is the second of two conditions that
both have to hold. -/
theorem together_eq_one_by_one (c : Connective) (first second : Leaf) (rest : List Leaf) :
    let leaves := first :: second :: rest
    let together : List FilterStep := [.compareAll c leaves]
    let oneByOne : List FilterStep := .compare .and first :: (second :: rest).map (.compare c)
    growAll .empty together = .group c (leaves.map .leaf) ∧
      growAll .empty oneByOne = .group c (leaves.map .leaf) ∧
      (∀ before later r, compile (before ++ .filter :: (together.map .condition ++ later)) = .ok r ↔
        compile (before ++ .filter :: (oneByOne.map .condition ++ later)) = .ok r) ∧
      ∀ (d : Draft) (root : Predicate), d.predicate? = some root → root ≠ .empty →
        ∃ e, d.step (.condition (.compareAll c leaves)) = some e ∧
          e.predicate? = some (.group .and [root, .group c (leaves.map .leaf)]) := by
  intro leaves together oneByOne
  have htogether : growAll .empty together = .group c (leaves.map .leaf) :=
    growAll_together c leaves
  have honeByOne : growAll .empty oneByOne = .group c (leaves.map .leaf) :=
    growAll_one_by_one c first second rest
  refine ⟨htogether, honeByOne, ?_, ?_⟩
  · exact compile_filter_congr (htogether.trans honeByOne.symm)
  · intro d root hroot hne
    obtain ⟨e, hstep, he⟩ := d.exists_grown hroot (.compareAll c leaves)
    refine ⟨e, hstep, ?_⟩
    rw [he, grow, combineWith_eq_pair hne]

/-- Three comparisons, one of them refused, in a filter of their own and beside one that is set. -/
theorem together_eq_one_by_one_refused :
    let a : Leaf := ⟨"a", .eq, .bound (.int 1)⟩
    let b : Leaf := ⟨"b", .gt, .bound .null⟩
    let d : Draft := .statement ⟨.delete "t", [.filter (.leaf b)]⟩
    compile [.delete "t", .filter, .condition (.compareAll .or [a, b, a])] =
        .ok (.error (Fault.nullComparison "b").toError) ∧
      ∃ e, d.step (.condition (.compareAll .or [a, b, a])) = some e ∧
        e.predicate? = some (.group .and [.leaf b, .group .or [.leaf a, .leaf b, .leaf a]]) := by
  intro a b d
  obtain ⟨-, -, hcompile, hbeside⟩ := together_eq_one_by_one .or a b [a]
  exact ⟨(hcompile [.delete "t"] [] _).mpr rfl, hbeside d (.leaf b) rfl nofun⟩

end Chain

end PreparedSql
