import PreparedSql.Proofs.Predicate.Leaves
import PreparedSql.Proofs.Statement.Prefixes
import PreparedSql.Proofs.Statement.Steps

/-!
# The caller's texts

The pieces of SQL that the caller of a chain answers for: tables, columns, nicknames, sides of
joins, raw operands and raw field values, sort terms, functions and their arguments. What holds of
the texts of all steps of a chain holds of the texts of the draft it puts together
(`Chain.forall_texts_draft`).
-/
namespace PreparedSql

namespace Operand

def texts : Operand → List String
  | bound _ => []
  | raw sql => [sql]

end Operand

namespace Leaf

def texts (l : Leaf) : List String :=
  l.column :: l.operand.texts

end Leaf

namespace Predicate

def texts (p : Predicate) : List String :=
  p.leaves.flatMap Leaf.texts

def textsOfAll (children : List Predicate) : List String :=
  children.flatMap texts

end Predicate

namespace FieldValue

def texts : FieldValue → List String
  | bound _ => []
  | raw sql => [sql]

end FieldValue

namespace Assignment

def texts (a : Assignment) : List String :=
  a.column :: a.value.texts

end Assignment

namespace Root

def texts : Root → List String
  | select s => s.table :: s.columns
  | insert table assignments => table :: assignments.flatMap Assignment.texts
  | update table assignments => table :: assignments.flatMap Assignment.texts
  | delete table => [table]

end Root

namespace Join

def texts (j : Join) : List String :=
  j.table :: j.left :: j.right :: j.nickname.toList

end Join

namespace ConflictAction

def texts : ConflictAction → List String
  | nothing => []
  | update assignments => assignments.flatMap Assignment.texts

end ConflictAction

namespace Clause

def texts : Clause → List String
  | join j => j.texts
  | filter p => p.texts
  | orderBy terms => terms.map SortTerm.column
  | limit _ | existence => []
  | call function arguments => function :: arguments
  | onConflict target action => target ++ action.texts
  | returning columns => columns

end Clause

namespace Statement

def texts (s : Statement) : List String :=
  s.root.texts ++ s.clauses.flatMap Clause.texts

end Statement

namespace Draft

def texts : Draft → List String
  | statement s => s.texts
  | pendingConflict s target => s.texts ++ target
  | page r => r.inner.texts ++ r.ordering

end Draft

namespace FilterStep

def texts (step : FilterStep) : List String :=
  step.operand.texts

end FilterStep

namespace Step

def texts : Step → List String
  | select table | selectCount table | insert table | update table | delete table => [table]
  | .column name | nickname name => [name]
  | .columns names => names
  | join _ table left right => [table, left, right]
  | filterWith steps => steps.flatMap FilterStep.texts
  | condition step => step.texts
  | orderBy term | thenBy term => [term.column]
  | call function => [function]
  | argument sql => [sql]
  | assign name value => name :: value.texts
  | assignOptional name _ | assignExcluded name => [name]
  | onConflict target => target
  | returning names => names
  | paginate _ _ ordering => ordering
  | filter | distinct | limit _ | offset _ | window _ | existence | doNothing | doUpdate => []

end Step

namespace Predicate

theorem texts_group (connective : Connective) (children : List Predicate) :
    (group connective children).texts = textsOfAll children := by
  rw [texts, leaves, leavesOfAll_eq_flatMap, List.flatMap_assoc]
  rfl

theorem texts_grow (root : Predicate) (step : FilterStep) :
    (root.grow step).texts = root.texts ++ step.texts := by
  rw [texts, leaves_grow, List.flatMap_append]
  rfl

theorem texts_growAll (root : Predicate) (steps : List FilterStep) :
    (root.growAll steps).texts = root.texts ++ steps.flatMap FilterStep.texts := by
  rw [texts, leaves_growAll, List.flatMap_append, List.flatMap_assoc]
  rfl

end Predicate

variable {P : String → Prop}

namespace Statement

variable {s e : Statement}

theorem forall_texts_iff (root : Root) (c : Clause) (older : List Clause) :
    (∀ t ∈ (Statement.mk root (c :: older)).texts, P t) ↔
      (∀ t ∈ (Statement.mk root older).texts, P t) ∧ ∀ t ∈ c.texts, P t := by
  simp only [texts, List.flatMap_cons, List.forall_mem_append]
  exact ⟨fun h => ⟨⟨h.1, h.2.2⟩, h.2.1⟩, fun h => ⟨h.1.1, h.2, h.1.2⟩⟩

theorem forall_texts_pushIf {admitted : Bool} {c : Clause} (h : s.pushIf admitted c = some e)
    (hs : ∀ t ∈ s.texts, P t) (hc : ∀ t ∈ c.texts, P t) : ∀ t ∈ e.texts, P t := by
  obtain ⟨-, rfl⟩ := pushIf_eq_some_iff.mp h
  exact (forall_texts_iff s.root c s.clauses).mpr ⟨hs, hc⟩

theorem forall_texts_onSelection {change : Selection → Selection} {added : List String}
    (h : s.onSelection change = some e) (hs : ∀ t ∈ s.texts, P t)
    (htable : ∀ x, (change x).table = x.table)
    (hcolumns : ∀ x, (change x).columns = x.columns ++ added) (hadded : ∀ t ∈ added, P t) :
    ∀ t ∈ e.texts, P t := by
  obtain ⟨x, rfl, rfl⟩ := onSelection_eq_some h
  simp only [texts, ofRoot, Root.texts, List.flatMap_nil, List.append_nil, htable, hcolumns,
    List.forall_mem_cons, List.forall_mem_append] at hs ⊢
  exact ⟨hs.1, hs.2, hadded⟩

theorem forall_texts_addAssignments {added : List Assignment} (h : s.addAssignments added = some e)
    (hs : ∀ t ∈ s.texts, P t) (hadded : ∀ t ∈ added.flatMap Assignment.texts, P t) :
    ∀ t ∈ e.texts, P t := by
  obtain ⟨table, assignments, rfl, rfl⟩ | ⟨table, assignments, rfl, rfl⟩ |
    ⟨root, target, assignments, older, rfl, rfl⟩ := addAssignments_eq_some h
  · simp only [texts, ofRoot, Root.texts, List.flatMap_nil, List.append_nil,
      List.flatMap_append, List.forall_mem_cons, List.forall_mem_append] at hs ⊢
    exact ⟨hs.1, hs.2, hadded⟩
  · simp only [texts, ofRoot, Root.texts, List.flatMap_nil, List.append_nil,
      List.flatMap_append, List.forall_mem_cons, List.forall_mem_append] at hs ⊢
    exact ⟨hs.1, hs.2, hadded⟩
  · rw [forall_texts_iff] at hs ⊢
    simp only [Clause.texts, ConflictAction.texts, List.flatMap_append,
      List.forall_mem_append] at hs ⊢
    exact ⟨hs.1, hs.2.1, hs.2.2, hadded⟩

theorem forall_texts_onWindow {change : Window → Window} (h : s.onWindow change = some e)
    (hs : ∀ t ∈ s.texts, P t) : ∀ t ∈ e.texts, P t := by
  obtain ⟨root, w, older, rfl, rfl⟩ | ⟨-, rfl⟩ := onWindow_eq_some h
  · exact hs
  · refine (forall_texts_iff s.root _ s.clauses).mpr ⟨hs, ?_⟩
    intro t ht
    cases ht

/-- A step keeps what holds of all texts, if it holds of the step's own. -/
theorem forall_texts_step (hexcluded : ∀ name, P name → P ("EXCLUDED." ++ name)) {step : Step}
    (h : s.step step = some e) (hs : ∀ t ∈ s.texts, P t) (hstep : ∀ t ∈ step.texts, P t) :
    ∀ t ∈ e.texts, P t := by
  cases step with
  | column name => exact forall_texts_onSelection h hs (fun _ => rfl) (fun _ => rfl) hstep
  | columns names => exact forall_texts_onSelection h hs (fun _ => rfl) (fun _ => rfl) hstep
  | distinct =>
    exact forall_texts_onSelection h hs (fun _ => rfl) (fun _ => (List.append_nil _).symm) hstep
  | join kind table left right => exact forall_texts_pushIf h hs hstep
  | filter => exact forall_texts_pushIf h hs hstep
  | filterWith steps =>
    refine forall_texts_pushIf h hs ?_
    rw [Clause.texts, Predicate.texts_growAll]
    exact hstep
  | orderBy term => exact forall_texts_pushIf h hs hstep
  | limit n => exact forall_texts_onWindow h hs
  | offset n => exact forall_texts_onWindow h hs
  | window w => exact forall_texts_pushIf h hs hstep
  | existence => exact forall_texts_pushIf h hs hstep
  | call function => exact forall_texts_pushIf h hs hstep
  | returning names => exact forall_texts_pushIf h hs hstep
  | assign name value =>
    exact forall_texts_addAssignments h hs (by simpa [Assignment.texts, Step.texts] using hstep)
  | assignOptional name value =>
    refine forall_texts_addAssignments h hs ?_
    cases value with
    | none => simp
    | some v => simpa [Assignment.texts, FieldValue.texts, Step.texts] using hstep
  | nickname name =>
    obtain ⟨root, j, older, rfl, rfl⟩ := nickname_eq_some h
    rw [forall_texts_iff] at hs ⊢
    simp only [Clause.texts, Join.texts, Option.toList_some, List.forall_mem_cons] at hs ⊢
    exact ⟨hs.1, hs.2.1, hs.2.2.1, hs.2.2.2.1, List.forall_mem_cons.mp hstep⟩
  | condition step =>
    obtain ⟨root, p, older, rfl, rfl⟩ := condition_eq_some h
    rw [forall_texts_iff] at hs ⊢
    simp only [Clause.texts, Predicate.texts_grow, List.forall_mem_append] at hs ⊢
    exact ⟨hs.1, hs.2, hstep⟩
  | thenBy term =>
    obtain ⟨root, terms, older, rfl, rfl⟩ := thenBy_eq_some h
    rw [forall_texts_iff] at hs ⊢
    simp only [Clause.texts, List.map_append, List.forall_mem_append] at hs ⊢
    exact ⟨hs.1, hs.2, hstep⟩
  | argument sql =>
    obtain ⟨root, function, arguments, older, rfl, rfl⟩ := argument_eq_some h
    rw [forall_texts_iff] at hs ⊢
    simp only [Clause.texts, List.forall_mem_cons, List.forall_mem_append] at hs ⊢
    exact ⟨hs.1, hs.2.1, hs.2.2, List.forall_mem_cons.mp hstep⟩
  | assignExcluded name =>
    refine forall_texts_addAssignments (assignExcluded_eq_some h) hs ?_
    have hname : P name := hstep name List.mem_cons_self
    simpa [Assignment.texts, FieldValue.excluded, FieldValue.texts] using
      ⟨hname, hexcluded name hname⟩
  | _ => cases h

end Statement

namespace Draft

theorem forall_texts_start {first : Step} {d : Draft} (h : start first = some d)
    (hfirst : ∀ t ∈ first.texts, P t) : ∀ t ∈ d.texts, P t := by
  cases first <;> simp only [start, reduceCtorEq, Option.some.injEq] at h <;> subst h <;>
    simpa [texts, Statement.texts, Statement.ofRoot, Root.texts, Step.texts] using hfirst

theorem forall_texts_step (hexcluded : ∀ name, P name → P ("EXCLUDED." ++ name)) {d e : Draft}
    {step : Step} (h : d.step step = some e) (hd : ∀ t ∈ d.texts, P t)
    (hstep : ∀ t ∈ step.texts, P t) : ∀ t ∈ e.texts, P t := by
  cases effect_of_step h with
  | statement hs => exact Statement.forall_texts_step hexcluded hs hd hstep
  | onConflict target _ => exact List.forall_mem_append.mpr ⟨hd, hstep⟩
  | paginate _ _ ordering _ => exact List.forall_mem_append.mpr ⟨hd, hstep⟩
  | doNothing s target | doUpdate s target =>
    obtain ⟨hs, htarget⟩ := List.forall_mem_append.mp hd
    refine (Statement.forall_texts_iff s.root _ s.clauses).mpr ⟨hs, ?_⟩
    simpa [Clause.texts, ConflictAction.texts] using htarget

end Draft

namespace Chain

/-- What holds of the texts of a chain's steps holds of all texts of its draft. -/
theorem forall_texts_draft (hexcluded : ∀ name, P name → P ("EXCLUDED." ++ name))
    {steps : List Step} {d : Draft} (h : draft steps = .ok d)
    (hsteps : ∀ step ∈ steps, ∀ t ∈ step.texts, P t) : ∀ t ∈ d.texts, P t := by
  apply draft_invariant (fun step => ∀ t ∈ step.texts, P t) _ _ h hsteps
  · intro first d hstart hfirst
    exact Draft.forall_texts_start hstart hfirst
  · intro d e step hd hstep hnext
    exact Draft.forall_texts_step hexcluded hstep hd hnext

end Chain

end PreparedSql
