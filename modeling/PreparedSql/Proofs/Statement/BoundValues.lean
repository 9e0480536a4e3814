import Mathlib.Data.List.Basic
import PreparedSql.Proofs.Predicate.Bound
import PreparedSql.Proofs.Statement.Prefixes
import PreparedSql.Proofs.Statement.Steps
import PreparedSql.Proofs.Template.Statement

/-!
# Values along a chain

What a chain binds stands in its draft in the order of the steps: first the values of the root, then
those of each clause. A step sets its own values behind those that were there
(`Draft.boundValues_step`), except for one that sets a bound of a LIMIT that is there already. A
chain that compiles binds just these values (`Chain.exists_template_of_compile`).
-/
namespace PreparedSql

open Template

namespace FieldValue

def boundValues : FieldValue → List Value
  | bound v => [v]
  | raw _ => []

end FieldValue

namespace Assignment

def boundValues (a : Assignment) : List Value :=
  a.value.boundValues

end Assignment

namespace Root

def boundValues : Root → List Value
  | select _ | delete _ => []
  | insert _ assignments | update _ assignments => assignments.flatMap Assignment.boundValues

end Root

namespace Predicate

def boundValues (p : Predicate) : List Value :=
  p.leaves.flatMap Leaf.boundValues

end Predicate

namespace Window

def boundValues (w : Window) : List Value :=
  (w.maxCount.toList ++ w.startIndex.toList).map .int

end Window

namespace ConflictAction

def boundValues : ConflictAction → List Value
  | nothing => []
  | update assignments => assignments.flatMap Assignment.boundValues

end ConflictAction

namespace Clause

def boundValues : Clause → List Value
  | filter p => p.boundValues
  | limit w => w.boundValues
  | onConflict _ action => action.boundValues
  | join _ | orderBy _ | existence | call _ _ | returning _ => []

end Clause

namespace Statement

def boundValues (s : Statement) : List Value :=
  s.root.boundValues ++ s.clauses.reverse.flatMap Clause.boundValues

end Statement

namespace Draft

def boundValues : Draft → List Value
  | statement s | pendingConflict s _ => s.boundValues
  | page r => r.inner.boundValues ++ [.int (r.pageIndex * r.pageSize), .int r.pageSize]

end Draft

namespace FilterStep

def boundValues (step : FilterStep) : List Value :=
  step.operand.boundValues

end FilterStep

namespace Step

def boundValues : Step → List Value
  | filterWith steps => steps.flatMap FilterStep.boundValues
  | condition step => step.boundValues
  | limit n | offset n => [.int n]
  | window w => w.boundValues
  | assign _ value => value.boundValues
  | assignOptional _ value => value.toList
  | paginate pageIndex pageSize _ => [.int (pageIndex * pageSize), .int pageSize]
  | select _ | selectCount _ | insert _ | update _ | delete _ | .column _ | .columns _ | distinct
  | join _ _ _ _ | nickname _ | filter | orderBy _ | thenBy _ | existence | call _ | argument _
  | assignExcluded _ | onConflict _ | doNothing | doUpdate | returning _ => []

end Step

theorem FieldValue.values_template (value : FieldValue) :
    values value.template = value.boundValues := by
  cases value <;> rfl

namespace Assignment

variable (assignments : List Assignment)

theorem values_pairsTemplate :
    Template.values (pairsTemplate assignments) = assignments.flatMap Assignment.boundValues := by
  rw [pairsTemplate, values_joined, valuesOfAll, List.flatMap_map]
  apply List.flatMap_congr
  intro a _
  exact a.value.values_template

theorem values_columnsTemplate :
    Template.values (columnsTemplate assignments) =
      assignments.flatMap Assignment.boundValues := by
  have hvalues : valuesOfAll (assignments.map fun a => a.value.template) =
      assignments.flatMap Assignment.boundValues := by
    rw [valuesOfAll, List.flatMap_map]
    apply List.flatMap_congr
    intro a _
    exact a.value.values_template
  simp [columnsTemplate, values_joined, hvalues]

end Assignment

theorem Root.values_template (root : Root) : values root.template = root.boundValues := by
  cases root with
  | select s => cases h : s.counting <;> simp [template, boundValues, h]
  | insert table assignments => exact Assignment.values_columnsTemplate assignments
  | update table assignments => exact Assignment.values_pairsTemplate assignments
  | delete table => rfl

namespace Predicate

/-- The values of a predicate that has no fault, however it is written. -/
theorem values_of_check {p : Predicate} (h : p.check = .ok ()) :
    values p.template = p.boundValues ∧ values p.openTemplate = p.boundValues := by
  have hleaves := check_of_mem_leaves ((writable_iff_check p).mpr h)
  have htemplate : values p.template = p.boundValues := values_template hleaves
  refine ⟨htemplate, ?_⟩
  cases p with
  | empty => exact htemplate
  | leaf l => exact htemplate
  | group connective children => simpa [template, openTemplate] using htemplate

theorem args_eq_boundValues {base : Nat} {p : Predicate} {f : Fragment}
    (h : p.render base = .ok f) : f.args = p.boundValues := by
  rw [render_eq] at h
  obtain ⟨hcheck, rfl⟩ := check_eq_ok_of_map h
  exact (values_of_check hcheck).1

theorem boundValues_grow (root : Predicate) (step : FilterStep) :
    (root.grow step).boundValues = root.boundValues ++ step.boundValues := by
  rw [boundValues, leaves_grow, List.flatMap_append]
  rfl

theorem boundValues_growAll (root : Predicate) (steps : List FilterStep) :
    (root.growAll steps).boundValues =
      root.boundValues ++ steps.flatMap FilterStep.boundValues := by
  rw [boundValues, leaves_growAll, List.flatMap_append, List.flatMap_assoc]
  rfl

end Predicate

theorem Window.values_template (w : Window) : values w.template = w.boundValues := by
  obtain ⟨maxCount, startIndex⟩ := w
  cases maxCount <;> cases startIndex <;>
    simp [template, boundTemplates, boundValues, joined_cons_cons]

theorem Clause.values_template {c : Clause} (h : c.checkPredicate = .ok ()) (below : Template) :
    values (c.template below) = values below ++ c.boundValues := by
  cases c with
  | join j => cases hname : j.nickname <;> simp [template, boundValues, Join.template, hname]
  | filter p => simp [template, boundValues, (Predicate.values_of_check h).2]
  | orderBy terms =>
    simp [template, boundValues, values_joined, SortTerm.valuesOfAll_template]
  | limit w => simp [template, boundValues, w.values_template]
  | existence => simp [template, boundValues]
  | call function arguments => simp [template, boundValues, values_arguments]
  | onConflict target action =>
    cases action with
    | nothing => simp [template, boundValues, ConflictAction.boundValues]
    | update assignments =>
      simp [template, boundValues, ConflictAction.boundValues, Assignment.values_pairsTemplate]
  | returning columns => simp [template, boundValues]

namespace Statement

variable {s e : Statement}

theorem boundValues_ofRoot (root : Root) : (ofRoot root).boundValues = root.boundValues := by
  simp [boundValues, ofRoot]

theorem boundValues_cons (root : Root) (c : Clause) (older : List Clause) :
    (Statement.mk root (c :: older)).boundValues =
      (Statement.mk root older).boundValues ++ c.boundValues := by
  simp [boundValues]

theorem boundValues_append (root : Root) (newer older : List Clause) :
    (Statement.mk root (newer ++ older)).boundValues =
      (Statement.mk root older).boundValues ++ newer.reverse.flatMap Clause.boundValues := by
  simp [boundValues]

theorem boundValues_push (c : Clause) :
    (s.push c).boundValues = s.boundValues ++ c.boundValues :=
  boundValues_cons s.root c s.clauses

/-- A clause has no fault unless it has one of its own or there is one below it. -/
theorem check_cons_eq_ok {root : Root} {c : Clause} {older : List Clause}
    (h : checkClauses root (c :: older) = .ok ()) :
    checkClauses root older = .ok () ∧ c.checkPredicate = .ok () := by
  rw [checkClauses] at h
  cases hown : c.check with
  | error fault =>
    rw [hown] at h
    cases h
  | ok _ =>
    rw [hown] at h
    cases hbelow : checkClauses root older with
    | error fault =>
      rw [hbelow] at h
      cases h
    | ok _ =>
      rw [hbelow] at h
      exact ⟨rfl, h⟩

theorem values_template (h : s.check = .ok ()) : values s.template = s.boundValues := by
  obtain ⟨root, clauses⟩ := s
  change checkClauses root clauses = .ok () at h
  change values (templateClauses root clauses) = _
  induction clauses with
  | nil => rw [templateClauses, root.values_template, ← boundValues_ofRoot, ofRoot]
  | cons c older ih =>
    obtain ⟨hbelow, hpredicate⟩ := check_cons_eq_ok h
    rw [templateClauses, Clause.values_template hpredicate, ih hbelow, boundValues_cons]

theorem boundValues_pushIf {admitted : Bool} {c : Clause} (h : s.pushIf admitted c = some e) :
    e.boundValues = s.boundValues ++ c.boundValues := by
  obtain ⟨-, rfl⟩ := pushIf_eq_some_iff.mp h
  exact boundValues_push c

theorem boundValues_onSelection {change : Selection → Selection}
    (h : s.onSelection change = some e) : e.boundValues = s.boundValues := by
  obtain ⟨x, rfl, rfl⟩ := onSelection_eq_some h
  rfl

theorem boundValues_addAssignments {added : List Assignment} (h : s.addAssignments added = some e) :
    e.boundValues = s.boundValues ++ added.flatMap Assignment.boundValues := by
  obtain ⟨table, assignments, rfl, rfl⟩ | ⟨table, assignments, rfl, rfl⟩ |
    ⟨root, target, assignments, older, rfl, rfl⟩ := addAssignments_eq_some h
  · simp [boundValues_ofRoot, Root.boundValues]
  · simp [boundValues_ofRoot, Root.boundValues]
  · simp [boundValues_cons, Clause.boundValues, ConflictAction.boundValues]

/-- Whether a step sets a bound of a LIMIT that is there already. -/
def resets (s : Statement) : Step → Bool
  | .limit _ | .offset _ =>
    match s.clauses with
    | .limit _ :: _ => true
    | _ => false
  | _ => false

theorem boundValues_onWindow {change : Window → Window} (h : s.onWindow change = some e)
    (hnew : ∀ root w older, s ≠ ⟨root, .limit w :: older⟩) :
    e.boundValues = s.boundValues ++ (change ⟨none, none⟩).boundValues := by
  obtain ⟨root, w, older, rfl, -⟩ | ⟨-, rfl⟩ := onWindow_eq_some h
  · exact absurd rfl (hnew root w older)
  · exact boundValues_push _

theorem boundValues_step {step : Step} (h : s.step step = some e)
    (hresets : s.resets step = false) :
    e.boundValues = s.boundValues ++ step.boundValues := by
  cases step with
  | column _ | columns _ | distinct =>
    rw [boundValues_onSelection h]
    exact (List.append_nil _).symm
  | join _ _ _ _ | filter | orderBy _ | window _ | existence | call _ | returning _ =>
    exact boundValues_pushIf h
  | filterWith steps =>
    rw [boundValues_pushIf h, Clause.boundValues, Predicate.boundValues_growAll]
    rfl
  | limit n =>
    apply boundValues_onWindow h
    rintro root w older rfl
    cases hresets
  | offset n =>
    apply boundValues_onWindow h
    rintro root w older rfl
    cases hresets
  | assign name value =>
    rw [boundValues_addAssignments h, List.flatMap_singleton]
    rfl
  | assignOptional name value =>
    rw [boundValues_addAssignments h]
    cases value <;> rfl
  | assignExcluded name => exact boundValues_addAssignments (assignExcluded_eq_some h)
  | condition step =>
    obtain ⟨root, p, older, rfl, rfl⟩ := condition_eq_some h
    rw [boundValues_cons, boundValues_cons, List.append_assoc, Clause.boundValues,
      Predicate.boundValues_grow]
    rfl
  | nickname name =>
    obtain ⟨root, j, older, rfl, rfl⟩ := nickname_eq_some h
    rw [boundValues_cons, boundValues_cons, List.append_assoc]
    rfl
  | thenBy term =>
    obtain ⟨root, terms, older, rfl, rfl⟩ := thenBy_eq_some h
    rw [boundValues_cons, boundValues_cons, List.append_assoc]
    rfl
  | argument sql =>
    obtain ⟨root, function, arguments, older, rfl, rfl⟩ := argument_eq_some h
    rw [boundValues_cons, boundValues_cons, List.append_assoc]
    rfl
  | _ => cases h

end Statement

namespace Draft

def resets : Draft → Step → Bool
  | statement s, step => s.resets step
  | _, _ => false

/-- Whether one of several steps sets a bound of a LIMIT that is there when its turn comes. -/
def resetsAny (d : Draft) : List Step → Bool
  | [] => false
  | next :: steps => d.resets next || (d.step next).any (·.resetsAny steps)

/-- A step sets its values behind those of the draft. -/
theorem boundValues_step {d e : Draft} {step : Step} (h : d.step step = some e)
    (hresets : d.resets step = false) : e.boundValues = d.boundValues ++ step.boundValues := by
  cases effect_of_step h with
  | statement hs => exact Statement.boundValues_step hs hresets
  | onConflict _ _ => exact (List.append_nil _).symm
  | doNothing _ _ | doUpdate _ _ => exact Statement.boundValues_push _
  | paginate _ _ _ _ => rfl

theorem boundValues_run {d e : Draft} {steps : List Step} (h : d.run steps = some e)
    (hresets : d.resetsAny steps = false) :
    e.boundValues = d.boundValues ++ steps.flatMap Step.boundValues := by
  induction steps generalizing d with
  | nil =>
    obtain rfl := Option.some.inj h
    exact (List.append_nil _).symm
  | cons next steps ih =>
    obtain ⟨d', hstep, hrest⟩ := run_cons_eq_some_iff.mp h
    rw [resetsAny, hstep, Bool.or_eq_false_iff] at hresets
    rw [ih hrest hresets.2, boundValues_step hstep hresets.1, List.append_assoc, List.flatMap_cons]

/-- A draft without a fault is written with its values. -/
theorem values_template {d : Draft} {t : Template} (h : d.check = .ok ())
    (ht : d.templates.head? = some t) : values t = d.boundValues := by
  cases d with
  | statement s =>
    obtain rfl := Option.some.inj ht
    exact Statement.values_template h
  | pendingConflict s target => cases ht
  | page r =>
    obtain rfl := Option.some.inj ht
    have hinner : r.inner.check = .ok () := by
      change r.checkAll = .ok () at h
      rw [PageRequest.checkAll] at h
      cases hcheck : r.check with
      | error fault =>
        rw [hcheck] at h
        cases h
      | ok _ =>
        rw [hcheck] at h
        exact h
    have hoffset : Int64.ofInt r.rowOffset = r.pageIndex * r.pageSize := by
      rw [PageRequest.rowOffset, Int64.ofInt_mul, Int64.ofInt_toInt, Int64.ofInt_toInt]
    simp [PageRequest.template, PageRequest.cutTemplate, boundValues,
      Statement.values_template hinner, hoffset]

end Draft

namespace Compiled

/-- The statement of a compiled chain; for a page not the one that counts. -/
def query : Compiled → Prepared
  | plain q => q
  | page q => q.query

end Compiled

namespace Chain

/-- A chain that compiles is written as the first template of its draft and binds the draft's
values. -/
theorem exists_template_of_compile {steps : List Step} {c : Compiled}
    (h : compile steps = .ok (.ok c)) :
    ∃ d t, draft steps = .ok d ∧ d.check = .ok () ∧ d.templates.head? = some t ∧
      c.query.sql = number 0 t ∧ c.query.args = d.boundValues := by
  obtain ⟨d, hdraft, hcheck, hstatements⟩ := exists_draft_of_compile h
  have hquery : c.statements.head? = some c.query := by cases c <;> rfl
  rw [hstatements, List.head?_map, Option.map_eq_some_iff] at hquery
  obtain ⟨t, ht, hquery⟩ := hquery
  refine ⟨d, t, hdraft, hcheck, ht, ?_, ?_⟩
  · rw [← hquery]
    rfl
  · rw [← hquery, ← Draft.values_template hcheck ht]
    rfl

theorem query_of_statement {steps : List Step} {c : Compiled} {s : Statement}
    (h : compile steps = .ok (.ok c)) (hdraft : draft steps = .ok (.statement s)) :
    c.query.sql = number 0 s.template ∧ c.query.args = s.boundValues := by
  obtain ⟨d, t, hd, -, ht, hsql, hargs⟩ := exists_template_of_compile h
  obtain rfl := Except.ok.inj (hdraft.symm.trans hd)
  obtain rfl := Option.some.inj ht
  exact ⟨hsql, hargs⟩

end Chain

end PreparedSql
