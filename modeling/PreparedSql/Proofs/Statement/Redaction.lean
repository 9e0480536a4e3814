import PreparedSql.Statement.Chain

/-!
# Redaction

What is left of a chain when a part of what the caller gave is rewritten throughout. A redaction
never decides whether a step fits: the draft of a redacted chain is the redacted draft
(`Chain.draft_redact`), so two chains that agree after a redaction have drafts that agree after it.
-/
namespace PreparedSql

/-- How the texts, the values and the numbers of a chain are rewritten. -/
structure Redaction where
  text : String → String
  /-- Lists of texts; the number of texts may change. -/
  texts : List String → List String
  /-- SQL that is written as it is in the place of a value. -/
  raw : String → String
  operand : Comparison → Value → Value
  assigned : Value → Value
  bound : Int64 → Int64
  /-- A page index and a page size. -/
  page : Int64 → Int64 → Int64 × Int64
  texts_append : ∀ a b, texts (a ++ b) = texts a ++ texts b
  raw_excluded : ∀ name, raw ("EXCLUDED." ++ name) = "EXCLUDED." ++ text name

namespace Operand

def redact (r : Redaction) (c : Comparison) : Operand → Operand
  | bound v => bound (r.operand c v)
  | raw sql => raw (r.raw sql)

end Operand

namespace Leaf

def redact (r : Redaction) (l : Leaf) : Leaf :=
  ⟨r.text l.column, l.comparison, l.operand.redact r l.comparison⟩

end Leaf

namespace Predicate

mutual

def redact (r : Redaction) : Predicate → Predicate
  | empty => empty
  | leaf l => leaf (l.redact r)
  | group connective children => group connective (redactAll r children)

def redactAll (r : Redaction) : List Predicate → List Predicate
  | [] => []
  | child :: children => redact r child :: redactAll r children

end

end Predicate

namespace FilterStep

def redact (r : Redaction) : FilterStep → FilterStep
  | compare connective l => compare connective (l.redact r)
  | compareAll connective leaves => compareAll connective (leaves.map (·.redact r))
  | combine connective p => combine connective (p.redact r)

end FilterStep

namespace FieldValue

def redact (r : Redaction) : FieldValue → FieldValue
  | bound v => bound (r.assigned v)
  | raw sql => raw (r.raw sql)

end FieldValue

namespace Assignment

def redact (r : Redaction) (a : Assignment) : Assignment :=
  ⟨r.text a.column, a.value.redact r⟩

end Assignment

namespace Selection

def redact (r : Redaction) (x : Selection) : Selection :=
  { x with table := r.text x.table, columns := r.texts x.columns }

end Selection

namespace Root

def redact (r : Redaction) : Root → Root
  | select x => select (x.redact r)
  | insert table assignments => insert (r.text table) (assignments.map (·.redact r))
  | update table assignments => update (r.text table) (assignments.map (·.redact r))
  | delete table => delete (r.text table)

end Root

namespace Join

def redact (r : Redaction) (j : Join) : Join :=
  ⟨j.kind, r.text j.table, j.nickname.map r.text, r.text j.left, r.text j.right⟩

end Join

namespace SortTerm

def redact (r : Redaction) (t : SortTerm) : SortTerm :=
  { t with column := r.text t.column }

end SortTerm

namespace Window

def redact (r : Redaction) (w : Window) : Window :=
  ⟨w.maxCount.map r.bound, w.startIndex.map r.bound⟩

end Window

namespace ConflictAction

def redact (r : Redaction) : ConflictAction → ConflictAction
  | nothing => nothing
  | update assignments => update (assignments.map (·.redact r))

end ConflictAction

namespace Clause

def redact (r : Redaction) : Clause → Clause
  | join j => join (j.redact r)
  | filter p => filter (p.redact r)
  | orderBy terms => orderBy (terms.map (·.redact r))
  | limit w => limit (w.redact r)
  | existence => existence
  | call function arguments => call (r.text function) (arguments.map r.text)
  | onConflict target action => onConflict (r.texts target) (action.redact r)
  | returning columns => returning (r.texts columns)

end Clause

namespace Statement

def redact (r : Redaction) (s : Statement) : Statement :=
  ⟨s.root.redact r, s.clauses.map (·.redact r)⟩

end Statement

namespace PageRequest

def redact (r : Redaction) (q : PageRequest) : PageRequest :=
  let coordinates := r.page q.pageIndex q.pageSize
  ⟨q.inner.redact r, coordinates.1, coordinates.2, r.texts q.ordering⟩

end PageRequest

namespace Draft

def redact (r : Redaction) : Draft → Draft
  | statement s => statement (s.redact r)
  | pendingConflict s target => pendingConflict (s.redact r) (r.texts target)
  | page q => page (q.redact r)

end Draft

namespace Step

/-- A column is redacted as a list of one, which may become a list of none or of several. -/
def redact (r : Redaction) : Step → Step
  | select table => select (r.text table)
  | selectCount table => selectCount (r.text table)
  | insert table => insert (r.text table)
  | update table => update (r.text table)
  | delete table => delete (r.text table)
  | .column name => .columns (r.texts [name])
  | .columns names => .columns (r.texts names)
  | distinct => distinct
  | join kind table left right => join kind (r.text table) (r.text left) (r.text right)
  | nickname name => nickname (r.text name)
  | filter => filter
  | filterWith steps => filterWith (steps.map (·.redact r))
  | condition step => condition (step.redact r)
  | orderBy term => orderBy (term.redact r)
  | thenBy term => thenBy (term.redact r)
  | limit n => limit (r.bound n)
  | offset n => offset (r.bound n)
  | window w => window (w.redact r)
  | existence => existence
  | call function => call (r.text function)
  | argument sql => argument (r.text sql)
  | assign name value => assign (r.text name) (value.redact r)
  | assignOptional name value => assignOptional (r.text name) (value.map r.assigned)
  | assignExcluded name => assignExcluded (r.text name)
  | onConflict target => onConflict (r.texts target)
  | doNothing => doNothing
  | doUpdate => doUpdate
  | returning names => returning (r.texts names)
  | paginate pageIndex pageSize ordering =>
    let coordinates := r.page pageIndex pageSize
    paginate coordinates.1 coordinates.2 (r.texts ordering)

end Step

variable (r : Redaction)

namespace Predicate

theorem redactAll_eq_map (children : List Predicate) :
    redactAll r children = children.map (redact r) := by
  induction children with
  | nil => rfl
  | cons child children ih => rw [redactAll, ih, List.map_cons]

theorem addLeaf_redact (root : Predicate) (connective : Connective) (l : Leaf) :
    (root.redact r).addLeaf connective (l.redact r) = (root.addLeaf connective l).redact r := by
  cases root with
  | empty => rfl
  | leaf previous => rfl
  | group c children =>
    by_cases h : c = connective
    · simp [redact, addLeaf, h, redactAll_eq_map]
    · simp [redact, addLeaf, h, redactAll_eq_map]

theorem combineWith_redact (root : Predicate) (connective : Connective) (p : Predicate) :
    (root.redact r).combineWith connective (p.redact r) =
      (root.combineWith connective p).redact r := by
  cases root <;> rfl

theorem grow_redact (root : Predicate) (step : FilterStep) :
    (root.redact r).grow (step.redact r) = (root.grow step).redact r := by
  cases step with
  | compare connective l => exact addLeaf_redact r root connective l
  | combine connective p => exact combineWith_redact r root connective p
  | compareAll connective leaves =>
    have hgroup : group connective ((leaves.map (·.redact r)).map leaf) =
        (group connective (leaves.map leaf)).redact r := by
      rw [redact, redactAll_eq_map, List.map_map, List.map_map]
      rfl
    rw [FilterStep.redact, grow, hgroup, combineWith_redact]
    rfl

theorem growAll_redact (root : Predicate) (steps : List FilterStep) :
    (root.redact r).growAll (steps.map (·.redact r)) = (root.growAll steps).redact r := by
  induction steps generalizing root with
  | nil => rfl
  | cons step steps ih => rw [List.map_cons, growAll_cons, growAll_cons, grow_redact, ih]

end Predicate

theorem FieldValue.excluded_redact (name : String) :
    (FieldValue.excluded name).redact r = FieldValue.excluded (r.text name) := by
  rw [excluded, redact, r.raw_excluded, excluded]

namespace Statement

variable (s : Statement)

theorem joinable_redact : (s.redact r).joinable = s.joinable := by
  obtain ⟨root, clauses⟩ := s
  cases clauses with
  | nil => cases root <;> rfl
  | cons c older => cases c <;> rfl

theorem filterable_redact : (s.redact r).filterable = s.filterable := by
  obtain ⟨root, clauses⟩ := s
  cases clauses with
  | nil => cases root <;> rfl
  | cons c older => cases c <;> rfl

theorem orderable_redact : (s.redact r).orderable = s.orderable := by
  obtain ⟨root, clauses⟩ := s
  cases clauses with
  | nil => cases root <;> rfl
  | cons c older => cases c <;> first | rfl | (cases root <;> rfl)

theorem limitable_redact : (s.redact r).limitable = s.limitable := by
  have horderable := orderable_redact r s
  obtain ⟨root, clauses⟩ := s
  cases clauses with
  | nil => exact horderable
  | cons c older => cases c <;> first | rfl | exact horderable

theorem wrappable_redact : (s.redact r).wrappable = s.wrappable := by
  have hlimitable := limitable_redact r s
  obtain ⟨root, clauses⟩ := s
  cases clauses with
  | nil => exact hlimitable
  | cons c older => cases c <;> first | rfl | exact hlimitable

theorem returnable_redact : (s.redact r).returnable = s.returnable := by
  obtain ⟨root, clauses⟩ := s
  cases clauses with
  | nil => cases root <;> rfl
  | cons c older => cases c <;> first | rfl | (cases root <;> rfl)

theorem admitsConflict_redact : (s.redact r).admitsConflict = s.admitsConflict := by
  obtain ⟨root, clauses⟩ := s
  cases root <;> cases clauses <;> rfl

theorem pushIf_redact (admitted : Bool) (c : Clause) :
    (s.redact r).pushIf admitted (c.redact r) = (s.pushIf admitted c).map (·.redact r) := by
  cases admitted <;> rfl

theorem onSelection_redact (change change' : Selection → Selection)
    (h : ∀ x, change' (x.redact r) = (change x).redact r) :
    (s.redact r).onSelection change' = (s.onSelection change).map (·.redact r) := by
  obtain ⟨root, clauses⟩ := s
  cases root with
  | select x =>
    cases clauses with
    | nil =>
      change some (ofRoot (.select (change' (x.redact r)))) = _
      rw [h]
      rfl
    | cons c older => rfl
  | _ => rfl

theorem onWindow_redact (change change' : Window → Window)
    (h : ∀ w, change' (w.redact r) = (change w).redact r) :
    (s.redact r).onWindow change' = (s.onWindow change).map (·.redact r) := by
  have hnew : (s.redact r).pushIf (s.redact r).limitable (.limit (change' ⟨none, none⟩)) =
      (s.pushIf s.limitable (.limit (change ⟨none, none⟩))).map (·.redact r) := by
    have hc : Clause.limit (change' ⟨none, none⟩) = (Clause.limit (change ⟨none, none⟩)).redact r :=
      congrArg Clause.limit (h ⟨none, none⟩)
    rw [limitable_redact, hc, pushIf_redact]
  obtain ⟨root, clauses⟩ := s
  cases clauses with
  | nil => exact hnew
  | cons c older =>
    cases c with
    | limit w =>
      change some (Statement.mk _ (.limit (change' (w.redact r)) :: _)) = _
      rw [h]
      rfl
    | _ => exact hnew

theorem addAssignments_redact (added : List Assignment) :
    (s.redact r).addAssignments (added.map (·.redact r)) =
      (s.addAssignments added).map (·.redact r) := by
  have happend (assignments : List Assignment) :
      assignments.map (·.redact r) ++ added.map (·.redact r) =
        (assignments ++ added).map (·.redact r) := List.map_append.symm
  obtain ⟨root, clauses⟩ := s
  cases clauses with
  | nil =>
    cases root with
    | insert table assignments =>
      change some (ofRoot (.insert _ (_ ++ _))) = _
      rw [happend]
      rfl
    | update table assignments =>
      change some (ofRoot (.update _ (_ ++ _))) = _
      rw [happend]
      rfl
    | _ => rfl
  | cons c older =>
    cases c with
    | onConflict target action =>
      cases action with
      | nothing => cases root <;> rfl
      | update assignments =>
        have hclause : Clause.onConflict (r.texts target)
              (.update (assignments.map (·.redact r) ++ added.map (·.redact r))) =
            (Clause.onConflict target (.update (assignments ++ added))).redact r := by
          rw [happend]
          rfl
        cases root <;> exact congrArg (fun c => some (Statement.mk _ (c :: _))) hclause
    | _ => cases root <;> rfl

/-- A redacted step does to a redacted statement what the step does to the statement. -/
theorem step_redact (step : Step) :
    (s.redact r).step (step.redact r) = (s.step step).map (·.redact r) := by
  cases step with
  | column name =>
    exact onSelection_redact r s _ _ fun x => by simp [Selection.redact, r.texts_append]
  | columns names =>
    exact onSelection_redact r s _ _ fun x => by simp [Selection.redact, r.texts_append]
  | distinct => exact onSelection_redact r s _ _ fun _ => rfl
  | join kind table left right =>
    simp only [Step.redact, Statement.step, joinable_redact]
    exact pushIf_redact r s _ (.join ⟨kind, table, none, left, right⟩)
  | filter =>
    simp only [Step.redact, Statement.step, filterable_redact]
    exact pushIf_redact r s _ (.filter .empty)
  | filterWith steps =>
    have hgrown := Predicate.growAll_redact r .empty steps
    rw [Predicate.redact] at hgrown
    simp only [Step.redact, Statement.step, filterable_redact, hgrown]
    exact pushIf_redact r s _ (.filter _)
  | orderBy term =>
    simp only [Step.redact, Statement.step, orderable_redact]
    exact pushIf_redact r s _ (.orderBy [term])
  | limit n => exact onWindow_redact r s _ _ fun _ => rfl
  | offset n => exact onWindow_redact r s _ _ fun _ => rfl
  | window w =>
    simp only [Step.redact, Statement.step, limitable_redact]
    exact pushIf_redact r s _ (.limit w)
  | existence =>
    simp only [Step.redact, Statement.step, wrappable_redact]
    exact pushIf_redact r s _ .existence
  | call function =>
    simp only [Step.redact, Statement.step, wrappable_redact]
    exact pushIf_redact r s _ (.call function [])
  | returning names =>
    simp only [Step.redact, Statement.step, returnable_redact]
    exact pushIf_redact r s _ (.returning names)
  | assign name value => exact addAssignments_redact r s [⟨name, value⟩]
  | assignOptional name value =>
    cases value with
    | none => exact addAssignments_redact r s []
    | some v => exact addAssignments_redact r s [⟨name, .bound v⟩]
  | assignExcluded name =>
    have hadded := addAssignments_redact r s [⟨name, .excluded name⟩]
    -- the step writes a text of its own around the column, which has to stay what it is
    rw [List.map_singleton, Assignment.redact, FieldValue.excluded_redact] at hadded
    obtain ⟨root, clauses⟩ := s
    cases clauses with
    | nil => rfl
    | cons c older =>
      cases c with
      | onConflict target action => exact hadded
      | _ => rfl
  | nickname name =>
    obtain ⟨root, clauses⟩ := s
    cases clauses with
    | nil => rfl
    | cons c older => cases c <;> rfl
  | condition step =>
    obtain ⟨root, clauses⟩ := s
    cases clauses with
    | nil => rfl
    | cons c older =>
      cases c with
      | filter p =>
        have hgrown := congrArg Clause.filter (Predicate.grow_redact r p step)
        exact congrArg (fun c => some (Statement.mk _ (c :: _))) hgrown
      | _ => rfl
  | thenBy term =>
    obtain ⟨root, clauses⟩ := s
    cases clauses with
    | nil => rfl
    | cons c older =>
      cases c with
      | orderBy terms => simp [Step.redact, Statement.step, redact, Clause.redact]
      | _ => rfl
  | argument sql =>
    obtain ⟨root, clauses⟩ := s
    cases clauses with
    | nil => rfl
    | cons c older =>
      cases c with
      | call function arguments => simp [Step.redact, Statement.step, redact, Clause.redact]
      | _ => rfl
  | _ => rfl

end Statement

namespace Draft

theorem start_redact (first : Step) :
    start (first.redact r) = (start first).map (·.redact r) := by
  have hcolumns : r.texts [] = [] := by
    have happend := r.texts_append [] []
    exact List.append_right_eq_self.mp happend.symm
  cases first <;>
    simp [start, Step.redact, redact, Statement.redact, Statement.ofRoot, Root.redact,
      Selection.redact, hcolumns]

theorem step_redact (d : Draft) (step : Step) :
    (d.redact r).step (step.redact r) = (d.step step).map (·.redact r) := by
  cases d with
  | statement s =>
    have hstep : ((s.redact r).step (step.redact r)).map statement =
        ((s.step step).map statement).map (·.redact r) := by
      rw [Statement.step_redact, Option.map_map, Option.map_map]
      rfl
    cases step with
    | onConflict target =>
      simp only [redact, Step.redact, Draft.step, Statement.admitsConflict_redact]
      split <;> rfl
    | paginate pageIndex pageSize ordering =>
      simp only [redact, Step.redact, Draft.step, Statement.orderable_redact]
      split <;> rfl
    | _ => exact hstep
  | pendingConflict s target => cases step <;> rfl
  | page q => cases step <;> rfl

end Draft

namespace Chain

theorem extend_redact (index : Nat) (d : Draft) (steps : List Step) :
    extend index (d.redact r) (steps.map (·.redact r)) =
      (extend index d steps).map (·.redact r) := by
  induction steps generalizing index d with
  | nil => rfl
  | cons next steps ih =>
    rw [List.map_cons, extend, extend, Draft.step_redact]
    cases d.step next with
    | none => rfl
    | some e => exact ih (index + 1) e

/-- The draft of a redacted chain is the redacted draft, and a step that does not fit is found at
the same place. -/
theorem draft_redact (steps : List Step) :
    draft (steps.map (·.redact r)) = (draft steps).map (·.redact r) := by
  cases steps with
  | nil => rfl
  | cons first steps =>
    rw [List.map_cons, draft, draft, Draft.start_redact]
    cases Draft.start first with
    | none => rfl
    | some d => exact extend_redact r 1 d steps

/-- Two chains with the same steps, except for what a redaction takes out of them. -/
def AgreeUpTo (steps steps' : List Step) : Prop :=
  steps.map (·.redact r) = steps'.map (·.redact r)

end Chain

end PreparedSql
