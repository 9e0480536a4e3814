import PreparedSql.Prepared
import PreparedSql.Proofs.Template.Predicate

/-!
# Templates of statements

The templates of roots, clauses, statements and page requests, and what is wrong with each of them.
Writing a statement is checking it and numbering its template (`Statement.render_eq`); a page
request has a template for the page and one for the count (`PageRequest.prepare_eq`).
-/
namespace PreparedSql

open Template

namespace FieldValue

def template : FieldValue → Template
  | bound v => [.value v]
  | raw sql => [.text sql]

theorem render_eq (base : Nat) (value : FieldValue) :
    value.render base = instantiate base value.template := by
  cases value <;> simp [render, template, instantiate, Fragment.ofValue, Fragment.ofText]

end FieldValue

namespace Assignment

def template (a : Assignment) : Template :=
  .text a.column :: .text " = " :: a.value.template

def pairsTemplate (assignments : List Assignment) : Template :=
  joined ", " (assignments.map template)

def columnsTemplate (assignments : List Assignment) : Template :=
  .text "(" :: (ofTexts (assignments.map Assignment.column) ++ .text ") VALUES (" ::
    (joined ", " (assignments.map fun a => a.value.template) ++ [.text ")"]))

variable (base : Nat) (assignments : List Assignment)

theorem pairs_eq :
    pairs base assignments =
      (numberEach base (assignments.map template), valuesOfAll (assignments.map template)) := by
  induction assignments generalizing base with
  | nil => rfl
  | cons a rest ih =>
    simp [pairs, a.value.render_eq, ih, template, numberEach, valuesOfAll, String.append_assoc]

theorem values_eq :
    values base assignments =
      (numberEach base (assignments.map fun a => a.value.template),
        valuesOfAll (assignments.map fun a => a.value.template)) := by
  induction assignments generalizing base with
  | nil => rfl
  | cons a rest ih => simp [values, a.value.render_eq, ih, numberEach, valuesOfAll]

theorem renderPairs_eq :
    renderPairs base assignments = instantiate base (pairsTemplate assignments) := by
  rw [renderPairs, pairs_eq, pairsTemplate, instantiate, number_joined, values_joined]

theorem renderColumns_eq :
    renderColumns base assignments = instantiate base (columnsTemplate assignments) := by
  rw [renderColumns, values_eq, columnsTemplate, instantiate]
  simp [number_append, number_joined, values_joined, String.append_assoc]

end Assignment

namespace Root

def template : Root → Template
  | select s =>
    .text "SELECT " :: .text (if s.distinct then "DISTINCT " else "") ::
      ((if s.counting then [.text "COUNT(*)"] else ofTexts s.columns) ++
        [.text " FROM ", .text s.table])
  | insert table assignments =>
    .text "INSERT INTO " :: .text table :: .text " " :: Assignment.columnsTemplate assignments
  | update table assignments =>
    .text "UPDATE " :: .text table :: .text " SET " :: Assignment.pairsTemplate assignments
  | delete table => [.text "DELETE FROM ", .text table]

def check : Root → Except Fault Unit
  | select s =>
    if Text.isBlank s.table then .error .selectWithoutTable
    else if s.counting then .ok ()
    else if s.columns.isEmpty then .error (.selectWithoutColumn s.table)
    else .ok ()
  | insert table assignments =>
    if assignments.isEmpty then .error (.insertWithoutField table) else .ok ()
  | update table assignments =>
    if assignments.isEmpty then .error (.updateWithoutField table) else .ok ()
  | delete table => if Text.isBlank table then .error .deleteWithoutTable else .ok ()

theorem render_eq (root : Root) :
    root.render = root.check.map fun _ => instantiate 0 root.template := by
  cases root with
  | select s =>
    rw [render, check]
    by_cases hblank : Text.isBlank s.table = true
    · simp [hblank, Except.map]
    · by_cases hcounting : s.counting = true
      · simp [hblank, hcounting, Except.map, instantiate, Fragment.ofText, template,
          String.append_assoc]
        rw [← String.append_assoc]
        rfl
      · by_cases hcolumns : s.columns.isEmpty = true
        · simp [hblank, hcounting, hcolumns, Except.map]
        · simp [hblank, hcounting, hcolumns, Except.map, instantiate, Fragment.ofText, template,
            number_append, String.append_assoc]
  | insert table assignments =>
    rw [render, check, Assignment.renderColumns_eq]
    split <;> simp [Except.map, Fragment.wrap, instantiate, template, String.append_assoc]
  | update table assignments =>
    rw [render, check, Assignment.renderPairs_eq]
    split <;> simp [Except.map, Fragment.wrap, instantiate, template, String.append_assoc]
  | delete table =>
    rw [render, check]
    split <;> simp [Except.map, instantiate, Fragment.ofText, template]

end Root

namespace Join

def template (j : Join) : Template :=
  .text j.kind.sql :: .text " JOIN " :: .text j.table ::
    ((j.nickname.elim [] fun name => [.text " AS ", .text name]) ++
      [.text " ON ", .text j.left, .text " = ", .text j.right])

theorem ofText_sql (base : Nat) (j : Join) :
    Fragment.ofText j.sql = instantiate base j.template := by
  cases hname : j.nickname <;>
    simp [sql, template, hname, Fragment.ofText, instantiate, String.append_assoc]

end Join

namespace SortTerm

def template (t : SortTerm) : Template :=
  if t.descending then [.text t.column, .text " DESC"] else [.text t.column]

theorem numberEach_template (base : Nat) (terms : List SortTerm) :
    numberEach base (terms.map template) = terms.map sql := by
  induction terms generalizing base with
  | nil => rfl
  | cons t terms ih => cases h : t.descending <;> simp [numberEach, template, sql, h, ih]

theorem valuesOfAll_template (terms : List SortTerm) : valuesOfAll (terms.map template) = [] := by
  rw [valuesOfAll, List.flatMap_eq_nil_iff]
  intro t ht
  obtain ⟨term, -, rfl⟩ := List.mem_map.mp ht
  cases h : term.descending <;> simp [template, h]

end SortTerm

namespace Window

def boundTemplates (keyword : String) (bound : Option Int64) : List Template :=
  bound.toList.map fun n => [.text keyword, .value (.int n)]

def template (w : Window) : Template :=
  joined " " (boundTemplates "LIMIT " w.maxCount ++ boundTemplates "OFFSET " w.startIndex)

theorem render_eq (base : Nat) (w : Window) : w.render base = instantiate base w.template := by
  obtain ⟨maxCount, startIndex⟩ := w
  cases maxCount <;> cases startIndex <;>
    simp [render, renderBound, template, boundTemplates, Fragment.ofText, Fragment.ofValue,
      Fragment.wrap, instantiate, joined_cons_cons, String.append_assoc]

end Window

namespace Clause

def targetTemplate (target : List String) : Template :=
  if target.isEmpty then [] else .text " (" :: (ofTexts target ++ [.text ")"])

def template (below : Template) : Clause → Template
  | join j => below ++ .text " " :: j.template
  | filter p => below ++ .text " " :: .text "WHERE " :: p.openTemplate
  | orderBy terms =>
    below ++ .text " " :: .text "ORDER BY " :: joined ", " (terms.map SortTerm.template)
  | limit w => below ++ .text " " :: w.template
  | existence => .text "SELECT EXISTS (" :: (below ++ [.text ")"])
  | call function arguments =>
    .text "SELECT " :: .text function :: .text "((" ::
      (below ++ .text ")" ::
        (arguments.flatMap (fun sql => [.text ", ", .text sql]) ++ [.text ")"]))
  | onConflict target .nothing =>
    below ++ .text " " :: .text "ON CONFLICT" :: (targetTemplate target ++ [.text " DO NOTHING"])
  | onConflict target (.update assignments) =>
    below ++ .text " " :: .text "ON CONFLICT" ::
      (targetTemplate target ++ .text " DO UPDATE SET " :: Assignment.pairsTemplate assignments)
  | returning columns => below ++ .text " " :: .text "RETURNING " :: ofTexts columns

/-- What is wrong with the predicate of a clause, looked at after what is below it. -/
def checkPredicate : Clause → Except Fault Unit
  | filter p => p.check
  | _ => .ok ()

theorem append_instantiate (below own : Template) :
    append (instantiate 0 below) (instantiate (values below).length own) =
      instantiate 0 (below ++ .text " " :: own) := by
  simp [append, instantiate, number_append, String.append_assoc]

theorem wrap_instantiate (base : Nat) (before : String) (t : Template) :
    (instantiate base t).wrap before "" = instantiate base (.text before :: t) := by
  simp [Fragment.wrap, instantiate]

theorem number_arguments (base : Nat) (arguments : List String) :
    number base (arguments.flatMap fun sql => [.text ", ", .text sql]) =
      String.join (arguments.map (", " ++ ·)) := by
  induction arguments with
  | nil => simp
  | cons sql arguments ih => simp [ih, String.append_assoc, String.join_cons]

theorem values_arguments (arguments : List String) :
    values (arguments.flatMap fun sql => [.text ", ", .text sql]) = [] := by
  induction arguments with
  | nil => rfl
  | cons sql arguments ih => simpa using ih

theorem targetTemplate_number (base : Nat) (target : List String) :
    number base (targetTemplate target) = targetSql target := by
  rw [targetTemplate, targetSql]
  split <;> simp [number_append, String.append_assoc]

@[simp] theorem targetTemplate_values (target : List String) :
    values (targetTemplate target) = [] := by
  rw [targetTemplate]
  split <;> simp

theorem attach_eq (below : Template) (c : Clause) :
    c.attach (instantiate 0 below) = c.checkPredicate.map fun _ =>
      instantiate 0 (c.template below) := by
  cases c with
  | join j =>
    rw [attach, j.ofText_sql (values below).length, append_instantiate]
    rfl
  | filter p =>
    rw [attach, checkPredicate, instantiate_args, p.renderOpen_eq]
    cases p.check with
    | error fault => rfl
    | ok _ =>
      change Except.ok (append _ (Fragment.wrap _ _ _)) = _
      rw [wrap_instantiate, append_instantiate]
      rfl
  | orderBy terms =>
    have hterms : Fragment.ofText ("ORDER BY " ++ ", ".intercalate (terms.map SortTerm.sql)) =
        instantiate (values below).length
          (.text "ORDER BY " :: joined ", " (terms.map SortTerm.template)) := by
      simp [Fragment.ofText, instantiate, number_joined, values_joined,
        SortTerm.numberEach_template, SortTerm.valuesOfAll_template]
    rw [attach, hterms, append_instantiate]
    rfl
  | limit w =>
    rw [attach, instantiate_args, w.render_eq, append_instantiate]
    rfl
  | existence =>
    simp [attach, checkPredicate, template, Except.map, Fragment.wrap, instantiate, number_append,
      String.append_assoc]
  | call function arguments =>
    simp [attach, checkPredicate, template, Except.map, Fragment.wrap, instantiate, number_append,
      number_arguments, values_arguments, String.append_assoc]
  | onConflict target action =>
    cases action with
    | nothing =>
      have hown : Fragment.ofText ("ON CONFLICT" ++ targetSql target ++ " DO NOTHING") =
          instantiate (values below).length
            (.text "ON CONFLICT" :: (targetTemplate target ++ [.text " DO NOTHING"])) := by
        simp [Fragment.ofText, instantiate, number_append, targetTemplate_number,
          String.append_assoc]
      rw [attach, hown, append_instantiate]
      rfl
    | update assignments =>
      have hown : (Assignment.renderPairs (values below).length assignments).wrap
            ("ON CONFLICT" ++ targetSql target ++ " DO UPDATE SET ") "" =
          instantiate (values below).length (.text "ON CONFLICT" ::
            (targetTemplate target ++
              .text " DO UPDATE SET " :: Assignment.pairsTemplate assignments)) := by
        rw [Assignment.renderPairs_eq]
        simp [Fragment.wrap, instantiate, number_append, targetTemplate_number,
          String.append_assoc]
      rw [attach, instantiate_args, hown, append_instantiate]
      rfl
  | returning columns =>
    have hown : Fragment.ofText ("RETURNING " ++ ", ".intercalate columns) =
        instantiate (values below).length (.text "RETURNING " :: ofTexts columns) := by
      simp [Fragment.ofText, instantiate]
    rw [attach, hown, append_instantiate]
    rfl

end Clause

namespace Statement

def templateClauses (root : Root) : List Clause → Template
  | [] => root.template
  | c :: older => c.template (templateClauses root older)

def template (s : Statement) : Template :=
  templateClauses s.root s.clauses

/-- The first fault: of the clauses from the latest on, then of the root, then of the predicates. -/
def checkClauses (root : Root) : List Clause → Except Fault Unit
  | [] => root.check
  | c :: older => do
    c.check
    checkClauses root older
    c.checkPredicate

def check (s : Statement) : Except Fault Unit :=
  checkClauses s.root s.clauses

theorem renderClauses_eq (root : Root) (clauses : List Clause) :
    renderClauses root clauses = (checkClauses root clauses).map fun _ =>
      instantiate 0 (templateClauses root clauses) := by
  induction clauses with
  | nil => exact root.render_eq
  | cons c older ih =>
    rw [renderClauses, checkClauses, ih]
    cases c.check with
    | error fault => rfl
    | ok _ =>
      cases checkClauses root older with
      | error fault => rfl
      | ok _ => exact c.attach_eq _

/-- Writing a statement is checking it and numbering its template. -/
theorem render_eq (s : Statement) :
    s.render = s.check.map fun _ => instantiate 0 s.template :=
  renderClauses_eq s.root s.clauses

end Statement

namespace PageRequest

def countTemplate (r : PageRequest) : Template :=
  .text dataSql :: (r.inner.template ++ [.text ") ", .text countSql])

def orderingTemplate (r : PageRequest) : Template :=
  if r.ordering.isEmpty then [] else .text " ORDER BY " :: ofTexts r.ordering

def cutTemplate (r : PageRequest) : Template :=
  [.text " OFFSET ", .value (.int (Int64.ofInt r.rowOffset)), .text " ROWS FETCH NEXT ",
    .value (.int r.pageSize), .text " ROWS ONLY"]

def template (r : PageRequest) : Template :=
  .text dataSql :: (r.inner.template ++ .text pageSql :: (r.orderingTemplate ++ r.cutTemplate))

def checkAll (r : PageRequest) : Except Fault Unit := do
  r.check
  r.inner.check

theorem renderInner_eq (r : PageRequest) :
    r.renderInner = r.checkAll.map fun _ => instantiate 0 r.inner.template := by
  rw [renderInner, checkAll, r.inner.render_eq]
  cases r.check <;> rfl

theorem countStatement_eq (r : PageRequest) :
    countStatement (instantiate 0 r.inner.template) = instantiate 0 r.countTemplate := by
  simp [countStatement, countTemplate, Fragment.wrap, instantiate, number_append,
    String.append_assoc]

theorem number_orderingTemplate (base : Nat) (r : PageRequest) :
    number base r.orderingTemplate = r.orderingSql := by
  rw [orderingTemplate, orderingSql]
  split <;> simp

@[simp] theorem values_orderingTemplate (r : PageRequest) : values r.orderingTemplate = [] := by
  rw [orderingTemplate]
  split <;> simp

theorem cut_eq (base : Nat) (r : PageRequest) : r.cut base = instantiate base r.cutTemplate := by
  simp [cut, cutTemplate, Fragment.ofValue, instantiate, String.append_assoc]

theorem pageStatement_eq (r : PageRequest) :
    r.pageStatement (instantiate 0 r.inner.template) = instantiate 0 r.template := by
  rw [pageStatement, instantiate_args, r.cut_eq]
  simp [template, instantiate, number_append, number_orderingTemplate, String.append_assoc]

end PageRequest

namespace Prepared

def ofTemplate (t : Template) : Prepared :=
  ofFragment (instantiate 0 t)

end Prepared

theorem Statement.prepare_eq (s : Statement) :
    s.prepare =
      match s.check with
      | .ok _ => .ok (.ofTemplate s.template)
      | .error fault => .error fault.toError := by
  rw [prepare, s.render_eq]
  cases s.check <;> rfl

theorem PageRequest.prepare_eq (r : PageRequest) :
    r.prepare =
      match r.checkAll with
      | .ok _ =>
        .ok {
          query := .ofTemplate r.template
          count := .ofTemplate r.countTemplate
          pageIndex := r.pageIndex
          pageSize := r.pageSize }
      | .error fault => .error fault.toError := by
  rw [prepare, r.renderInner_eq]
  cases r.checkAll with
  | error fault => rfl
  | ok _ => simp only [Except.map, Prepared.ofTemplate, r.pageStatement_eq, r.countStatement_eq]

namespace Draft

/-- The templates of what a draft is prepared as: for a page also that of the count. -/
def templates : Draft → List Template
  | statement s => [s.template]
  | pendingConflict _ _ => []
  | page r => [r.template, r.countTemplate]

def check : Draft → Except Fault Unit
  | statement s => s.check
  | pendingConflict _ _ => .ok ()
  | page r => r.checkAll

end Draft

namespace Compiled

def statements : Compiled → List Prepared
  | plain q => [q]
  | page q => [q.query, q.count]

end Compiled

namespace Chain

/-- A chain that compiles was put together, has no fault, and its statements number its
templates. -/
theorem exists_draft_of_compile {steps : List Step} {c : Compiled}
    (h : compile steps = .ok (.ok c)) :
    ∃ d, draft steps = .ok d ∧ d.check = .ok () ∧
      c.statements = d.templates.map Prepared.ofTemplate := by
  rw [compile] at h
  cases hdraft : draft steps with
  | error illegal => simp [hdraft] at h
  | ok d =>
    refine ⟨d, rfl, ?_⟩
    cases d with
    | pendingConflict s target => simp [hdraft] at h
    | statement s =>
      simp only [hdraft, Except.ok.injEq, s.prepare_eq] at h
      cases hcheck : s.check with
      | error fault => simp [hcheck, Except.map] at h
      | ok _ =>
        simp only [hcheck, Except.map, Except.ok.injEq] at h
        subst h
        exact ⟨hcheck, rfl⟩
    | page r =>
      simp only [hdraft, Except.ok.injEq, r.prepare_eq] at h
      cases hcheck : r.checkAll with
      | error fault => simp [hcheck, Except.map] at h
      | ok _ =>
        simp only [hcheck, Except.map, Except.ok.injEq] at h
        subst h
        exact ⟨hcheck, rfl⟩

end Chain

end PreparedSql
