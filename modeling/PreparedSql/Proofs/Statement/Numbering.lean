import PreparedSql.Proofs.Statement.Texts
import PreparedSql.Proofs.Template.Placeholder
import PreparedSql.Proofs.Template.Statement

/-!
# Numbered placeholders

Every statement of a chain that compiles is its template with the i-th value written as `$i`, and
its values are those of the template. If the caller's texts hold no `$`, the placeholders found in
it are `$1`, `$2` and so on up to the number of its values.
-/
namespace PreparedSql

open Template

theorem dollarFree_excluded (name : String) (h : DollarFree name) :
    DollarFree ("EXCLUDED." ++ name) := by
  simpa [DollarFree] using h

theorem Comparison.dollarFree_operator {c : Comparison} {operator : String}
    (h : c.operator? = some operator) : DollarFree operator := by
  have hall : ∀ entry ∈ operators, DollarFree entry.2 := by decide
  exact hall _ (mem_operators h)

namespace Leaf

variable {l : Leaf}

theorem scannable_template (h : ∀ t ∈ l.texts, DollarFree t) : Scannable l.template := by
  have hblank : DollarFree " " := rfl
  obtain ⟨hcolumn, hoperand⟩ := List.forall_mem_cons.mp h
  rw [template]
  split
  · trivial
  next operator hl =>
  have hoperator : DollarFree operator := Comparison.dollarFree_operator hl
  cases hl : l.operand with
  | raw sql =>
    have hsql : DollarFree sql := hoperand sql (by simp [hl, Operand.texts])
    exact ⟨hcolumn, hblank, hoperator, hblank, hsql, trivial⟩
  | bound v =>
    dsimp only
    split
    · cases members v with
      | nil =>
        refine ⟨?_, trivial⟩
        split <;> rfl
      | cons v values =>
        refine ⟨hcolumn, hblank, hoperator, rfl, ?_⟩
        refine scannable_append (scannable_list ?_) (opensPlain_text rfl rfl _)
          ⟨rfl, trivial⟩
        intro t ht
        obtain ⟨w, -, rfl⟩ := List.mem_map.mp ht
        exact ⟨trivial, trivial⟩
    · cases v with
      | null =>
        refine ⟨hcolumn, ?_, trivial⟩
        split <;> rfl
      | _ => exact ⟨hcolumn, hblank, hoperator, hblank, trivial, trivial⟩

end Leaf

namespace Predicate

theorem scannable_group (connective : Connective) {children : List Predicate}
    (h : ∀ t ∈ templates children, Scannable t) :
    Scannable (joined connective.separator (templates children)) := by
  cases connective with
  | and => exact scannable_joined rfl rfl rfl h
  | or => exact scannable_joined rfl rfl rfl h

mutual

theorem scannable_template (p : Predicate) (h : ∀ t ∈ p.texts, DollarFree t) :
    Scannable p.template := by
  cases p with
  | empty => trivial
  | leaf l => exact l.scannable_template (by simpa [texts, leaves] using h)
  | group connective children =>
    rw [texts_group] at h
    refine ⟨rfl, scannable_append ?_ (opensPlain_text rfl rfl _)
      ⟨rfl, trivial⟩⟩
    exact scannable_group connective (scannable_templates children h)

theorem scannable_templates (children : List Predicate)
    (h : ∀ t ∈ textsOfAll children, DollarFree t) : ∀ t ∈ templates children, Scannable t := by
  cases children with
  | nil => simp [templates]
  | cons child children =>
    obtain ⟨hchild, hchildren⟩ := List.forall_mem_append.mp h
    exact List.forall_mem_cons.mpr
      ⟨scannable_template child hchild, scannable_templates children hchildren⟩

end

theorem scannable_openTemplate {p : Predicate} (h : ∀ t ∈ p.texts, DollarFree t) :
    Scannable p.openTemplate := by
  cases p with
  | group connective children =>
    rw [texts_group] at h
    exact scannable_group connective (scannable_templates children h)
  | empty => trivial
  | leaf l => exact scannable_template (.leaf l) h

end Predicate

namespace FieldValue

theorem scannable_template {value : FieldValue} (h : ∀ t ∈ value.texts, DollarFree t) :
    Scannable value.template := by
  cases value with
  | bound v => exact ⟨trivial, trivial⟩
  | raw sql => exact ⟨h sql List.mem_cons_self, trivial⟩

end FieldValue

namespace Assignment

variable {assignments : List Assignment}

theorem scannable_pairsTemplate (h : ∀ t ∈ assignments.flatMap Assignment.texts, DollarFree t) :
    Scannable (pairsTemplate assignments) := by
  apply scannable_list
  intro t ht
  obtain ⟨a, ha, rfl⟩ := List.mem_map.mp ht
  have hall : ∀ t ∈ a.texts, DollarFree t := fun t ht => h t (List.mem_flatMap.mpr ⟨a, ha, ht⟩)
  obtain ⟨hcolumn, hvalue⟩ := List.forall_mem_cons.mp hall
  exact ⟨hcolumn, rfl, FieldValue.scannable_template hvalue⟩

theorem scannable_columnsTemplate (h : ∀ t ∈ assignments.flatMap Assignment.texts, DollarFree t) :
    Scannable (columnsTemplate assignments) := by
  have hall (a : Assignment) (ha : a ∈ assignments) : ∀ t ∈ a.texts, DollarFree t :=
    fun t ht => h t (List.mem_flatMap.mpr ⟨a, ha, ht⟩)
  refine ⟨rfl, scannable_append (scannable_ofTexts ?_) (opensPlain_text rfl rfl _)
    ⟨rfl, scannable_append (scannable_list ?_) (opensPlain_text rfl rfl _)
      ⟨rfl, trivial⟩⟩⟩
  · intro sql hsql
    obtain ⟨a, ha, rfl⟩ := List.mem_map.mp hsql
    exact (List.forall_mem_cons.mp (hall a ha)).1
  · intro t ht
    obtain ⟨a, ha, rfl⟩ := List.mem_map.mp ht
    exact FieldValue.scannable_template (List.forall_mem_cons.mp (hall a ha)).2

end Assignment

theorem Root.scannable_template {root : Root} (h : ∀ t ∈ root.texts, DollarFree t) :
    Scannable root.template := by
  cases root with
  | select s =>
    obtain ⟨htable, hcolumns⟩ := List.forall_mem_cons.mp h
    refine ⟨rfl, ?_, scannable_append ?_ (opensPlain_text rfl rfl _)
      ⟨rfl, htable, trivial⟩⟩
    · split <;> rfl
    · split
      · exact ⟨rfl, trivial⟩
      · exact scannable_ofTexts hcolumns
  | insert table assignments =>
    obtain ⟨htable, hassignments⟩ := List.forall_mem_cons.mp h
    exact ⟨rfl, htable, rfl, Assignment.scannable_columnsTemplate hassignments⟩
  | update table assignments =>
    obtain ⟨htable, hassignments⟩ := List.forall_mem_cons.mp h
    exact ⟨rfl, htable, rfl, Assignment.scannable_pairsTemplate hassignments⟩
  | delete table => exact ⟨rfl, h table List.mem_cons_self, trivial⟩

theorem Join.scannable_template {j : Join} (h : ∀ t ∈ j.texts, DollarFree t) :
    Scannable j.template := by
  obtain ⟨kind, table, nickname, left, right⟩ := j
  simp only [texts, List.forall_mem_cons] at h
  obtain ⟨htable, hleft, hright, hnickname⟩ := h
  have hkind : DollarFree kind.sql := by cases kind <;> rfl
  refine ⟨hkind, rfl, htable, scannable_append ?_ (opensPlain_text rfl rfl _)
    ⟨rfl, hleft, rfl, hright, trivial⟩⟩
  cases nickname with
  | none => trivial
  | some name => exact ⟨rfl, hnickname name List.mem_cons_self, trivial⟩

theorem SortTerm.scannable_template {t : SortTerm} (h : DollarFree t.column) :
    Scannable t.template := by
  rw [template]
  split
  · exact ⟨h, rfl, trivial⟩
  · exact ⟨h, trivial⟩

theorem Window.scannable_template (w : Window) : Scannable w.template := by
  have hbound (keyword : String) (hkeyword : DollarFree keyword) (bound : Option Int64) :
      ∀ t ∈ boundTemplates keyword bound, Scannable t := by
    intro t ht
    obtain ⟨n, -, rfl⟩ := List.mem_map.mp ht
    exact ⟨hkeyword, trivial, trivial⟩
  apply scannable_joined rfl rfl rfl
  exact List.forall_mem_append.mpr
    ⟨hbound "LIMIT " rfl w.maxCount, hbound "OFFSET " rfl w.startIndex⟩

namespace Clause

theorem scannable_targetTemplate {target : List String} (h : ∀ t ∈ target, DollarFree t) :
    Scannable (targetTemplate target) := by
  rw [targetTemplate]
  split
  · trivial
  · exact ⟨rfl, scannable_append (scannable_ofTexts h) (opensPlain_text rfl rfl _)
      ⟨rfl, trivial⟩⟩

theorem scannable_arguments {arguments : List String} (h : ∀ t ∈ arguments, DollarFree t) :
    Scannable (arguments.flatMap fun sql => [.text ", ", .text sql]) := by
  induction arguments with
  | nil => trivial
  | cons sql arguments ih =>
    obtain ⟨hsql, harguments⟩ := List.forall_mem_cons.mp h
    exact ⟨rfl, hsql, ih harguments⟩

theorem scannable_template {below : Template} (hbelow : Scannable below) {c : Clause}
    (h : ∀ t ∈ c.texts, DollarFree t) : Scannable (c.template below) := by
  have happend {own : Template} (hown : Scannable own) : Scannable (below ++ .text " " :: own) :=
    scannable_append hbelow (opensPlain_text rfl rfl _) ⟨rfl, hown⟩
  cases c with
  | join j => exact happend (Join.scannable_template h)
  | filter p => exact happend ⟨rfl, Predicate.scannable_openTemplate h⟩
  | orderBy terms =>
    refine happend ⟨rfl, scannable_list ?_⟩
    intro t ht
    obtain ⟨term, hterm, rfl⟩ := List.mem_map.mp ht
    exact SortTerm.scannable_template (h term.column (List.mem_map_of_mem hterm))
  | limit w => exact happend w.scannable_template
  | existence =>
    exact ⟨rfl, scannable_append hbelow (opensPlain_text rfl rfl _)
      ⟨rfl, trivial⟩⟩
  | call function arguments =>
    obtain ⟨hfunction, harguments⟩ := List.forall_mem_cons.mp h
    exact ⟨rfl, hfunction, rfl,
      scannable_append hbelow (opensPlain_text rfl rfl _)
        ⟨rfl, scannable_append (scannable_arguments harguments)
          (opensPlain_text rfl rfl _) ⟨rfl, trivial⟩⟩⟩
  | onConflict target action =>
    obtain ⟨htarget, haction⟩ := List.forall_mem_append.mp h
    cases action with
    | nothing =>
      exact happend ⟨rfl, scannable_append (scannable_targetTemplate htarget)
        (opensPlain_text rfl rfl _) ⟨rfl, trivial⟩⟩
    | update assignments =>
      exact happend ⟨rfl, scannable_append (scannable_targetTemplate htarget)
        (opensPlain_text rfl rfl _)
        ⟨rfl, Assignment.scannable_pairsTemplate haction⟩⟩
  | returning columns => exact happend ⟨rfl, scannable_ofTexts h⟩

end Clause

theorem Statement.scannable_template {s : Statement} (h : ∀ t ∈ s.texts, DollarFree t) :
    Scannable s.template := by
  obtain ⟨root, clauses⟩ := s
  change Scannable (templateClauses root clauses)
  induction clauses with
  | nil => exact Root.scannable_template (List.forall_mem_append.mp h).1
  | cons c older ih =>
    obtain ⟨holder, hc⟩ := (forall_texts_iff root c older).mp h
    exact Clause.scannable_template (ih holder) hc

namespace PageRequest

variable {r : PageRequest}

theorem scannable_countTemplate (h : ∀ t ∈ r.inner.texts, DollarFree t) :
    Scannable r.countTemplate :=
  ⟨rfl, scannable_append (Statement.scannable_template h)
    (opensPlain_text rfl rfl _) ⟨rfl, rfl, trivial⟩⟩

theorem scannable_template (h : ∀ t ∈ r.inner.texts, DollarFree t)
    (hordering : ∀ t ∈ r.ordering, DollarFree t) : Scannable r.template := by
  have horder : Scannable r.orderingTemplate := by
    rw [orderingTemplate]
    split
    · trivial
    · exact ⟨rfl, scannable_ofTexts hordering⟩
  have hcut : Scannable r.cutTemplate :=
    ⟨rfl, opensPlain_text rfl rfl _, rfl, opensPlain_text rfl rfl _,
      rfl, trivial⟩
  exact ⟨rfl, scannable_append (Statement.scannable_template h)
    (opensPlain_text rfl rfl _)
    ⟨rfl, scannable_append horder (opensPlain_text rfl rfl _) hcut⟩⟩

end PageRequest

theorem Draft.scannable_templates {d : Draft} (h : ∀ t ∈ d.texts, DollarFree t) :
    ∀ t ∈ d.templates, Scannable t := by
  cases d with
  | statement s => simpa [templates] using Statement.scannable_template h
  | pendingConflict s target => simp [templates]
  | page r =>
    obtain ⟨hinner, hordering⟩ := List.forall_mem_append.mp h
    simpa [templates] using
      ⟨PageRequest.scannable_template hinner hordering, PageRequest.scannable_countTemplate hinner⟩

namespace Chain

/-- The statements of a compiled chain number its templates from `$1` on. Placeholders come from
nothing else, as long as the caller's texts hold no `$`. -/
theorem statements_number_templates (steps : List Step) (c : Compiled)
    (h : compile steps = .ok (.ok c)) :
    ∃ d, draft steps = .ok d ∧
      c.statements.map Prepared.sql = d.templates.map (Template.number 0) ∧
      c.statements.map Prepared.args = d.templates.map Template.values ∧
      ((∀ step ∈ steps, ∀ sql ∈ step.texts, DollarFree sql) →
        ∀ q ∈ c.statements,
          placeholdersIn q.sql.toList = (List.range' 1 q.args.length).map placeholder) := by
  obtain ⟨d, hdraft, -, hstatements⟩ := exists_draft_of_compile h
  refine ⟨d, hdraft, ?_, ?_, ?_⟩
  · rw [hstatements, List.map_map]
    rfl
  · rw [hstatements, List.map_map]
    rfl
  · intro hsteps q hq
    have htexts := forall_texts_draft dollarFree_excluded hdraft hsteps
    rw [hstatements] at hq
    obtain ⟨t, ht, rfl⟩ := List.mem_map.mp hq
    exact placeholdersIn_number (Draft.scannable_templates htexts t ht) 0

/-- An IN list and the two values of a page. -/
theorem statements_number_templates_page :
    let steps : List Step := [.select "t", .column "a", .filter,
      .condition (.compare .and ⟨"k", .within, .bound (.list [.int 7, .null])⟩), .paginate 2 10 []]
    ∃ c, compile steps = .ok (.ok c) ∧
      c.statements.map Prepared.args = [[.int 7, .null, .int 20, .int 10], [.int 7, .null]] ∧
      ∀ q ∈ c.statements,
        placeholdersIn q.sql.toList = (List.range' 1 q.args.length).map placeholder := by
  intro steps
  have h : compile steps = .ok (.ok _) := rfl
  obtain ⟨d, -, -, -, hscan⟩ := statements_number_templates steps _ h
  exact ⟨_, h, rfl, hscan (by decide)⟩

end Chain

end PreparedSql
