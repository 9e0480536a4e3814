import PreparedSql.Proofs.Template.Redaction

/-!
# Separation of SQL and values

Two chains with the same steps, except for values of the same shape, are written as the same SQL or
refused with the same error; two chains with the same steps, except for the caller's texts, bind
the same values. Both follow from redactions that an observer of templates does not see.
-/
namespace PreparedSql

open Template

namespace Value

/-- What a comparison shows of a value: whether it is NULL or a list. -/
def shape : Value → Value
  | null => null
  | list _ => list []
  | _ => bool false

end Value

namespace Comparison

def isMembershipTest (c : Comparison) : Bool :=
  c = .within || c = .notWithin

/-- What a comparison shows of its operand; a membership test shows the number of operands. -/
def shape (c : Comparison) (v : Value) : Value :=
  if c.isMembershipTest then .list ((Leaf.members v).map fun _ => .null) else v.shape

theorem shape_eq_iff (c : Comparison) (v w : Value) :
    c.shape v = c.shape w ↔
      if c.isMembershipTest then (Leaf.members v).length = (Leaf.members w).length
      else v.isNull = w.isNull ∧ v.isList = w.isList := by
  by_cases htest : c.isMembershipTest = true
  · simp [shape, htest, List.map_const']
  · cases v <;> cases w <;> simp [shape, htest, Value.shape, Value.isNull, Value.isList]

theorem membership_eq {c : Comparison} {operator : String} (h : c.operator? = some operator) :
    c.membership = c.isMembershipTest := by
  have hall : ∀ entry ∈ operators, entry.1.membership = entry.1.isMembershipTest := by decide
  exact hall _ (mem_operators h)

end Comparison

namespace PageRequest

def Accepts (pageIndex pageSize : Int64) : Prop :=
  ¬ pageIndex < 0 ∧ ¬ pageSize < 1 ∧
    (Decimal.Range.signed 8).holds (pageIndex.toInt * pageSize.toInt) = true

instance (pageIndex pageSize : Int64) : Decidable (Accepts pageIndex pageSize) :=
  inferInstanceAs (Decidable (_ ∧ _ ∧ _))

theorem check_eq_ok_iff (r : PageRequest) :
    r.check = .ok () ↔ Accepts r.pageIndex r.pageSize := by
  by_cases hindex : r.pageIndex < 0
  · simp [check, Accepts, hindex]
  · by_cases hsize : r.pageSize < 1
    · simp [check, Accepts, hindex, hsize]
    · by_cases hoffset : (Decimal.Range.signed 8).holds r.rowOffset = true
      · have haccepts : Accepts r.pageIndex r.pageSize := ⟨hindex, hsize, hoffset⟩
        simp [check, hindex, hsize, hoffset, haccepts]
      · have hrejects : ¬ Accepts r.pageIndex r.pageSize := fun h => hoffset h.2.2
        simp [check, hindex, hsize, hoffset, hrejects]

theorem check_congr {r r' : PageRequest} (hindex : r.pageIndex = r'.pageIndex)
    (hsize : r.pageSize = r'.pageSize) : r.check = r'.check := by
  obtain ⟨inner, pageIndex, pageSize, ordering⟩ := r
  obtain rfl : pageIndex = r'.pageIndex := hindex
  obtain rfl : pageSize = r'.pageSize := hsize
  rfl

end PageRequest

namespace Redaction

/-- Leaves nothing of a value but its shape, of a bound but its sign if it is negative, and of the
coordinates of a page nothing unless they are refused. -/
def hideValues : Redaction where
  text := id
  texts := id
  raw := id
  operand := Comparison.shape
  assigned _ := .null
  bound n := if n < 0 then n else 0
  page pageIndex pageSize :=
    if PageRequest.Accepts pageIndex pageSize then (0, 1) else (pageIndex, pageSize)
  texts_append _ _ := rfl
  raw_excluded _ := rfl

def hideTexts : Redaction where
  text _ := ""
  texts _ := []
  raw _ := "EXCLUDED."
  operand _ v := v
  assigned v := v
  bound n := n
  page pageIndex pageSize := (pageIndex, pageSize)
  texts_append _ _ := rfl
  raw_excluded _ := rfl

end Redaction

namespace Piece

def withoutValue : Piece → Template
  | text sql => [text sql]
  | value _ => [value .null]

def withoutText : Piece → Template
  | text _ => []
  | value v => [value v]

end Piece

namespace Template

theorem number_withoutValue (base : Nat) (t : Template) :
    number base (t.flatMap Piece.withoutValue) = number base t := by
  induction t generalizing base with
  | nil => rfl
  | cons piece t ih => cases piece <;> simp [Piece.withoutValue, ih]

theorem length_values_withoutValue (t : Template) :
    (values (t.flatMap Piece.withoutValue)).length = (values t).length := by
  induction t with
  | nil => rfl
  | cons piece t ih => cases piece <;> simp [Piece.withoutValue, ih]

theorem values_withoutText (t : Template) : values (t.flatMap Piece.withoutText) = values t := by
  induction t with
  | nil => rfl
  | cons piece t ih => cases piece <;> simp [Piece.withoutText, ih]

end Template

namespace Leaf

variable (l : Leaf)

/-- A membership test shows no more than how many operands it has. -/
theorem memberTemplate_withoutValue (operator : String) (values : List Value) :
    (l.memberTemplate operator (values.map fun _ => .null)).flatMap Piece.withoutValue =
      (l.memberTemplate operator values).flatMap Piece.withoutValue := by
  cases values with
  | nil => rfl
  | cons v values =>
    have hvalues : (joined ", " (((v :: values).map fun _ => Value.null).map fun w =>
          [.value w])).flatMap Piece.withoutValue =
        (joined ", " ((v :: values).map fun w => [.value w])).flatMap Piece.withoutValue := by
      rw [List.map_map]
      exact flatMap_joined_congr ", " fun _ _ => rfl
    rw [List.map_cons] at hvalues ⊢
    simp only [memberTemplate, List.flatMap_cons, List.flatMap_append, hvalues]

theorem valueTemplate_withoutValue (operator : String) (v : Value) :
    (l.valueTemplate operator v.shape).flatMap Piece.withoutValue =
      (l.valueTemplate operator v).flatMap Piece.withoutValue := by
  cases v <;> rfl

theorem template_hideValues :
    (l.redact .hideValues).template.flatMap Piece.withoutValue =
      l.template.flatMap Piece.withoutValue := by
  obtain ⟨column, comparison, operand⟩ := l
  cases hop : comparison.operator? with
  | none => simp [redact, template, hop]
  | some operator =>
    have hmembership := Comparison.membership_eq hop
    cases operand with
    | raw sql => rfl
    | bound v =>
      by_cases htest : comparison.isMembershipTest = true
      · have hshape : Redaction.hideValues.operand comparison v =
            .list ((members v).map fun _ => .null) := if_pos htest
        simp only [redact, Operand.redact, template, hop, hmembership, htest, hshape, if_true]
        exact memberTemplate_withoutValue ⟨column, comparison, .bound v⟩ operator (members v)
      · have hshape : Redaction.hideValues.operand comparison v = v.shape := if_neg htest
        simp only [redact, Operand.redact, template, hop, hmembership, htest, hshape]
        exact valueTemplate_withoutValue ⟨column, comparison, .bound v⟩ operator v

theorem template_hideTexts :
    (l.redact .hideTexts).template.flatMap Piece.withoutText =
      l.template.flatMap Piece.withoutText := by
  obtain ⟨column, comparison, operand⟩ := l
  cases hop : comparison.operator? with
  | none => simp [redact, template, hop]
  | some operator =>
    cases operand with
    | raw sql => simp [redact, Operand.redact, template, hop, Piece.withoutText]
    | bound v =>
      by_cases hmembership : comparison.membership = true
      · cases hmembers : members v <;>
          simp [redact, Operand.redact, template, hop, hmembership, Redaction.hideTexts,
            memberTemplate, hmembers, Piece.withoutText]
      · cases v <;>
          simp [redact, Operand.redact, template, hop, hmembership, Redaction.hideTexts,
            valueTemplate, Piece.withoutText]

theorem check_hideValues : (l.redact .hideValues).check = l.check := by
  obtain ⟨column, comparison, operand⟩ := l
  cases hop : comparison.operator? with
  | none => simp [redact, check, hop]
  | some operator =>
    have hmembership := Comparison.membership_eq hop
    cases operand with
    | raw sql => rfl
    | bound v =>
      by_cases htest : comparison.isMembershipTest = true
      · simp [redact, Operand.redact, check, hop, hmembership, htest]
      · cases v <;>
          simp [redact, Operand.redact, check, hop, hmembership, htest, Redaction.hideValues,
            Comparison.shape, Value.shape, checkValue]

end Leaf

namespace Redaction

theorem hideValues_unseen : hideValues.Unseen Piece.withoutValue where
  text _ := rfl
  texts := .inl rfl
  raw _ := rfl
  leaf := Leaf.template_hideValues
  assigned _ := rfl
  bound _ := rfl
  page _ := by simp [PageRequest.cutTemplate, Piece.withoutValue]

theorem hideTexts_unseen : hideTexts.Unseen Piece.withoutText where
  text _ := rfl
  texts := .inr fun _ => rfl
  raw _ := rfl
  leaf := Leaf.template_hideTexts
  assigned _ := rfl
  bound _ := rfl
  page _ := rfl

end Redaction

namespace Predicate

mutual

theorem check_hideValues (p : Predicate) : (p.redact .hideValues).check = p.check := by
  cases p with
  | empty => rfl
  | leaf l => exact l.check_hideValues
  | group connective children =>
    have hlength : (redactAll .hideValues children).length = children.length := by
      rw [redactAll_eq_map, List.length_map]
    rw [redact, check, check, hlength, checkAll_hideValues children]

theorem checkAll_hideValues (children : List Predicate) :
    checkAll (redactAll .hideValues children) = checkAll children := by
  cases children with
  | nil => rfl
  | cons child children =>
    rw [redactAll, checkAll, checkAll, check_hideValues child, checkAll_hideValues children]

end

end Predicate

theorem Root.check_hideValues (root : Root) : (root.redact .hideValues).check = root.check := by
  cases root <;> simp [redact, check, Selection.redact, Redaction.hideValues]

namespace Window

theorem checkBound_hideValues (fault : Int64 → Fault) (bound : Option Int64) :
    checkBound fault (bound.map Redaction.hideValues.bound) = checkBound fault bound := by
  cases bound with
  | none => rfl
  | some n =>
    by_cases hn : n < 0
    · simp [checkBound, Redaction.hideValues, hn]
    · simp [checkBound, Redaction.hideValues, hn]

theorem check_hideValues (w : Window) : (w.redact .hideValues).check = w.check := by
  simp only [check, redact, checkBound_hideValues, Option.isNone_map]

end Window

namespace Clause

theorem check_hideValues (c : Clause) : (c.redact .hideValues).check = c.check := by
  cases c with
  | limit w => exact w.check_hideValues
  | onConflict target action =>
    cases action with
    | nothing => rfl
    | update assignments =>
      simp [redact, ConflictAction.redact, check, Redaction.hideValues]
  | _ => rfl

theorem checkPredicate_hideValues (c : Clause) :
    (c.redact .hideValues).checkPredicate = c.checkPredicate := by
  cases c with
  | filter p => exact p.check_hideValues
  | _ => rfl

end Clause

theorem Statement.check_hideValues (s : Statement) : (s.redact .hideValues).check = s.check := by
  obtain ⟨root, clauses⟩ := s
  induction clauses with
  | nil => exact root.check_hideValues
  | cons c older ih =>
    simp only [check, redact, List.map_cons, checkClauses, c.check_hideValues,
      c.checkPredicate_hideValues] at ih ⊢
    rw [ih]

theorem PageRequest.check_hideValues (q : PageRequest) :
    (q.redact .hideValues).check = q.check := by
  by_cases haccepts : Accepts q.pageIndex q.pageSize
  · have hredacted : (q.redact .hideValues).check = .ok () := by
      apply (check_eq_ok_iff _).mpr
      simp only [redact, Redaction.hideValues, if_pos haccepts]
      decide
    rw [hredacted, q.check_eq_ok_iff.mpr haccepts]
  · have hpage : Redaction.hideValues.page q.pageIndex q.pageSize = (q.pageIndex, q.pageSize) :=
      if_neg haccepts
    exact check_congr (congrArg Prod.fst hpage) (congrArg Prod.snd hpage)

theorem Draft.check_hideValues (d : Draft) : (d.redact .hideValues).check = d.check := by
  cases d with
  | statement s => exact s.check_hideValues
  | pendingConflict s target => rfl
  | page q =>
    have hinner : (q.redact .hideValues).inner.check = q.inner.check := q.inner.check_hideValues
    rw [redact, check, check, PageRequest.checkAll, PageRequest.checkAll, q.check_hideValues,
      hinner]

namespace Event

def withoutPage : Event → Event
  | preparedPage sql paramCount _ _ => preparedPage sql paramCount 0 0
  | e => e

end Event

namespace Compiled

/-- What a compiled chain shows of itself: the SQL of its statements and its event. -/
def shown (c : Compiled) : List String × Event :=
  (c.statements.map Prepared.sql, c.event.withoutPage)

end Compiled

theorem Prepared.ofTemplate_shown {t t' : Template}
    (h : t.flatMap Piece.withoutValue = t'.flatMap Piece.withoutValue) :
    (ofTemplate t).sql = (ofTemplate t').sql ∧
      (ofTemplate t).args.length = (ofTemplate t').args.length := by
  have hsql : number 0 t = number 0 t' := by
    rw [← number_withoutValue 0 t, h, number_withoutValue]
  have hcount : (values t).length = (values t').length := by
    rw [← length_values_withoutValue t, h, length_values_withoutValue]
  exact ⟨hsql, hcount⟩

theorem Statement.prepare_shown {s s' : Statement}
    (h : s.redact .hideValues = s'.redact .hideValues) :
    (s.prepare.map Compiled.plain).map Compiled.shown =
      (s'.prepare.map Compiled.plain).map Compiled.shown := by
  have hcheck : s.check = s'.check := by rw [← s.check_hideValues, h, s'.check_hideValues]
  have htemplate : s.template.flatMap Piece.withoutValue =
      s'.template.flatMap Piece.withoutValue := by
    rw [← template_redact Redaction.hideValues_unseen s, h,
      template_redact Redaction.hideValues_unseen s']
  obtain ⟨hsql, hcount⟩ := Prepared.ofTemplate_shown htemplate
  rw [s.prepare_eq, s'.prepare_eq, hcheck]
  cases s'.check with
  | error fault => rfl
  | ok _ =>
    simp [Except.map, Compiled.shown, Compiled.statements, Compiled.event,
      Prepared.event, hsql, hcount]

theorem PageRequest.prepare_shown {q q' : PageRequest}
    (h : q.redact .hideValues = q'.redact .hideValues) :
    (q.prepare.map Compiled.page).map Compiled.shown =
      (q'.prepare.map Compiled.page).map Compiled.shown := by
  have hpage : (Draft.page q).redact .hideValues = (Draft.page q').redact .hideValues :=
    congrArg Draft.page h
  have hcheck : q.checkAll = q'.checkAll := by
    have hq := (Draft.page q).check_hideValues
    have hq' := (Draft.page q').check_hideValues
    rw [hpage, hq'] at hq
    exact hq.symm
  have htemplates := Draft.templates_redact Redaction.hideValues_unseen (.page q)
  rw [hpage, Draft.templates_redact Redaction.hideValues_unseen] at htemplates
  simp only [Draft.templates, List.map_cons, List.map_nil, List.cons.injEq, and_true]
    at htemplates
  obtain ⟨hquery, hcount⟩ := htemplates
  obtain ⟨hsql, hargs⟩ := Prepared.ofTemplate_shown hquery
  obtain ⟨hcountSql, -⟩ := Prepared.ofTemplate_shown hcount
  rw [q.prepare_eq, q'.prepare_eq, hcheck]
  cases q'.checkAll with
  | error fault => simp only [Except.map]
  | ok _ =>
    simp [Except.map, Compiled.shown, Compiled.statements, Compiled.event,
      PreparedPage.event, Event.withoutPage, hsql, hargs, hcountSql]

namespace Chain

variable {steps steps' : List Step}

/-- Chains that agree up to a redaction are refused at the same step, or have drafts that agree. -/
theorem AgreeUpTo.draft_cases {r : Redaction} (h : AgreeUpTo r steps steps') :
    (∃ illegal, draft steps = .error illegal ∧ draft steps' = .error illegal) ∨
      ∃ d d', draft steps = .ok d ∧ draft steps' = .ok d' ∧ d.redact r = d'.redact r := by
  have hdrafts := congrArg draft h
  rw [draft_redact, draft_redact] at hdrafts
  cases hd : draft steps with
  | error illegal =>
    cases hd' : draft steps' with
    | error illegal' =>
      rw [hd, hd'] at hdrafts
      exact .inl ⟨illegal, rfl, congrArg Except.error (Except.error.inj hdrafts).symm⟩
    | ok d' => simp [hd, hd', Except.map] at hdrafts
  | ok d =>
    cases hd' : draft steps' with
    | error illegal' => simp [hd, hd', Except.map] at hdrafts
    | ok d' =>
      rw [hd, hd'] at hdrafts
      exact .inr ⟨d, d', rfl, rfl, Except.ok.inj hdrafts⟩

theorem shown_eq_of_hideValues (h : AgreeUpTo .hideValues steps steps') :
    (compile steps).map (·.map Compiled.shown) = (compile steps').map (·.map Compiled.shown) := by
  have hlength : steps.length = steps'.length := by simpa using congrArg List.length h
  obtain ⟨illegal, hd, hd'⟩ | ⟨d, d', hd, hd', hredact⟩ := h.draft_cases
  · simp only [compile, hd, hd']
  · rw [compile, compile, hd, hd']
    cases d with
    | statement s =>
      cases d' with
      | statement s' =>
        exact congrArg Except.ok (Statement.prepare_shown (Draft.statement.inj hredact))
      | _ => cases hredact
    | pendingConflict s target =>
      cases d' with
      | pendingConflict s' target' =>
        rw [hlength]
      | _ => cases hredact
    | page q =>
      cases d' with
      | page q' => exact congrArg Except.ok (PageRequest.prepare_shown (Draft.page.inj hredact))
      | _ => cases hredact

theorem args_eq_of_hideTexts (h : AgreeUpTo .hideTexts steps steps') {c c' : Compiled}
    (hc : compile steps = .ok (.ok c)) (hc' : compile steps' = .ok (.ok c')) :
    c.statements.map Prepared.args = c'.statements.map Prepared.args := by
  obtain ⟨d, hd, -, hstatements⟩ := exists_draft_of_compile hc
  obtain ⟨d', hd', -, hstatements'⟩ := exists_draft_of_compile hc'
  have hredact : d.redact .hideTexts = d'.redact .hideTexts := by
    obtain ⟨illegal, hillegal, -⟩ | ⟨e, e', he, he', hredact⟩ := h.draft_cases
    · rw [hd] at hillegal
      cases hillegal
    · obtain rfl := Except.ok.inj (hd.symm.trans he)
      obtain rfl := Except.ok.inj (hd'.symm.trans he')
      exact hredact
  have htemplates : d.templates.map (·.flatMap Piece.withoutText) =
      d'.templates.map (·.flatMap Piece.withoutText) := by
    rw [← Draft.templates_redact Redaction.hideTexts_unseen d, hredact,
      Draft.templates_redact Redaction.hideTexts_unseen d']
  have hvalues := congrArg (List.map values) htemplates
  simp only [List.map_map, Function.comp_def, values_withoutText] at hvalues
  rw [hstatements, hstatements', List.map_map, List.map_map]
  exact hvalues

/-- Values of the same shape make no difference to the SQL, the event or the error of a chain, and
the caller's texts make none to the values that are bound. -/
theorem sql_and_values_are_separate (steps steps' : List Step) :
    (AgreeUpTo .hideValues steps steps' →
      (compile steps).map (·.map Compiled.shown) = (compile steps').map (·.map Compiled.shown)) ∧
    (AgreeUpTo .hideTexts steps steps' → ∀ c c', compile steps = .ok (.ok c) →
      compile steps' = .ok (.ok c') →
      c.statements.map Prepared.args = c'.statements.map Prepared.args) :=
  ⟨shown_eq_of_hideValues, fun h _ _ hc hc' => args_eq_of_hideTexts h hc hc'⟩

/-- Two pages of the same rows but for what is searched for, and a page of another table. -/
theorem sql_and_values_are_separate_page :
    let chain (table : String) (v w : Value) (pageIndex : Int64) : List Step :=
      [.select table, .column "a", .filter, .condition (.compare .and ⟨"k", .within, .bound v⟩),
        .condition (.compare .or ⟨"n", .gt, .bound w⟩), .paginate pageIndex 10 []]
    let page := chain "t" (.list [.int 7, .null]) (.text "x") 2
    let otherValues := chain "t" (.list [.bool true, .int 8]) (.int 5) 0
    let otherTable := chain "u" (.list [.int 7, .null]) (.text "x") 2
    (compile page).map (·.map Compiled.shown) = (compile otherValues).map (·.map Compiled.shown) ∧
      ∃ c c', compile page = .ok (.ok c) ∧ compile otherTable = .ok (.ok c') ∧
        c.statements.map Prepared.args = c'.statements.map Prepared.args := by
  intro chain page otherValues otherTable
  have hpage : compile page = .ok (.ok _) := rfl
  have hother : compile otherTable = .ok (.ok _) := rfl
  exact ⟨(sql_and_values_are_separate page otherValues).1 rfl, _, _, hpage, hother,
    (sql_and_values_are_separate page otherTable).2 rfl _ _ hpage hother⟩

end Chain

end PreparedSql
