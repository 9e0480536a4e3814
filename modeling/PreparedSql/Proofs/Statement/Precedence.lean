import PreparedSql.Proofs.Template.Statement

/-!
# Precedence of faults

Every condition that a statement has to meet, as one list: those of the clauses from the latest to
the first, those of the root, and those of the predicate from the left. A chain is refused with the
fault of the first condition in the list that does not hold, and with nothing else.
-/
namespace PreparedSql

structure Check where
  holds : Bool
  fault : Fault
  deriving DecidableEq, Repr

namespace Check

def first? (checks : List Check) : Option Check :=
  checks.find? fun c => !c.holds

def outcome (checks : List Check) : Except Fault Unit :=
  match first? checks with
  | none => .ok ()
  | some c => .error c.fault

@[simp] theorem outcome_nil : outcome [] = .ok () := rfl

@[simp] theorem outcome_cons (c : Check) (checks : List Check) :
    outcome (c :: checks) = if c.holds then outcome checks else .error c.fault := by
  cases h : c.holds <;> simp [outcome, first?, h]

theorem outcome_append (checks later : List Check) :
    outcome (checks ++ later) = (outcome checks >>= fun _ => outcome later) := by
  induction checks with
  | nil => rfl
  | cons c checks ih =>
    rw [List.cons_append, outcome_cons, outcome_cons, ih]
    cases c.holds <;> rfl

theorem first?_eq_none_iff (checks : List Check) :
    first? checks = none ↔ ∀ c ∈ checks, c.holds = true := by
  simp [first?]

theorem outcome_eq_ok_iff (checks : List Check) :
    outcome checks = .ok () ↔ ∀ c ∈ checks, c.holds = true := by
  rw [← first?_eq_none_iff, outcome]
  cases first? checks <;> simp

end Check

namespace Leaf

/-- The value that is compared with. Membership in values is not a comparison with them. -/
def compared? (l : Leaf) : Option Value :=
  match l.operand with
  | .raw _ => none
  | .bound v => if l.comparison.membership then none else some v

def checks (l : Leaf) : List Check :=
  [⟨l.comparison.operator?.isSome, .unsupportedComparison l.comparison⟩,
    ⟨!l.compared?.any Value.isNull || (l.comparison == .eq || l.comparison == .ne),
      .nullComparison l.column⟩,
    ⟨!l.compared?.any Value.isList, .listComparison l.column⟩]

theorem check_eq_outcome (l : Leaf) : l.check = Check.outcome l.checks := by
  rw [check]
  cases hoperator : l.comparison.operator? with
  | none => simp [checks, hoperator]
  | some operator =>
    cases hoperand : l.operand with
    | raw sql => simp [checks, compared?, hoperator, hoperand]
    | bound v =>
      cases hmembership : l.comparison.membership with
      | true => simp [checks, compared?, hoperator, hoperand, hmembership]
      | false =>
        cases v <;>
          simp [checks, compared?, checkValue, Value.isNull, Value.isList, hoperator, hoperand,
            hmembership]

end Leaf

namespace Predicate

mutual

/-- What a predicate has to meet, from the left: that a group is long enough comes before what its
children have to meet. -/
def checks : Predicate → List Check
  | empty => [⟨false, .emptyPredicate⟩]
  | leaf l => l.checks
  | group connective children =>
    ⟨decide (2 ≤ children.length), .shortGroup connective children.length⟩ :: checksOfAll children

def checksOfAll : List Predicate → List Check
  | [] => []
  | child :: children => checks child ++ checksOfAll children

end

mutual

theorem check_eq_outcome (p : Predicate) : p.check = Check.outcome p.checks := by
  cases p with
  | empty => rfl
  | leaf l => exact l.check_eq_outcome
  | group connective children =>
    rw [check, checks, Check.outcome_cons, checkAll_eq_outcome children]
    by_cases h : children.length < 2
    · simp [h, Nat.not_le.mpr h]
    · simp [h, Nat.not_lt.mp h]

theorem checkAll_eq_outcome (children : List Predicate) :
    checkAll children = Check.outcome (checksOfAll children) := by
  cases children with
  | nil => rfl
  | cons child children =>
    rw [checkAll, checksOfAll, Check.outcome_append, check_eq_outcome child,
      checkAll_eq_outcome children]

end

end Predicate

namespace Root

def checks : Root → List Check
  | select s =>
    [⟨!Text.isBlank s.table, .selectWithoutTable⟩,
      ⟨s.counting || !s.columns.isEmpty, .selectWithoutColumn s.table⟩]
  | insert table assignments => [⟨!assignments.isEmpty, .insertWithoutField table⟩]
  | update table assignments => [⟨!assignments.isEmpty, .updateWithoutField table⟩]
  | delete table => [⟨!Text.isBlank table, .deleteWithoutTable⟩]

theorem check_eq_outcome (root : Root) : root.check = Check.outcome root.checks := by
  cases root with
  | select s =>
    cases hblank : Text.isBlank s.table <;> cases hcounting : s.counting <;>
      cases hcolumns : s.columns.isEmpty <;>
        simp [check, checks, hblank, hcounting, hcolumns]
  | insert table assignments =>
    cases h : assignments.isEmpty <;> simp [check, checks, h]
  | update table assignments =>
    cases h : assignments.isEmpty <;> simp [check, checks, h]
  | delete table => cases h : Text.isBlank table <;> simp [check, checks, h]

end Root

namespace Window

def boundChecks (fault : Int64 → Fault) (bound : Option Int64) : List Check :=
  bound.toList.map fun n => ⟨decide (0 ≤ n), fault n⟩

def checks (w : Window) : List Check :=
  ⟨w.maxCount.isSome || w.startIndex.isSome, .windowWithoutBound⟩ ::
    (boundChecks .negativeMaxCount w.maxCount ++ boundChecks .negativeStartIndex w.startIndex)

theorem checkBound_eq_outcome (fault : Int64 → Fault) (bound : Option Int64) :
    checkBound fault bound = Check.outcome (boundChecks fault bound) := by
  cases bound with
  | none => rfl
  | some n =>
    by_cases h : n < 0
    · simp [checkBound, boundChecks, h, Int64.not_le.mpr h]
    · simp [checkBound, boundChecks, h, Int64.not_lt.mp h]

theorem check_eq_outcome (w : Window) : w.check = Check.outcome w.checks := by
  rw [check, checks, Check.outcome_cons, Check.outcome_append, ← checkBound_eq_outcome,
    ← checkBound_eq_outcome]
  cases w.maxCount <;> cases w.startIndex <;> simp

end Window

namespace Clause

def checks : Clause → List Check
  | join j => [⟨!Text.isBlank j.table, .joinWithoutTable⟩]
  | limit w => w.checks
  | call function _ => [⟨!Text.isBlank function, .callWithoutFunction⟩]
  | onConflict target (.update assignments) =>
    [⟨!target.isEmpty, .conflictWithoutTarget⟩, ⟨!assignments.isEmpty, .conflictWithoutField⟩]
  | returning columns => [⟨!columns.isEmpty, .returningWithoutColumn⟩]
  | filter _ | orderBy _ | existence | onConflict _ .nothing => []

def predicateChecks : Clause → List Check
  | filter p => p.checks
  | _ => []

theorem check_eq_outcome (c : Clause) : c.check = Check.outcome c.checks := by
  cases c with
  | join j => cases h : Text.isBlank j.table <;> simp [check, checks, h]
  | limit w => exact w.check_eq_outcome
  | call function arguments =>
    cases h : Text.isBlank function <;> simp [check, checks, h]
  | onConflict target action =>
    cases action with
    | nothing => rfl
    | update assignments =>
      cases htarget : target.isEmpty <;> cases hassignments : assignments.isEmpty <;>
        simp [check, checks, htarget, hassignments]
  | returning columns => cases h : columns.isEmpty <;> simp [check, checks, h]
  | filter _ | orderBy _ | existence => rfl

theorem checkPredicate_eq_outcome (c : Clause) :
    c.checkPredicate = Check.outcome c.predicateChecks := by
  cases c with
  | filter p => exact p.check_eq_outcome
  | _ => rfl

end Clause

namespace Statement

/-- What a statement has to meet: its clauses from the latest to the first, its root, and last of
all its predicate. -/
def checks (s : Statement) : List Check :=
  s.clauses.flatMap Clause.checks ++
    (s.root.checks ++ s.clauses.reverse.flatMap Clause.predicateChecks)

theorem checkClauses_eq_outcome (root : Root) (clauses : List Clause) :
    checkClauses root clauses = Check.outcome (Statement.mk root clauses).checks := by
  induction clauses with
  | nil => simp [checkClauses, checks, root.check_eq_outcome]
  | cons c older ih =>
    -- the latest clause comes first with its own checks and last with those of its predicate
    have hchecks : (Statement.mk root (c :: older)).checks =
        c.checks ++ ((Statement.mk root older).checks ++ c.predicateChecks) := by
      simp [checks]
    rw [checkClauses, ih, c.check_eq_outcome, c.checkPredicate_eq_outcome, hchecks,
      Check.outcome_append, Check.outcome_append]

theorem check_eq_outcome (s : Statement) : s.check = Check.outcome s.checks :=
  checkClauses_eq_outcome s.root s.clauses

end Statement

namespace PageRequest

def checks (r : PageRequest) : List Check :=
  [⟨decide (0 ≤ r.pageIndex), .negativePageIndex r.pageIndex⟩,
    ⟨decide (1 ≤ r.pageSize), .pageSizeBelowOne r.pageSize⟩,
    ⟨decide (Int64.minValue.toInt ≤ r.rowOffset ∧ r.rowOffset ≤ Int64.maxValue.toInt),
      .rowOffsetOverflow r.pageIndex r.pageSize⟩]

theorem check_eq_outcome (r : PageRequest) : r.check = Check.outcome r.checks := by
  have hfits : (Decimal.Range.signed 8).holds r.rowOffset =
      decide (Int64.minValue.toInt ≤ r.rowOffset ∧ r.rowOffset ≤ Int64.maxValue.toInt) := by
    rw [Decimal.Range.holds, ← Bool.decide_and]
    rfl
  rw [check, checks, hfits]
  by_cases hindex : r.pageIndex < 0
  · simp [hindex, Int64.not_le.mpr hindex]
  · by_cases hsize : r.pageSize < 1
    · simp [hindex, hsize, Int64.not_lt.mp hindex, Int64.not_le.mpr hsize]
    · simp [hindex, hsize, Int64.not_lt.mp hindex, Int64.not_lt.mp hsize]

theorem check_eq_ok_iff_bounds (r : PageRequest) :
    r.check = .ok () ↔
      0 ≤ r.pageIndex ∧ 1 ≤ r.pageSize ∧
        Int64.minValue.toInt ≤ r.rowOffset ∧ r.rowOffset ≤ Int64.maxValue.toInt := by
  rw [check_eq_outcome, Check.outcome_eq_ok_iff]
  simp [checks]

end PageRequest

namespace Draft

/-- What a draft has to meet before it is written: a page request comes before its statement. -/
def checks : Draft → List Check
  | statement s => s.checks
  | pendingConflict _ _ => []
  | page r => r.checks ++ r.inner.checks

theorem check_eq_outcome (d : Draft) : d.check = Check.outcome d.checks := by
  cases d with
  | statement s => exact s.check_eq_outcome
  | pendingConflict s target => rfl
  | page r =>
    rw [check, PageRequest.checkAll, r.check_eq_outcome, r.inner.check_eq_outcome, checks,
      Check.outcome_append]

end Draft

namespace Chain

/-- A legal chain is prepared, unless its draft has a fault. -/
theorem exists_draft_of_legal {steps : List Step} {r : Except Error Compiled}
    (h : compile steps = .ok r) :
    ∃ d, draft steps = .ok d ∧
      ((d.check = .ok () ∧ ∃ c, r = .ok c) ∨
        ∃ fault, d.check = .error fault ∧ r = .error fault.toError) := by
  rw [compile] at h
  cases hdraft : draft steps with
  | error illegal => simp [hdraft] at h
  | ok d =>
    refine ⟨d, rfl, ?_⟩
    cases d with
    | pendingConflict s target => simp [hdraft] at h
    | statement s =>
      simp only [hdraft, Except.ok.injEq, s.prepare_eq] at h
      subst h
      cases hcheck : s.check with
      | ok _ => exact .inl ⟨hcheck, _, rfl⟩
      | error fault => exact .inr ⟨fault, hcheck, rfl⟩
    | page r =>
      simp only [hdraft, Except.ok.injEq, r.prepare_eq] at h
      subst h
      cases hcheck : r.checkAll with
      | ok _ => exact .inl ⟨hcheck, _, rfl⟩
      | error fault => exact .inr ⟨fault, hcheck, rfl⟩

/-- A legal chain compiles if all conditions hold, and else is refused with the fault of the first
one that does not. -/
theorem compile_reports_first_fault (steps : List Step) (r : Except Error Compiled)
    (h : compile steps = .ok r) :
    ∃ d, draft steps = .ok d ∧
      ((∃ c, r = .ok c) ↔ ∀ c ∈ d.checks, c.holds = true) ∧
      ∀ e, r = .error e ↔
        ∃ c, Check.first? d.checks = some c ∧ e = .validation c.fault.message := by
  obtain ⟨d, hdraft, hresult⟩ := exists_draft_of_legal h
  refine ⟨d, hdraft, ?_⟩
  rw [← Check.first?_eq_none_iff]
  rw [d.check_eq_outcome, Check.outcome] at hresult
  cases hfirst : Check.first? d.checks with
  | none =>
    obtain ⟨c, rfl⟩ : ∃ c, r = .ok c := by simpa [hfirst] using hresult
    simp
  | some c =>
    obtain rfl : r = .error c.fault.toError := by simpa [hfirst] using hresult
    simp [Fault.toError, eq_comm]

/-- A call without a name comes before a negative bound, a table without a name and a predicate that
is not set. -/
theorem compile_reports_first_fault_call :
    let steps : List Step := [.select " ", .filter, .limit (-1), .call "\t"]
    ∃ d, draft steps = .ok d ∧ (d.checks.map fun c => (c.holds, c.fault)) =
        [(false, .callWithoutFunction), (true, .windowWithoutBound),
          (false, .negativeMaxCount (-1)), (false, .selectWithoutTable),
          (false, .selectWithoutColumn " "), (false, .emptyPredicate)] ∧
      compile steps = .ok (.error (.validation "function call requires a function name")) := by
  intro steps
  have h : compile steps = .ok _ := rfl
  obtain ⟨d, hdraft, -, herror⟩ := compile_reports_first_fault steps _ h
  obtain rfl : _ = d := Except.ok.inj hdraft
  refine ⟨_, rfl, rfl, ?_⟩
  rw [h, (herror _).mpr ⟨_, rfl, rfl⟩]
  rfl

end Chain

end PreparedSql
