import PreparedSql.Proofs.Statement.Extension
import PreparedSql.Proofs.Template.Placeholder

/-!
# Columns and what they get

Pairs of columns and values and the two lists of an INSERT hold the same texts for the values: SQL
as it is, and for a value the placeholder that counts it. So the placeholder behind a column stands
for the value that was assigned to it, in whatever order values and SQL are assigned and also if a
column is assigned twice (`Assignment.columns_meet_values`).
-/
namespace PreparedSql

open Template

namespace Fragment

def valueOf? (args : List Value) (sql : String) : Option Value :=
  ((placeholders 0 args).zip args).lookup sql

theorem lookup_placeholder (base : Nat) (args : List Value) (i : Nat) :
    ((placeholders base args).zip args).lookup (placeholder (base + (i + 1))) = args[i]? := by
  induction args generalizing base i with
  | nil => rfl
  | cons v args ih =>
    rw [placeholders, List.zip_cons_cons, List.lookup_cons]
    cases i with
    | zero => simp
    | succ i =>
      have hne : placeholder (base + (i + 1 + 1)) ≠ placeholder (base + 1) := by
        intro h
        have hindex := placeholder_injective h
        omega
      have hrest : base + (i + 1 + 1) = base + 1 + (i + 1) := by omega
      rw [beq_false_of_ne hne, hrest, ih, List.getElem?_cons_succ]

theorem valueOf?_placeholder (args : List Value) (i : Nat) :
    valueOf? args (placeholder (i + 1)) = args[i]? := by
  have hlookup := lookup_placeholder 0 args i
  rwa [Nat.zero_add] at hlookup

end Fragment

namespace FieldValue

def sqlAt (index : Nat) : FieldValue → String
  | bound _ => placeholder (index + 1)
  | raw sql => sql

/-- Whether what is written stands for the value, in a statement with the values `args`. -/
def WrittenAs (args : List Value) (side : String) : FieldValue → Prop
  | bound v => Fragment.valueOf? args side = some v
  | raw sql => side = sql

theorem render_eq_sqlAt (base : Nat) (value : FieldValue) :
    value.render base = ⟨value.sqlAt base, value.boundValues⟩ := by
  cases value <;> rfl

theorem writtenAs_sqlAt (before after : List Value) (value : FieldValue) :
    value.WrittenAs (before ++ (value.boundValues ++ after)) (value.sqlAt before.length) := by
  cases value with
  | raw sql => rfl
  | bound v =>
    rw [WrittenAs, sqlAt, Fragment.valueOf?_placeholder, boundValues]
    simp

end FieldValue

namespace Assignment

def sides (base : Nat) (assignments : List Assignment) : List String :=
  assignments.mapIdx fun k a =>
    a.value.sqlAt (base + ((assignments.take k).flatMap boundValues).length)

def pairsSql (assignments : List Assignment) (sides : List String) : String :=
  ", ".intercalate (List.zipWith (fun a side => a.column ++ " = " ++ side) assignments sides)

def columnsSql (assignments : List Assignment) (sides : List String) : String :=
  "(" ++ ", ".intercalate (assignments.map column) ++ ") VALUES (" ++ ", ".intercalate sides ++ ")"

/-- Whether there is one text for each assignment, in their order, that stands for its value. -/
def Meet (args : List Value) (assignments : List Assignment) (sides : List String) : Prop :=
  List.Forall₂ (fun a side => a.value.WrittenAs args side) assignments sides

theorem sides_cons (base : Nat) (a : Assignment) (rest : List Assignment) :
    sides base (a :: rest) = a.value.sqlAt base :: sides (base + a.boundValues.length) rest := by
  simp [sides, List.mapIdx_cons, Nat.add_assoc]

section Lists

variable (base : Nat) (assignments : List Assignment)

theorem values_eq_sides :
    values base assignments = (sides base assignments, assignments.flatMap boundValues) := by
  induction assignments generalizing base with
  | nil => rfl
  | cons a rest ih =>
    rw [values, a.value.render_eq_sqlAt, ih, sides_cons]
    rfl

theorem pairs_eq_sides :
    pairs base assignments =
      (List.zipWith (fun a side => a.column ++ " = " ++ side) assignments (sides base assignments),
        assignments.flatMap boundValues) := by
  induction assignments generalizing base with
  | nil => rfl
  | cons a rest ih =>
    rw [pairs, a.value.render_eq_sqlAt, ih, sides_cons]
    rfl

theorem renderPairs_eq_sides :
    renderPairs base assignments =
      ⟨pairsSql assignments (sides base assignments), assignments.flatMap boundValues⟩ := by
  rw [renderPairs, pairs_eq_sides, pairsSql]

theorem renderColumns_eq_sides :
    renderColumns base assignments =
      ⟨columnsSql assignments (sides base assignments), assignments.flatMap boundValues⟩ := by
  rw [renderColumns, values_eq_sides, columnsSql]

theorem number_pairsTemplate :
    number base (pairsTemplate assignments) = pairsSql assignments (sides base assignments) := by
  have hrender := renderPairs_eq_sides base assignments
  rw [renderPairs_eq] at hrender
  exact congrArg Fragment.sql hrender

theorem number_columnsTemplate :
    number base (columnsTemplate assignments) =
      columnsSql assignments (sides base assignments) := by
  have hrender := renderColumns_eq_sides base assignments
  rw [renderColumns_eq] at hrender
  exact congrArg Fragment.sql hrender

/-- Assignments behind other values are written with placeholders of their own values, whatever
comes behind them. -/
theorem meet_sides (before after : List Value) :
    Meet (before ++ (assignments.flatMap boundValues ++ after)) assignments
      (sides before.length assignments) := by
  induction assignments generalizing before with
  | nil => exact .nil
  | cons a rest ih =>
    rw [sides_cons, List.flatMap_cons, List.append_assoc]
    have hrest := ih (before ++ a.boundValues)
    rw [List.append_assoc, List.length_append] at hrest
    exact .cons (a.value.writtenAs_sqlAt before _) hrest

end Lists

end Assignment

namespace Root

open Assignment

variable (table : String) (assignments : List Assignment)

theorem number_insert :
    number 0 (insert table assignments).template =
      "INSERT INTO " ++ table ++ " " ++ columnsSql assignments (sides 0 assignments) := by
  simp only [template, number_text, number_columnsTemplate, String.append_assoc]

theorem number_update :
    number 0 (update table assignments).template =
      "UPDATE " ++ table ++ " SET " ++ pairsSql assignments (sides 0 assignments) := by
  simp only [template, number_text, number_pairsTemplate, String.append_assoc]

end Root

theorem Clause.number_conflict (below : Template) (target : List String)
    (assignments : List Assignment) :
    number 0 (template below (.onConflict target (.update assignments))) =
      number 0 below ++ " ON CONFLICT" ++ targetSql target ++ " DO UPDATE SET " ++
        Assignment.pairsSql assignments (Assignment.sides (values below).length assignments) := by
  have hkeyword : " ON CONFLICT" = " " ++ "ON CONFLICT" := rfl
  rw [hkeyword]
  simp only [template, number_append, number_text, targetTemplate_number, targetTemplate_values,
    Assignment.number_pairsTemplate, List.length_nil, Nat.zero_add, Nat.add_zero,
    String.append_assoc]

namespace Statement

open Assignment

variable {s : Statement}

theorem WellFormed.exists_sql_eq (h : s.WellFormed) (hs : s.root.isSelect = false) :
    ∃ rest, number 0 s.template = number 0 s.root.template ++ rest := by
  have hrest := exists_sql_eq_append s.root [] (h.ne_wrapping hs)
  rwa [List.append_nil] at hrest

theorem WellFormed.exists_conflict_sql {table : String} {inserted assignments : List Assignment}
    {newer : List Clause} {target : List String}
    (h : WellFormed ⟨.insert table inserted, newer ++ [.onConflict target (.update assignments)]⟩) :
    ∃ rest,
      number 0 (template
        ⟨.insert table inserted, newer ++ [.onConflict target (.update assignments)]⟩) =
      "INSERT INTO " ++ table ++ " " ++ columnsSql inserted (sides 0 inserted) ++
        " ON CONFLICT" ++ Clause.targetSql target ++ " DO UPDATE SET " ++
        pairsSql assignments (sides (inserted.flatMap Assignment.boundValues).length assignments) ++
        rest := by
  have hnewer : ∀ c ∈ newer, c.kind ≠ .wrapping := fun c hc =>
    h.ne_wrapping rfl c (List.mem_append_left _ hc)
  have hrest := exists_sql_eq_append (.insert table inserted)
    [.onConflict target (.update assignments)] hnewer
  rwa [template, template, templateClauses, Clause.number_conflict, templateClauses,
    Root.number_insert, Root.values_template] at hrest

theorem meet_root (assignments : List Assignment)
    (hroot : s.root.boundValues = assignments.flatMap Assignment.boundValues) :
    Meet s.boundValues assignments (sides 0 assignments) := by
  rw [boundValues, hroot]
  exact meet_sides assignments [] _

theorem meet_conflict (root : Root) (newer : List Clause) (target : List String)
    (assignments : List Assignment) :
    Meet (Statement.mk root (newer ++ [.onConflict target (.update assignments)])).boundValues
      assignments (sides root.boundValues.length assignments) := by
  rw [boundValues_append, boundValues_cons, ← ofRoot, boundValues_ofRoot, List.append_assoc]
  exact meet_sides assignments root.boundValues _

end Statement

namespace Assignment

/-- Both ways to write assignments write the same texts for the values, in the same order, and bind
the values that are assigned. Each text stands for its value behind any other values. So it does in
every chain that compiles, for the columns of an INSERT, of an UPDATE and of what is updated on a
conflict, where the values of the INSERT are in front. -/
theorem columns_meet_values (assignments : List Assignment) :
    (∀ base,
      renderPairs base assignments =
        ⟨pairsSql assignments (sides base assignments), assignments.flatMap boundValues⟩ ∧
      values base assignments = (sides base assignments, assignments.flatMap boundValues) ∧
      renderColumns base assignments =
        ⟨columnsSql assignments (sides base assignments), assignments.flatMap boundValues⟩ ∧
      ∀ before after, before.length = base →
        Meet (before ++ (assignments.flatMap boundValues ++ after)) assignments
          (sides base assignments)) ∧
    ∀ steps c s, Chain.compile steps = .ok (.ok c) → Chain.draft steps = .ok (.statement s) →
      (∀ table, s.root = .insert table assignments →
        (∃ rest, c.query.sql =
          "INSERT INTO " ++ table ++ " " ++ columnsSql assignments (sides 0 assignments) ++ rest) ∧
        Meet c.query.args assignments (sides 0 assignments)) ∧
      (∀ table, s.root = .update table assignments →
        (∃ rest, c.query.sql =
          "UPDATE " ++ table ++ " SET " ++ pairsSql assignments (sides 0 assignments) ++ rest) ∧
        Meet c.query.args assignments (sides 0 assignments)) ∧
      ∀ target, .onConflict target (.update assignments) ∈ s.clauses →
        ∃ table inserted, s.root = .insert table inserted ∧
          let base := (inserted.flatMap boundValues).length
          (∃ rest, c.query.sql =
            "INSERT INTO " ++ table ++ " " ++ columnsSql inserted (sides 0 inserted) ++
              " ON CONFLICT" ++ Clause.targetSql target ++ " DO UPDATE SET " ++
              pairsSql assignments (sides base assignments) ++ rest) ∧
          Meet c.query.args assignments (sides base assignments) := by
  refine ⟨fun base => ⟨renderPairs_eq_sides base assignments, values_eq_sides base assignments,
    renderColumns_eq_sides base assignments, ?_⟩, ?_⟩
  · rintro before after rfl
    exact meet_sides assignments before after
  intro steps c s h hdraft
  have hwellFormed : s.WellFormed := Chain.wellFormed_draft hdraft
  obtain ⟨hsql, hargs⟩ := Chain.query_of_statement h hdraft
  rw [hsql, hargs]
  refine ⟨?_, ?_, ?_⟩
  · intro table hroot
    have hrest := hwellFormed.exists_sql_eq (by rw [hroot]; rfl)
    rw [hroot, Root.number_insert] at hrest
    exact ⟨hrest, Statement.meet_root assignments (by rw [hroot]; rfl)⟩
  · intro table hroot
    have hrest := hwellFormed.exists_sql_eq (by rw [hroot]; rfl)
    rw [hroot, Root.number_update] at hrest
    exact ⟨hrest, Statement.meet_root assignments (by rw [hroot]; rfl)⟩
  · intro target hmem
    obtain ⟨table, inserted, newer, rfl⟩ := hwellFormed.exists_insert_of_conflict hmem
    exact ⟨table, inserted, rfl, hwellFormed.exists_conflict_sql,
      Statement.meet_conflict _ newer target assignments⟩

/-- A column assigned twice, with SQL between, in an INSERT and on its conflict; and an UPDATE whose
condition binds a value behind those of the columns. -/
theorem columns_meet_values_twice :
    let inserted : List Assignment :=
      [⟨"a", .bound (.int 1)⟩, ⟨"b", .raw "NOW()"⟩, ⟨"a", .bound (.int 2)⟩]
    let updated : List Assignment :=
      [⟨"c", .bound (.int 3)⟩, ⟨"b", .excluded "b"⟩, ⟨"c", .bound (.int 4)⟩]
    let insertion : List Step := [.insert "t", .assign "a" (.bound (.int 1)),
      .assign "b" (.raw "NOW()"), .assign "a" (.bound (.int 2)), .onConflict ["a"], .doUpdate,
      .assign "c" (.bound (.int 3)), .assignExcluded "b", .assign "c" (.bound (.int 4)),
      .returning ["a"]]
    let change : List Step := [.update "t", .assign "c" (.bound (.int 3)),
      .assign "b" (.excluded "b"), .assign "c" (.bound (.int 4)), .filter,
      .condition (.compare .and ⟨"a", .eq, .bound (.int 5)⟩)]
    (∃ c, Chain.compile insertion = .ok (.ok c) ∧
      c.query.sql = "INSERT INTO t (a, b, a) VALUES ($1, NOW(), $2) ON CONFLICT (a) " ++
        "DO UPDATE SET c = $3, b = EXCLUDED.b, c = $4 RETURNING a" ∧
      Meet c.query.args inserted (sides 0 inserted) ∧
      Meet c.query.args updated (sides 2 updated)) ∧
    ∃ c, Chain.compile change = .ok (.ok c) ∧
      c.query.sql = "UPDATE t SET c = $1, b = EXCLUDED.b, c = $2 WHERE a = $3" ∧
      Meet c.query.args updated (sides 0 updated) := by
  intro inserted updated insertion change
  have hinsertion : Chain.compile insertion = .ok (.ok _) := rfl
  have hchange : Chain.compile change = .ok (.ok _) := rfl
  have hinserted := ((columns_meet_values inserted).2 insertion _ _ hinsertion rfl).1 "t" rfl
  have hconflict := ((columns_meet_values updated).2 insertion _ _ hinsertion rfl).2.2 ["a"]
    (List.mem_cons_of_mem _ List.mem_cons_self)
  have hupdated := ((columns_meet_values updated).2 change _ _ hchange rfl).2.1 "t" rfl
  obtain ⟨table, _, hroot, -, hmeet⟩ := hconflict
  cases hroot
  exact ⟨⟨_, hinsertion, by decide +kernel, hinserted.2, hmeet⟩,
    _, hchange, by decide +kernel, hupdated.2⟩

end Assignment

end PreparedSql
