import PreparedSql.Proofs.Statement.BoundValues
import PreparedSql.Proofs.Statement.ClauseOrder

/-!
# What a longer chain keeps

A chain that goes on keeps what was bound before, except for the bounds of a LIMIT that it sets
again. If it goes on with whole clauses it keeps the SQL as well, since every clause but one that
uses the whole statement is written behind what was there (`Chain.extension_keeps`).
-/
namespace PreparedSql

open Template

namespace Step

def starts? : Step → Option ClauseKind
  | join _ _ _ _ => some .join
  | filter | filterWith _ => some .filter
  | orderBy _ => some .order
  | limit _ | offset _ | window _ => some .limit
  | existence | call _ => some .wrapping
  | onConflict _ => some .conflict
  | returning _ => some .returning
  | _ => none

def usesWhole : Step → Bool
  | existence | call _ | paginate _ _ _ => true
  | _ => false

theorem ne_wrapping_of_starts {step : Step} {kind : ClauseKind} (h : step.starts? = some kind)
    (hwhole : step.usesWhole = false) : kind ≠ .wrapping := by
  rintro rfl
  cases step with
  | existence => cases hwhole
  | call function => cases hwhole
  | _ => cases h

end Step

namespace Statement

variable {s e : Statement}

/-- What a step can do. One that starts a clause changes the latest one only to set a bound that is
there. -/
inductive Effect (step : Step) : Statement → Statement → Prop
  | push {s : Statement} {c : Clause} (hstarts : step.starts? = some c.kind) :
      Effect step s (s.push c)
  | change {root : Root} {c new : Clause} {older : List Clause} (hkind : new.kind = c.kind)
      (hstarts : step.starts? = none ∨ resets ⟨root, c :: older⟩ step = true) :
      Effect step ⟨root, c :: older⟩ ⟨root, new :: older⟩
  | changeRoot {root new : Root} (hstarts : step.starts? = none) :
      Effect step (ofRoot root) (ofRoot new)

theorem effect_of_pushIf {step : Step} {admitted : Bool} {c : Clause}
    (h : s.pushIf admitted c = some e) (hstarts : step.starts? = some c.kind) :
    Effect step s e := by
  obtain ⟨-, rfl⟩ := pushIf_eq_some_iff.mp h
  exact .push hstarts

theorem effect_of_addAssignments {step : Step} {added : List Assignment}
    (h : s.addAssignments added = some e) (hstarts : step.starts? = none) : Effect step s e := by
  obtain ⟨table, assignments, rfl, rfl⟩ | ⟨table, assignments, rfl, rfl⟩ |
    ⟨root, target, assignments, older, rfl, rfl⟩ := addAssignments_eq_some h
  · exact .changeRoot hstarts
  · exact .changeRoot hstarts
  · exact .change rfl (.inl hstarts)

theorem effect_of_step {step : Step} (h : s.step step = some e) : Effect step s e := by
  cases step with
  | column _ | columns _ | distinct =>
    obtain ⟨x, rfl, rfl⟩ := onSelection_eq_some h
    exact .changeRoot rfl
  | join _ _ _ _ | filter | filterWith _ | orderBy _ | window _ | existence | call _
  | returning _ => exact effect_of_pushIf h rfl
  | assign _ _ | assignOptional _ _ => exact effect_of_addAssignments h rfl
  | assignExcluded _ => exact effect_of_addAssignments (assignExcluded_eq_some h) rfl
  | limit _ | offset _ =>
    obtain ⟨root, w, older, rfl, rfl⟩ | ⟨-, rfl⟩ := onWindow_eq_some h
    · exact .change rfl (.inr rfl)
    · exact .push rfl
  | nickname name =>
    obtain ⟨root, j, older, rfl, rfl⟩ := nickname_eq_some h
    exact .change rfl (.inl rfl)
  | condition step =>
    obtain ⟨root, p, older, rfl, rfl⟩ := condition_eq_some h
    exact .change rfl (.inl rfl)
  | thenBy term =>
    obtain ⟨root, terms, older, rfl, rfl⟩ := thenBy_eq_some h
    exact .change rfl (.inl rfl)
  | argument sql =>
    obtain ⟨root, function, arguments, older, rfl, rfl⟩ := argument_eq_some h
    exact .change rfl (.inl rfl)
  | _ => cases h

/-- A statement with further clauses on it, none of which uses it as a whole. -/
def Extends (e s : Statement) : Prop :=
  ∃ added, added ≠ [] ∧ (∀ c ∈ added, c.kind ≠ .wrapping) ∧ e = ⟨s.root, added ++ s.clauses⟩

theorem Extends.push {c : Clause} (h : e.Extends s) (hc : c.kind ≠ .wrapping) :
    (e.push c).Extends s := by
  obtain ⟨added, -, hkinds, rfl⟩ := h
  exact ⟨c :: added, List.cons_ne_nil c added, List.forall_mem_cons.mpr ⟨hc, hkinds⟩, rfl⟩

theorem extends_push {c : Clause} (hc : c.kind ≠ .wrapping) : (s.push c).Extends s :=
  ⟨[c], List.cons_ne_nil c [], List.forall_mem_singleton.mpr hc, rfl⟩

theorem Extends.clauses_ne_nil (h : e.Extends s) : e.clauses ≠ [] := by
  obtain ⟨added, hadded, -, rfl⟩ := h
  exact List.append_ne_nil_of_left_ne_nil hadded s.clauses

/-- A step goes on within the further clauses, of which there is one already. -/
theorem Extends.step {t : Statement} {step : Step} (h : t.Extends s)
    (hstep : t.step step = some e) (hwhole : step.usesWhole = false) : e.Extends s := by
  cases effect_of_step hstep with
  | push hstarts => exact h.push (Step.ne_wrapping_of_starts hstarts hwhole)
  | @change root c new older hkind =>
    obtain ⟨added, hadded, hkinds, heq⟩ := h
    obtain ⟨first, added, rfl⟩ := List.exists_cons_of_ne_nil hadded
    obtain ⟨rfl, hclauses⟩ := Statement.mk.inj heq
    obtain ⟨rfl, rfl⟩ := List.cons.inj hclauses
    obtain ⟨hc, hrest⟩ := List.forall_mem_cons.mp hkinds
    exact ⟨new :: added, List.cons_ne_nil new added,
      List.forall_mem_cons.mpr ⟨hkind ▸ hc, hrest⟩, rfl⟩
  | changeRoot hstarts => exact absurd rfl h.clauses_ne_nil

/-- A step that starts a clause puts it on what was there, unless it sets a bound that was there. -/
theorem extends_of_starts {step : Step} (h : s.step step = some e) (hstarts : step.starts? ≠ none)
    (hresets : s.resets step = false) (hwhole : step.usesWhole = false) : e.Extends s := by
  cases effect_of_step h with
  | push hc => exact extends_push (Step.ne_wrapping_of_starts hc hwhole)
  | change hkind hchange =>
    rcases hchange with hnone | hreset
    · exact absurd hnone hstarts
    · exact absurd hreset (Bool.eq_false_iff.mp hresets)
  | changeRoot hnone => exact absurd hnone hstarts

theorem exists_behind_eq (below : Template) {added : List Clause} (hadded : added ≠ [])
    (hkinds : ∀ c ∈ added, c.kind ≠ .wrapping) :
    ∃ own, behind below added = below ++ .text " " :: own := by
  obtain ⟨first, others, hreverse⟩ :=
    List.exists_cons_of_ne_nil (List.reverse_ne_nil_iff.mpr hadded)
  have hfirst : first ∈ added := List.mem_reverse.mp (hreverse ▸ List.mem_cons_self)
  obtain ⟨own, hown⟩ := Clause.exists_template_nil_eq (hkinds first hfirst)
  exact ⟨own ++ others.flatMap (·.template []), by simp [behind, hreverse, hown]⟩

/-- The SQL of a statement stands in front of that of further clauses. -/
theorem Extends.exists_sql_eq (h : e.Extends s) :
    ∃ own, number 0 e.template = number 0 s.template ++ " " ++ own := by
  obtain ⟨added, hadded, hkinds, rfl⟩ := h
  obtain ⟨own, hown⟩ := exists_behind_eq s.template hadded hkinds
  refine ⟨number (values s.template).length own, ?_⟩
  change number 0 (templateClauses s.root (added ++ s.clauses)) = _
  rw [templateClauses_append s.root s.clauses hkinds, ← template, hown, number_append, number_text,
    Nat.zero_add, String.append_assoc]

/-- The SQL that is there stays in front when clauses are put on it. -/
theorem exists_sql_eq_append (root : Root) {newer : List Clause} (older : List Clause)
    (hnewer : ∀ c ∈ newer, c.kind ≠ .wrapping) :
    ∃ rest, number 0 (template ⟨root, newer ++ older⟩) =
      number 0 (template ⟨root, older⟩) ++ rest := by
  by_cases hnone : newer = []
  · subst hnone
    exact ⟨"", String.append_empty.symm⟩
  · have hextends : Extends ⟨root, newer ++ older⟩ ⟨root, older⟩ := ⟨newer, hnone, hnewer, rfl⟩
    obtain ⟨own, hown⟩ := hextends.exists_sql_eq
    exact ⟨" " ++ own, by rw [hown, String.append_assoc]⟩

end Statement

namespace Draft

/-- A draft that goes on from a statement with whole clauses. An action for a conflict may be
missing. -/
def Extends (s : Statement) : Draft → Prop
  | statement e => e.Extends s
  | pendingConflict e _ => e = s
  | page _ => False

variable {s : Statement} {d e : Draft}

theorem Extends.step {step : Step} (h : d.Extends s) (hstep : d.step step = some e)
    (hwhole : step.usesWhole = false) : e.Extends s := by
  cases effect_of_step hstep with
  | statement hs => exact Statement.Extends.step h hs hwhole
  | onConflict target hconflict =>
    exact absurd (Statement.clauses_of_admitsConflict hconflict) h.clauses_ne_nil
  | doNothing _ target | doUpdate _ target =>
    obtain rfl := h
    exact Statement.extends_push nofun
  | paginate _ _ _ _ => cases hwhole

theorem Extends.run {steps : List Step} (h : d.Extends s) (hrun : d.run steps = some e)
    (hwhole : ∀ step ∈ steps, step.usesWhole = false) : e.Extends s :=
  run_invariant (·.usesWhole = false) Extends.step h hrun hwhole

theorem extends_of_starts {step : Step} (h : (statement s).step step = some e)
    (hstarts : step.starts? ≠ none) (hresets : s.resets step = false)
    (hwhole : step.usesWhole = false) : e.Extends s := by
  cases effect_of_step h with
  | statement hs => exact Statement.extends_of_starts hs hstarts hresets hwhole
  | onConflict target _ => rfl
  | paginate _ _ _ _ => cases hwhole

/-- Steps that put on whole clauses leave the SQL in front of them as it is. -/
theorem exists_sql_eq_of_run {first : Step} {rest : List Step} {t t' : Template}
    (hrun : d.run (first :: rest) = some e) (hstarts : first.starts? ≠ none)
    (hresets : d.resets first = false) (hwhole : ∀ step ∈ first :: rest, step.usesWhole = false)
    (ht : d.templates.head? = some t) (ht' : e.templates.head? = some t') :
    ∃ own, number 0 t' = number 0 t ++ " " ++ own := by
  obtain ⟨d', hstep, hrest⟩ := run_cons_eq_some_iff.mp hrun
  obtain ⟨hfirst, hothers⟩ := List.forall_mem_cons.mp hwhole
  cases d with
  | pendingConflict s target => cases ht
  | page r => cases hstep
  | statement s =>
    have hextends : e.Extends s :=
      (extends_of_starts hstep hstarts hresets hfirst).run hrest hothers
    cases e with
    | pendingConflict s' target => cases ht'
    | page r => exact hextends.elim
    | statement s' =>
      obtain rfl := Option.some.inj ht
      obtain rfl := Option.some.inj ht'
      exact Statement.Extends.exists_sql_eq hextends

end Draft

/-! ## The bounds of a LIMIT -/

def Window.set (w : Window) : Step → Window
  | .limit n => { w with maxCount := some n }
  | .offset n => { w with startIndex := some n }
  | _ => w

namespace Statement

variable {root : Root} {older : List Clause} {w : Window} {e : Statement} {next : Step}

/-- On a LIMIT a step sets a bound of it or uses the whole. -/
theorem step_limit_eq_some (h : (Statement.mk root (.limit w :: older)).step next = some e) :
    e = ⟨root, .limit (w.set next) :: older⟩ ∨
      ∃ c : Clause, c.kind = .wrapping ∧ w.set next = w ∧ e = ⟨root, c :: .limit w :: older⟩ := by
  cases next with
  | limit n | offset n => exact .inl (Option.some.inj h).symm
  | existence => exact .inr ⟨.existence, rfl, rfl, (Option.some.inj h).symm⟩
  | call function => exact .inr ⟨.call function [], rfl, rfl, (Option.some.inj h).symm⟩
  | column _ | columns _ | distinct =>
    obtain ⟨_, ⟨⟩, -⟩ := onSelection_eq_some h
  | assign _ _ | assignOptional _ _ =>
    obtain ⟨_, _, ⟨⟩, -⟩ | ⟨_, _, ⟨⟩, -⟩ | ⟨_, _, _, _, ⟨⟩, -⟩ := addAssignments_eq_some h
  | _ => cases h

/-- What uses the whole takes further arguments at most. -/
theorem step_wrapping_eq_some {c : Clause} (hc : c.kind = .wrapping)
    (h : (Statement.mk root (c :: older)).step next = some e) :
    ∃ new : Clause, new.kind = .wrapping ∧ w.set next = w ∧ e = ⟨root, new :: older⟩ := by
  cases effect_of_step h with
  | push hstarts =>
    -- no clause can be put on it
    cases c with
    | existence | call _ _ => cases next <;> first | cases hstarts | cases h
    | _ => cases hc
  | @change _ _ new _ hkind hchange =>
    refine ⟨new, hkind.trans hc, ?_, rfl⟩
    cases next with
    | limit n | offset n =>
      cases c with
      | limit w' => cases hc
      | _ => exact absurd hchange (by rintro (⟨⟨⟩⟩ | ⟨⟨⟩⟩))
    | _ => rfl

end Statement

namespace Draft

/-- A draft that takes a part of some rows, and may then use that as a whole. -/
def Cuts (rows : Statement) (w : Window) (d : Draft) : Prop :=
  ∃ wrappers : List Clause, (∀ c ∈ wrappers, c.kind = .wrapping) ∧
    d = statement ⟨rows.root, wrappers ++ .limit w :: rows.clauses⟩

variable {rows : Statement} {w : Window} {d e : Draft}

theorem cuts_push (rows : Statement) (w : Window) :
    (statement (rows.push (.limit w))).Cuts rows w :=
  ⟨[], nofun, rfl⟩

/-- Rows that can be neither sorted nor inserted are neither paged nor is there a conflict on
them. -/
theorem exists_statement_step {s : Statement} {next : Step} (hclauses : s.clauses ≠ [])
    (horderable : s.orderable = false) (h : (statement s).step next = some e) :
    ∃ s', s.step next = some s' ∧ statement s' = e := by
  cases effect_of_step h with
  | statement hs => exact ⟨_, hs, rfl⟩
  | onConflict target hconflict =>
    exact absurd (Statement.clauses_of_admitsConflict hconflict) hclauses
  | paginate _ _ _ hpaged => exact absurd hpaged (Bool.eq_false_iff.mp horderable)

theorem Cuts.step {next : Step} (h : d.Cuts rows w) (hstep : d.step next = some e) :
    e.Cuts rows (w.set next) := by
  obtain ⟨wrappers, hkinds, rfl⟩ := h
  cases wrappers with
  | nil =>
    obtain ⟨s', hs', rfl⟩ := exists_statement_step (List.cons_ne_nil _ _) rfl hstep
    rcases Statement.step_limit_eq_some hs' with rfl | ⟨c, hc, hw, rfl⟩
    · exact cuts_push rows (w.set next)
    · rw [hw]
      exact ⟨[c], List.forall_mem_singleton.mpr hc, rfl⟩
  | cons c wrappers =>
    obtain ⟨hc, hrest⟩ := List.forall_mem_cons.mp hkinds
    have horderable : Statement.orderable
        ⟨rows.root, c :: (wrappers ++ .limit w :: rows.clauses)⟩ = false := by
      cases c with
      | existence | call _ _ => rfl
      | _ => cases hc
    obtain ⟨s', hs', rfl⟩ := exists_statement_step (List.cons_ne_nil _ _) horderable hstep
    obtain ⟨new, hnew, hw, rfl⟩ := Statement.step_wrapping_eq_some hc hs'
    rw [hw]
    exact ⟨new :: wrappers, List.forall_mem_cons.mpr ⟨hnew, hrest⟩, rfl⟩

theorem Cuts.run {steps : List Step} (h : d.Cuts rows w) (hrun : d.run steps = some e) :
    e.Cuts rows (steps.foldl Window.set w) := by
  induction steps generalizing d w with
  | nil =>
    obtain rfl := Option.some.inj hrun
    exact h
  | cons next steps ih =>
    obtain ⟨d', hstep, hrest⟩ := run_cons_eq_some_iff.mp hrun
    exact ih (h.step hstep) hrest

theorem Cuts.boundValues_eq (h : d.Cuts rows w) :
    d.boundValues = rows.boundValues ++ w.boundValues := by
  obtain ⟨wrappers, hkinds, rfl⟩ := h
  change (Statement.mk rows.root (wrappers ++ .limit w :: rows.clauses)).boundValues = _
  induction wrappers with
  | nil => exact Statement.boundValues_push (.limit w)
  | cons c wrappers ih =>
    obtain ⟨hc, hrest⟩ := List.forall_mem_cons.mp hkinds
    have hnone : c.boundValues = [] := by
      cases c with
      | existence | call _ _ => rfl
      | _ => cases hc
    rw [List.cons_append, Statement.boundValues_cons, hnone, List.append_nil, ih hrest]

end Draft

namespace Chain

/-- A chain and a longer one that both compile. The longer one binds what the shorter one binds and
behind that what its further steps bind, in their order, unless one of them sets a bound of a LIMIT
that is there. A condition binds just what its operand is written with. If the shorter chain ends
with a LIMIT, what was bound before that stays and only the bounds behind it change. If a further
step puts a LIMIT on, it is the bounds of that one which change, whether or not the chain up to
there compiles. If the further steps put on clauses and do not use the statement as a whole, its SQL
stays as well. -/
theorem extension_keeps {steps later : List Step} {c c' : Compiled}
    (h : compile steps = .ok (.ok c)) (h' : compile (steps ++ later) = .ok (.ok c')) :
    ∃ d, draft steps = .ok d ∧
      (d.resetsAny later = false →
        c'.query.args = c.query.args ++ later.flatMap Step.boundValues) ∧
      (∀ (step : FilterStep) base f, step.operand.render base = .ok f →
        f.args = step.boundValues) ∧
      (∀ rows w, d = .statement (Statement.push rows (.limit w)) →
        ∃ before, rows.render = .ok before ∧
          c.query.args = before.args ++ w.boundValues ∧
          c'.query.args = before.args ++ (later.foldl Window.set w).boundValues) ∧
      (∀ mid first rest rows w, later = mid ++ first :: rest → d.resetsAny mid = false →
        d.run mid = some (.statement rows) →
        (Draft.statement rows).step first = some (.statement (rows.push (.limit w))) →
        c'.query.args = c.query.args ++ mid.flatMap Step.boundValues ++
          (rest.foldl Window.set w).boundValues) ∧
      ∀ first rest, later = first :: rest → first.starts? ≠ none → d.resets first = false →
        (∀ step ∈ later, step.usesWhole = false) →
        ∃ own, c'.query.sql = c.query.sql ++ " " ++ own := by
  obtain ⟨d, t, hdraft, hcheck, ht, hsql, hargs⟩ := exists_template_of_compile h
  obtain ⟨e, t', hdraft', -, ht', hsql', hargs'⟩ := exists_template_of_compile h'
  have hrun : d.run later = some e := by
    obtain ⟨d', hd', hrun⟩ := (draft_append_eq_ok_iff (ne_nil_of_compile h)).mp hdraft'
    obtain rfl := Except.ok.inj (hdraft.symm.trans hd')
    exact hrun
  refine ⟨d, hdraft, ?_, ?_, ?_, ?_, ?_⟩
  · intro hresets
    rw [hargs, hargs', Draft.boundValues_run hrun hresets]
  · intro step base f hf
    exact Predicate.args_eq_boundValues hf
  · rintro rows w rfl
    have hbelow : rows.check = .ok () := (Statement.check_cons_eq_ok hcheck).1
    have hcuts := Draft.cuts_push rows w
    refine ⟨instantiate 0 rows.template, ?_, ?_, ?_⟩
    · rw [rows.render_eq, hbelow]
      rfl
    · rw [hargs, hcuts.boundValues_eq, instantiate_args, Statement.values_template hbelow]
    · rw [hargs', (hcuts.run hrun).boundValues_eq, instantiate_args,
        Statement.values_template hbelow]
  · rintro mid first rest rows w rfl hresets hmid hpush
    rw [Draft.run_append, hmid, Option.bind_some] at hrun
    obtain ⟨d', hstep, hrest⟩ := Draft.run_cons_eq_some_iff.mp hrun
    obtain rfl := Option.some.inj (hpush.symm.trans hstep)
    rw [hargs, hargs', ((Draft.cuts_push rows w).run hrest).boundValues_eq,
      ← Draft.boundValues_run hmid hresets]
    rfl
  · rintro first rest rfl hstarts hresets hwhole
    rw [hsql, hsql']
    exact Draft.exists_sql_eq_of_run hrun hstarts hresets hwhole ht ht'

/-- An order and a part of the rows behind a condition, and then the bounds of the part set anew. A
bound that is refused may be set anew too. -/
theorem extension_keeps_select :
    let rows : List Step := [.select "t", .column "*", .filter,
      .condition (.compare .and ⟨"a", .eq, .bound (.int 1)⟩)]
    let part : List Step := [.orderBy ⟨"b", false⟩, .offset 4]
    let bounds : List Step := [.limit 7, .offset 5]
    let refused : Step := .limit (-1)
    ∃ c c' c'' cm, compile rows = .ok (.ok c) ∧ compile (rows ++ part) = .ok (.ok c') ∧
      compile ((rows ++ part) ++ bounds) = .ok (.ok c'') ∧
      (∃ error, compile (rows ++ [refused]) = .ok (.error error)) ∧
      compile (rows ++ [refused, .limit 7]) = .ok (.ok cm) ∧
      c'.query.args = c.query.args ++ [.int 4] ∧
      (∃ own, c'.query.sql = c.query.sql ++ " " ++ own) ∧
      (∃ before : Fragment, c'.query.args = before.args ++ [.int 4] ∧
        c''.query.args = before.args ++ [.int 7, .int 5]) ∧
      cm.query.args = c.query.args ++ [.int 7] := by
  intro rows part bounds refused
  have hrows : compile rows = .ok (.ok _) := rfl
  have hpart : compile (rows ++ part) = .ok (.ok _) := rfl
  have hbounds : compile ((rows ++ part) ++ bounds) = .ok (.ok _) := rfl
  have hanew : compile (rows ++ [refused, .limit 7]) = .ok (.ok _) := rfl
  obtain ⟨d, hd, hargs, -, -, -, hsql⟩ := extension_keeps hrows hpart
  obtain ⟨e, he, -, -, hlimit, -, -⟩ := extension_keeps hpart hbounds
  obtain ⟨d', hd', -, -, -, hput, -⟩ := extension_keeps hrows hanew
  obtain rfl : _ = d := Except.ok.inj hd
  obtain rfl : _ = e := Except.ok.inj he
  obtain rfl : _ = d' := Except.ok.inj hd'
  obtain ⟨before, -, hbefore, hafter⟩ := hlimit _ _ rfl
  have hclauses : ∀ step ∈ part, step.usesWhole = false := by simp [part, Step.usesWhole]
  have hcm := hput [] refused [.limit 7] _ ⟨some (-1), none⟩ rfl rfl rfl rfl
  exact ⟨_, _, _, _, hrows, hpart, hbounds, ⟨_, rfl⟩, hanew, hargs rfl,
    hsql _ _ rfl nofun rfl hclauses, ⟨before, hbefore, hafter⟩, hcm⟩

end Chain

end PreparedSql
