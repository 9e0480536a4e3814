import PreparedSql.Prepared

/-!
# Prefixes of chains

A chain that goes on after a prefix goes on from the prefix's draft, wherever in the chain that is.
So what every step keeps is kept by a run of steps (`Draft.run_invariant`) and holds of the draft of
every chain if it holds at the start (`Chain.draft_invariant`).
-/
namespace PreparedSql

namespace Draft

def run (d : Draft) (steps : List Step) : Option Draft :=
  steps.foldlM step d

/-- What a draft is prepared as, unless a conflict is pending. -/
def prepare? : Draft → Option (Except Error Compiled)
  | statement s => some (s.prepare.map .plain)
  | pendingConflict _ _ => none
  | page r => some (r.prepare.map .page)

@[simp] theorem run_nil (d : Draft) : d.run [] = some d := rfl

theorem run_cons (d : Draft) (next : Step) (steps : List Step) :
    d.run (next :: steps) = (d.step next).bind (·.run steps) :=
  List.foldlM_cons

theorem run_append (d : Draft) (steps later : List Step) :
    d.run (steps ++ later) = (d.run steps).bind (·.run later) :=
  List.foldlM_append

theorem run_cons_eq_some_iff {d e : Draft} {next : Step} {steps : List Step} :
    d.run (next :: steps) = some e ↔ ∃ d', d.step next = some d' ∧ d'.run steps = some e := by
  rw [run_cons, Option.bind_eq_some_iff]

theorem run_singleton (d : Draft) (last : Step) : d.run [last] = d.step last := by
  rw [run_cons]
  cases d.step last <;> rfl

/-- What every step of some kind keeps, a run of such steps keeps. -/
theorem run_invariant {holds : Draft → Prop} (admits : Step → Prop)
    (hstep : ∀ {d e step}, holds d → d.step step = some e → admits step → holds e) {d e : Draft}
    {steps : List Step} (hd : holds d) (h : d.run steps = some e)
    (hsteps : ∀ step ∈ steps, admits step) : holds e := by
  induction steps generalizing d with
  | nil =>
    obtain rfl := Option.some.inj h
    exact hd
  | cons next steps ih =>
    obtain ⟨d', hnext, hrest⟩ := run_cons_eq_some_iff.mp h
    obtain ⟨hadmitted, hsteps⟩ := List.forall_mem_cons.mp hsteps
    exact ih (hstep hd hnext hadmitted) hrest hsteps

end Draft

namespace Chain

variable {steps later : List Step} {d e : Draft}

/-- Where steps stand in a chain makes no difference to what they put together. -/
theorem extend_eq_ok_iff {index : Nat} : extend index d steps = .ok e ↔ d.run steps = some e := by
  induction steps generalizing index d with
  | nil => simp [extend]
  | cons next steps ih =>
    rw [extend, Draft.run_cons]
    cases d.step next with
    | none => simp
    | some d' => exact ih

theorem draft_cons_eq_ok_iff {first : Step} :
    draft (first :: steps) = .ok e ↔ ∃ d, Draft.start first = some d ∧ d.run steps = some e := by
  rw [draft]
  cases Draft.start first with
  | none => simp
  | some d =>
    rw [extend_eq_ok_iff]
    simp

theorem draft_invariant {holds : Draft → Prop} (admits : Step → Prop)
    (hstart : ∀ {first d}, Draft.start first = some d → admits first → holds d)
    (hstep : ∀ {d e step}, holds d → d.step step = some e → admits step → holds e)
    (h : draft steps = .ok d) (hsteps : ∀ step ∈ steps, admits step) : holds d := by
  cases steps with
  | nil => cases h
  | cons first steps =>
    obtain ⟨d', hfirst, hrest⟩ := draft_cons_eq_ok_iff.mp h
    obtain ⟨hadmitted, hsteps⟩ := List.forall_mem_cons.mp hsteps
    exact Draft.run_invariant admits hstep (hstart hfirst hadmitted) hrest hsteps

theorem draft_append_eq_ok_iff (h : steps ≠ []) :
    draft (steps ++ later) = .ok e ↔ ∃ d, draft steps = .ok d ∧ d.run later = some e := by
  obtain ⟨first, rest, rfl⟩ := List.exists_cons_of_ne_nil h
  rw [List.cons_append, draft_cons_eq_ok_iff]
  simp only [draft_cons_eq_ok_iff, Draft.run_append, Option.bind_eq_some_iff]
  constructor
  · rintro ⟨d, hstart, d', hrest, hlater⟩
    exact ⟨d', ⟨d, hstart, hrest⟩, hlater⟩
  · rintro ⟨d', ⟨d, hstart, hrest⟩, hlater⟩
    exact ⟨d, hstart, d', hrest, hlater⟩

/-- Behind a first step, a chain is what its last step makes of the chain before it. -/
theorem draft_append_singleton_eq_ok_iff {last : Step} (h : steps ≠ []) :
    draft (steps ++ [last]) = .ok e ↔ ∃ d, draft steps = .ok d ∧ d.step last = some e := by
  simp only [draft_append_eq_ok_iff h, Draft.run_singleton]

theorem compile_eq_ok_iff {r : Except Error Compiled} :
    compile steps = .ok r ↔ ∃ d, draft steps = .ok d ∧ d.prepare? = some r := by
  rw [compile]
  cases draft steps with
  | error illegal => simp
  | ok d => cases d <;> simp [Draft.prepare?]

theorem ne_nil_of_compile {r : Except Error Compiled} (h : compile steps = .ok r) :
    steps ≠ [] := by
  rintro rfl
  cases h

end Chain

end PreparedSql
