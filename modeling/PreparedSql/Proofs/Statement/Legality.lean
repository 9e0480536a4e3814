import PreparedSql.Prepared
import PreparedSql.Proofs.Statement.Grammar

/-!
# Legal chains

A chain is accepted if it belongs to the grammar of chains, and else refused at the first step that
no legal chain has there, or behind its end if a conflict is left pending. This rests on what the
steps of a draft lead to (`Chain.extend_cases`).
-/
namespace PreparedSql

open Computability

namespace Chain

def Completable (steps : List Step) : Prop :=
  ∃ later, steps ++ later ∈ legal

theorem Completable.take {steps : List Step} (h : Completable steps) (n : Nat) :
    Completable (steps.take n) := by
  obtain ⟨later, hlater⟩ := h
  refine ⟨steps.drop n ++ later, ?_⟩
  rwa [← List.append_assoc, List.take_append_drop]

/-- A legal chain may start with the steps up to the one at the index, but not with that one too. -/
structure FailsAt (steps : List Step) (index : Nat) : Prop where
  index_lt : index < steps.length
  before : ∀ j ≤ index, Completable (steps.take j)
  after : ¬ Completable (steps.take (index + 1))

theorem FailsAt.unique {steps : List Step} {i j : Nat} (hi : FailsAt steps i)
    (hj : FailsAt steps j) : i = j := by
  obtain h | h | h := Nat.lt_trichotomy i j
  · exact absurd (hj.before (i + 1) h) hi.after
  · exact h
  · exact absurd (hi.before (j + 1) h) hj.after

theorem Completable.not_failsAt {steps : List Step} (h : Completable steps) (index : Nat) :
    ¬ FailsAt steps index :=
  fun hfails => hfails.after (h.take (index + 1))

theorem FailsAt.not_completable {steps : List Step} {index : Nat} (h : FailsAt steps index) :
    ¬ Completable steps :=
  fun hcompletable => hcompletable.not_failsAt index h

theorem completable_of_mem {steps : List Step} (h : steps ∈ legal) : Completable steps :=
  ⟨[], by rwa [List.append_nil]⟩

theorem completable_iff (steps : List Step) :
    Completable steps ↔ ∃ later, later ∈ legal.leftQuotient steps :=
  Iff.rfl

section Nil

variable {kind : Step → Bool} {l m : Language Step}

theorem nil_mem_mul (hl : [] ∈ l) (hm : [] ∈ m) : [] ∈ l * m :=
  Language.append_mem_mul hl hm

theorem nil_mem_optionally : [] ∈ optionally l :=
  .inl rfl

theorem nil_notMem_oneOf_mul : [] ∉ oneOf kind * l := by
  rintro ⟨-, ⟨step, -, rfl⟩, later, -, h⟩
  cases h

theorem nil_mem_afterRows : [] ∈ afterRows :=
  .inr (nil_mem_mul nil_mem_optionally (nil_mem_mul nil_mem_optionally nil_mem_optionally))

theorem nil_mem_afterJoins : [] ∈ afterJoins :=
  nil_mem_mul (Language.nil_mem_kstar _) (nil_mem_mul nil_mem_optionally nil_mem_afterRows)

end Nil

theorem completable_nil : Completable [] := by
  have hrest : [] ∈ optionally filter * optionally returning :=
    nil_mem_mul nil_mem_optionally nil_mem_optionally
  have hdelete : [.delete ""] ∈ deleteChain :=
    ⟨[.delete ""], ⟨.delete "", rfl, rfl⟩, [], hrest, rfl⟩
  exact ⟨[.delete ""], (Language.mem_add _ _ _).mpr (.inr hdelete)⟩

end Chain

open Chain

theorem Root.nil_mem_rest (root : Root) : [] ∈ root.rest := by
  cases root with
  | select _ => exact nil_mem_mul (Language.nil_mem_kstar _) nil_mem_afterJoins
  | insert _ _ | update _ _ =>
    exact nil_mem_mul (Language.nil_mem_kstar _) (nil_mem_mul nil_mem_optionally nil_mem_optionally)
  | delete _ => exact nil_mem_mul nil_mem_optionally nil_mem_optionally

theorem Clause.nil_mem_rest (root : Root) (c : Clause) : [] ∈ c.rest root := by
  cases c with
  | join _ => exact nil_mem_mul (Language.nil_mem_kstar _) nil_mem_afterJoins
  | filter _ =>
    refine nil_mem_mul (Language.nil_mem_kstar _) ?_
    split
    · exact nil_mem_afterRows
    · exact nil_mem_optionally
  | orderBy _ =>
    exact nil_mem_mul (Language.nil_mem_kstar _) (nil_mem_mul nil_mem_optionally nil_mem_optionally)
  | limit _ => exact nil_mem_mul (Language.nil_mem_kstar _) nil_mem_optionally
  | existence | returning _ => exact Language.nil_mem_one
  | call _ _ => exact Language.nil_mem_kstar _
  | onConflict _ action =>
    cases action with
    | nothing => exact nil_mem_optionally
    | update _ => exact nil_mem_mul (Language.nil_mem_kstar _) nil_mem_optionally

namespace Draft

def isPending : Draft → Bool
  | pendingConflict _ _ => true
  | _ => false

/-- A draft is complete as it is unless a conflict is pending. -/
theorem nil_mem_rest_iff (d : Draft) : [] ∈ d.rest ↔ d.isPending = false := by
  cases d with
  | statement s =>
    refine iff_of_true ?_ rfl
    obtain ⟨root, clauses⟩ := s
    cases clauses with
    | nil => exact root.nil_mem_rest
    | cons c older => exact c.nil_mem_rest root
  | pendingConflict s target =>
    refine iff_of_false ?_ nofun
    rw [rest, add_mul, mul_assoc, Language.mem_add]
    rintro (h | h)
    · exact nil_notMem_oneOf_mul h
    · exact nil_notMem_oneOf_mul h
  | page r => exact iff_of_true Language.nil_mem_one rfl

theorem exists_mem_rest (d : Draft) : ∃ later, later ∈ d.rest := by
  cases hpending : d.isPending with
  | false => exact ⟨[], d.nil_mem_rest_iff.mpr hpending⟩
  | true =>
    cases d with
    | pendingConflict s target =>
      have hdoNothing : [.doNothing] ∈ conflictAction :=
        (Language.mem_add _ _ _).mpr (.inl ⟨.doNothing, rfl, rfl⟩)
      exact ⟨[.doNothing], Language.append_mem_mul hdoNothing nil_mem_optionally⟩
    | statement _ | page _ => cases hpending

theorem isPending_start {first : Step} {d : Draft} (h : start first = some d) :
    d.isPending = false := by
  cases first with
  | select _ | selectCount _ | insert _ | update _ | delete _ =>
    obtain rfl := Option.some.inj h
    rfl
  | _ => cases h

theorem isPending_step {d e : Draft} {step : Step} (h : d.step step = some e) :
    e.isPending = true ↔ ∃ target, step = .onConflict target := by
  cases effect_of_step h with
  | statement hs =>
    refine iff_of_false Bool.false_ne_true ?_
    rintro ⟨target, rfl⟩
    cases hs
  | onConflict target _ => exact iff_of_true rfl ⟨target, rfl⟩
  | doNothing _ _ | doUpdate _ _ | paginate _ _ _ _ =>
    exact iff_of_false Bool.false_ne_true nofun

end Draft

namespace Chain

/-- Steps on a draft lead to what may follow them, or fail at the first one behind which nothing may
follow. -/
theorem extend_cases (steps : List Step) (index : Nat) {d : Draft} (hd : d.WellFormed) :
    (∃ e, extend index d steps = .ok e ∧ d.rest.leftQuotient steps = e.rest) ∨
      ∃ k < steps.length, extend index d steps = .error ⟨index + k⟩ ∧
        (∃ e : Draft, d.rest.leftQuotient (steps.take k) = e.rest) ∧
        d.rest.leftQuotient (steps.take (k + 1)) = 0 := by
  induction steps generalizing index d with
  | nil => exact .inl ⟨d, rfl, Language.leftQuotient_nil _⟩
  | cons next steps ih =>
    have hquotient (later : List Step) :
        d.rest.leftQuotient (next :: later) = (d.restAfter next).leftQuotient later := by
      rw [← Draft.leftQuotient_rest next hd, ← Language.leftQuotient_append, List.singleton_append]
    rw [extend]
    cases hstep : d.step next with
    | none =>
      refine .inr ⟨0, Nat.zero_lt_succ _, rfl, ⟨d, Language.leftQuotient_nil _⟩, ?_⟩
      rw [List.take_succ_cons, List.take_zero, hquotient, Draft.restAfter, hstep]
      rfl
    | some d' =>
      have hd' : d'.WellFormed := Draft.wellFormed_step hd hstep
      have hrest : d.restAfter next = d'.rest := by rw [Draft.restAfter, hstep]; rfl
      obtain ⟨e, he, heq⟩ | ⟨k, hk, herror, ⟨e, heq⟩, hzero⟩ := ih (index + 1) hd'
      · exact .inl ⟨e, he, by rw [hquotient, hrest, heq]⟩
      · refine .inr ⟨k + 1, Nat.succ_lt_succ hk, ?_, ⟨e, ?_⟩, ?_⟩
        · rwa [← Nat.add_assoc, Nat.add_right_comm]
        · rw [List.take_succ_cons, hquotient, hrest, heq]
        · rw [List.take_succ_cons, hquotient, hrest, hzero]

/-- Steps put together a draft behind which the rest of a legal chain may follow, or fail at the
first one that no legal chain has there. -/
theorem draft_cases (first : Step) (rest : List Step) :
    (∃ e, draft (first :: rest) = .ok e ∧ legal.leftQuotient (first :: rest) = e.rest) ∨
      ∃ index, draft (first :: rest) = .error ⟨index⟩ ∧ FailsAt (first :: rest) index := by
  have hquotient (later : List Step) : legal.leftQuotient (first :: later) =
      ((Draft.start first).elim 0 Draft.rest).leftQuotient later := by
    rw [← leftQuotient_legal, ← Language.leftQuotient_append, List.singleton_append]
  rw [draft]
  cases hstart : Draft.start first with
  | none =>
    refine .inr ⟨0, rfl, Nat.zero_lt_succ _, fun j hj => ?_, ?_⟩
    · rw [Nat.le_zero.mp hj]
      exact completable_nil
    · rw [List.take_succ_cons, List.take_zero, completable_iff, hquotient, hstart]
      rintro ⟨later, h⟩
      exact Language.notMem_zero later h
  | some d =>
    simp only [hstart, Option.elim_some] at hquotient
    obtain ⟨e, he, heq⟩ | ⟨k, hk, herror, ⟨e, heq⟩, hzero⟩ :=
      extend_cases rest 1 (Draft.wellFormed_start hstart)
    · exact .inl ⟨e, he, by rw [hquotient, heq]⟩
    · have hcompletable : Completable ((first :: rest).take (k + 1)) := by
        rw [List.take_succ_cons, completable_iff, hquotient, heq]
        exact e.exists_mem_rest
      refine .inr ⟨k + 1, ?_, Nat.succ_lt_succ hk, fun j hj => ?_, ?_⟩
      · rwa [Nat.add_comm] at herror
      · rw [← Nat.min_eq_left hj, ← List.take_take]
        exact hcompletable.take j
      · rw [List.take_succ_cons, completable_iff, hquotient, hzero]
        rintro ⟨later, h⟩
        exact Language.notMem_zero later h

/-- A conflict is pending after the step that names it only. -/
theorem isPending_extend {steps : List Step} {index : Nat} {d e : Draft}
    (h : extend index d steps = .ok e) :
    e.isPending = true ↔
      (steps = [] ∧ d.isPending = true) ∨
        ∃ target, steps.getLast? = some (.onConflict target) := by
  induction steps generalizing index d with
  | nil =>
    obtain rfl := Except.ok.inj h
    simp
  | cons next steps ih =>
    rw [extend] at h
    split at h
    · next d' hstep =>
      rw [ih h, Draft.isPending_step hstep]
      cases steps with
      | nil => simp
      | cons later steps => simp
    · cases h

theorem isPending_draft {steps : List Step} {d : Draft} (h : draft steps = .ok d) :
    d.isPending = true ↔ ∃ target, steps.getLast? = some (.onConflict target) := by
  unfold draft at h
  split at h
  · cases h
  · next first rest =>
    split at h
    · next d' hstart =>
      have hlast : ¬ ∃ target, first = .onConflict target := by
        rintro ⟨target, rfl⟩
        cases hstart
      rw [isPending_extend h, Draft.isPending_start hstart]
      cases rest with
      | nil => simpa using hlast
      | cons later rest => simp
    · cases h

theorem compile_of_not_pending {steps : List Step} {d : Draft} (h : draft steps = .ok d)
    (hd : d.isPending = false) : ∃ r, compile steps = .ok r := by
  rw [compile, h]
  cases d with
  | pendingConflict _ _ => cases hd
  | statement _ | page _ => exact ⟨_, rfl⟩

theorem compile_of_pending {steps : List Step} {d : Draft} (h : draft steps = .ok d)
    (hd : d.isPending = true) : compile steps = .error ⟨steps.length⟩ := by
  rw [compile, h]
  cases d with
  | pendingConflict _ _ => rfl
  | statement _ | page _ => cases hd

/-- Just the chains of the grammar are accepted. Another one is refused at the first step that no
legal chain has there, or behind its end if it leaves a conflict pending. The clauses of what is put
together stand in order, and the SQL has them in that order. -/
theorem compile_accepts_grammar (first : Step) (rest : List Step) :
    let steps := first :: rest
    ((∃ r, compile steps = .ok r) ↔ steps ∈ legal) ∧
      (∀ index, compile steps = .error ⟨index⟩ ↔
        FailsAt steps index ∨
          (index = steps.length ∧ Completable steps ∧
            ∃ target, steps.getLast? = some (.onConflict target))) ∧
      ∀ d, draft steps = .ok d → d.WellFormed ∧
        ∀ f, d.below.render = .ok f → f = Template.instantiate 0 d.below.ordered := by
  rw [← and_assoc]
  refine ⟨?_, fun d hd => ⟨wellFormed_draft hd, fun f hf => ?_⟩⟩
  case refine_2 => exact (wellFormed_draft hd).below.render_eq_ordered hf
  have hcases := draft_cases first rest
  generalize first :: rest = steps at hcases ⊢
  obtain ⟨d, hdraft, hquotient⟩ | ⟨k, hdraft, hfails⟩ := hcases
  · have hlegal : steps ∈ legal ↔ d.isPending = false := by
      rw [← d.nil_mem_rest_iff, ← hquotient, Language.mem_leftQuotient, List.append_nil]
    have hcompletable : Completable steps := by
      rw [completable_iff, hquotient]
      exact d.exists_mem_rest
    rw [hlegal, ← isPending_draft hdraft]
    cases hpending : d.isPending with
    | false =>
      obtain ⟨r, hr⟩ := compile_of_not_pending hdraft hpending
      simp [hr, hcompletable.not_failsAt]
    | true =>
      simp [compile_of_pending hdraft hpending, hcompletable, hcompletable.not_failsAt, eq_comm]
  · have hcompile : compile steps = .error ⟨k⟩ := by rw [compile, hdraft]
    have hlegal : steps ∉ legal := fun h => hfails.not_completable (completable_of_mem h)
    have hindex (index : Nat) : FailsAt steps index ↔ k = index :=
      ⟨hfails.unique, fun h => h ▸ hfails⟩
    simp [hcompile, hlegal, hindex, hfails.not_completable]

end Chain

end PreparedSql
