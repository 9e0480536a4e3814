import PreparedSql.Proofs.Statement.Prefixes
import PreparedSql.Proofs.Statement.Steps
import PreparedSql.Proofs.Template.Statement

/-!
# The order of clauses

The clauses of a draft fit its root and stand in one order: joins, the filter, the order of the
rows, the part of them, and last what the whole is used for. A step keeps this
(`Statement.wellFormed_step`), so it holds of the draft of every chain (`Chain.wellFormed_draft`).
The SQL has the clauses in this order too (`Statement.WellFormed.render_eq_ordered`).
-/
namespace PreparedSql

open Template

inductive ClauseKind
  | join
  | conflict
  | filter
  | order
  | limit
  | wrapping
  | returning
  deriving DecidableEq, Repr

namespace Root

def isInsert : Root → Bool
  | insert _ _ => true
  | _ => false

theorem isInsert_of_isSelect {root : Root} (h : root.isSelect = true) : root.isInsert = false := by
  cases root with
  | select s => rfl
  | _ => cases h

theorem isSelect_of_isInsert {root : Root} (h : root.isInsert = true) : root.isSelect = false := by
  cases root with
  | insert table assignments => rfl
  | _ => cases h

end Root

namespace ClauseKind

/-- Joins and the use of rows are for SELECT, a conflict is for INSERT, and changed rows are
returned of all but SELECT. -/
def fits (root : Root) : ClauseKind → Bool
  | join | order | limit | wrapping => root.isSelect
  | conflict => root.isInsert
  | filter => !root.isInsert
  | returning => !root.isSelect

def place : ClauseKind → Nat
  | join => 0
  | conflict | filter => 1
  | order => 2
  | limit => 3
  | wrapping | returning => 4

theorem eq_join_of_place {k : ClauseKind} (h : k.place ≤ 0) : k = join := by
  cases k with
  | join => rfl
  | _ => exact absurd h (Nat.not_succ_le_zero _)

/-- Only joins are repeated. -/
def Precedes (earlier later : ClauseKind) : Prop :=
  earlier.place < later.place ∨ (earlier = join ∧ later = join)

theorem Precedes.trans {a b c : ClauseKind} (hab : a.Precedes b) (hbc : b.Precedes c) :
    a.Precedes c := by
  obtain hab | ⟨rfl, rfl⟩ := hab
  · obtain hbc | ⟨rfl, rfl⟩ := hbc
    · exact .inl (Nat.lt_trans hab hbc)
    · exact .inl hab
  · exact hbc

end ClauseKind

namespace Clause

def kind : Clause → ClauseKind
  | join _ => .join
  | filter _ => .filter
  | orderBy _ => .order
  | limit _ => .limit
  | existence | call _ _ => .wrapping
  | onConflict _ _ => .conflict
  | returning _ => .returning

end Clause

namespace Statement

/-- Every clause fits the root and comes after those that precede it; the latest stands first. -/
structure WellFormed (s : Statement) : Prop where
  fits : ∀ c ∈ s.clauses, c.kind.fits s.root = true
  order : s.clauses.Pairwise fun later earlier => earlier.kind.Precedes later.kind

variable {s e : Statement}

theorem wellFormed_ofRoot (root : Root) : (ofRoot root).WellFormed :=
  ⟨nofun, .nil⟩

/-- Nothing changes if a clause is replaced by another of its kind. -/
theorem WellFormed.replace {root : Root} {c new : Clause} {older : List Clause}
    (h : WellFormed ⟨root, c :: older⟩) (hkind : new.kind = c.kind) :
    WellFormed ⟨root, new :: older⟩ := by
  obtain ⟨hfits, horder⟩ := h
  obtain ⟨hc, holder⟩ := List.forall_mem_cons.mp hfits
  obtain ⟨hbelow, horder⟩ := List.pairwise_cons.mp horder
  exact ⟨List.forall_mem_cons.mpr ⟨hkind ▸ hc, holder⟩,
    List.pairwise_cons.mpr ⟨hkind ▸ hbelow, horder⟩⟩

def LatestAtMost (s : Statement) (n : Nat) : Prop :=
  ∀ c ∈ s.clauses.head?, c.kind.place ≤ n

theorem LatestAtMost.mono {m n : Nat} (h : s.LatestAtMost m) (hmn : m ≤ n) : s.LatestAtMost n :=
  fun c hc => Nat.le_trans (h c hc) hmn

/-- A clause can be put on if it may follow the latest one. -/
theorem WellFormed.push {c : Clause} (h : s.WellFormed) (hfits : c.kind.fits s.root = true)
    (hlatest : ∀ latest ∈ s.clauses.head?, latest.kind.Precedes c.kind) :
    (s.push c).WellFormed := by
  refine ⟨List.forall_mem_cons.mpr ⟨hfits, h.fits⟩, List.pairwise_cons.mpr ⟨?_, h.order⟩⟩
  obtain ⟨root, clauses⟩ := s
  intro earlier hearlier
  cases clauses with
  | nil => cases hearlier
  | cons latest older =>
    have hc : latest.kind.Precedes c.kind := hlatest latest rfl
    obtain rfl | hmem := List.mem_cons.mp hearlier
    · exact hc
    · exact ((List.pairwise_cons.mp h.order).1 earlier hmem).trans hc

theorem WellFormed.push_of_latestAtMost {n : Nat} {c : Clause} (h : s.WellFormed)
    (hfits : c.kind.fits s.root = true) (hlatest : s.LatestAtMost n) (hc : n < c.kind.place) :
    (s.push c).WellFormed :=
  h.push hfits fun latest hmem => .inl (Nat.lt_of_le_of_lt (hlatest latest hmem) hc)

theorem latest_of_joinable (h : s.WellFormed) (hs : s.joinable = true) :
    s.root.isSelect = true ∧ s.LatestAtMost 0 := by
  obtain ⟨root, clauses⟩ := s
  cases clauses with
  | nil => exact ⟨hs, nofun⟩
  | cons c older =>
    cases c with
    | join j =>
      refine ⟨h.fits _ List.mem_cons_self, ?_⟩
      rintro _ ⟨⟩
      exact Nat.le_refl _
    | _ => cases hs

theorem latest_of_filterable (h : s.WellFormed) (hs : s.filterable = true) :
    s.root.isInsert = false ∧ s.LatestAtMost 0 := by
  obtain ⟨root, clauses⟩ := s
  cases clauses with
  | nil =>
    cases root with
    | insert table assignments => cases hs
    | select _ | update _ _ | delete _ => exact ⟨rfl, nofun⟩
  | cons c older =>
    cases c with
    | join j =>
      obtain ⟨hselect, hlatest⟩ := latest_of_joinable h rfl
      exact ⟨Root.isInsert_of_isSelect hselect, hlatest⟩
    | _ => cases hs

theorem latest_of_orderable (h : s.WellFormed) (hs : s.orderable = true) :
    s.root.isSelect = true ∧ s.LatestAtMost 1 := by
  obtain ⟨root, clauses⟩ := s
  unfold orderable at hs
  split at hs
  · next p older hclauses =>
    obtain rfl : clauses = _ := hclauses
    refine ⟨hs, ?_⟩
    rintro _ ⟨⟩
    exact Nat.le_refl _
  · obtain ⟨hselect, hlatest⟩ := latest_of_joinable h hs
    exact ⟨hselect, hlatest.mono (Nat.zero_le 1)⟩

theorem latest_of_limitable (h : s.WellFormed) (hs : s.limitable = true) :
    s.root.isSelect = true ∧ s.LatestAtMost 2 := by
  obtain ⟨root, clauses⟩ := s
  unfold limitable at hs
  split at hs
  · next terms older hclauses =>
    obtain rfl : clauses = _ := hclauses
    refine ⟨h.fits _ List.mem_cons_self, ?_⟩
    rintro _ ⟨⟩
    exact Nat.le_refl _
  · obtain ⟨hselect, hlatest⟩ := latest_of_orderable h hs
    exact ⟨hselect, hlatest.mono (Nat.le_succ 1)⟩

theorem latest_of_wrappable (h : s.WellFormed) (hs : s.wrappable = true) :
    s.root.isSelect = true ∧ s.LatestAtMost 3 := by
  obtain ⟨root, clauses⟩ := s
  unfold wrappable at hs
  split at hs
  · next w older hclauses =>
    obtain rfl : clauses = _ := hclauses
    refine ⟨h.fits _ List.mem_cons_self, ?_⟩
    rintro _ ⟨⟩
    exact Nat.le_refl _
  · obtain ⟨hselect, hlatest⟩ := latest_of_limitable h hs
    exact ⟨hselect, hlatest.mono (Nat.le_succ 2)⟩

theorem latest_of_returnable (h : s.WellFormed) (hs : s.returnable = true) :
    s.root.isSelect = false ∧ s.LatestAtMost 1 := by
  obtain ⟨root, clauses⟩ := s
  cases clauses with
  | nil => exact ⟨Bool.not_eq_true' _ ▸ hs, nofun⟩
  | cons c older =>
    cases c with
    | filter p =>
      refine ⟨Bool.not_eq_true' _ ▸ hs, ?_⟩
      rintro _ ⟨⟩
      exact Nat.le_refl _
    | onConflict target action =>
      have hinsert : root.isInsert = true := h.fits _ List.mem_cons_self
      refine ⟨Root.isSelect_of_isInsert hinsert, ?_⟩
      rintro _ ⟨⟩
      exact Nat.le_refl _
    | _ => cases hs

theorem wellFormed_pushIf {admitted : Bool} {c : Clause} (h : s.pushIf admitted c = some e)
    (hpush : admitted = true → (s.push c).WellFormed) : e.WellFormed := by
  obtain ⟨hadmitted, rfl⟩ := pushIf_eq_some_iff.mp h
  exact hpush hadmitted

theorem wellFormed_onSelection {change : Selection → Selection}
    (h : s.onSelection change = some e) : e.WellFormed := by
  obtain ⟨x, -, rfl⟩ := onSelection_eq_some h
  exact wellFormed_ofRoot _

theorem wellFormed_addAssignments {added : List Assignment} (hs : s.WellFormed)
    (h : s.addAssignments added = some e) : e.WellFormed := by
  obtain ⟨table, assignments, -, rfl⟩ | ⟨table, assignments, -, rfl⟩ |
    ⟨root, target, assignments, older, rfl, rfl⟩ := addAssignments_eq_some h
  · exact wellFormed_ofRoot _
  · exact wellFormed_ofRoot _
  · exact hs.replace rfl

theorem WellFormed.push_limit (hs : s.WellFormed) (w : Window) (h : s.limitable = true) :
    (s.push (.limit w)).WellFormed :=
  hs.push_of_latestAtMost (latest_of_limitable hs h).1 (latest_of_limitable hs h).2
    (Nat.lt_succ_self 2)

theorem wellFormed_onWindow {change : Window → Window} (hs : s.WellFormed)
    (h : s.onWindow change = some e) : e.WellFormed := by
  obtain ⟨root, w, older, rfl, rfl⟩ | ⟨hlimitable, rfl⟩ := onWindow_eq_some h
  · exact hs.replace rfl
  · exact hs.push_limit _ hlimitable

/-- A step keeps the order of the clauses. -/
theorem wellFormed_step {step : Step} (hs : s.WellFormed) (h : s.step step = some e) :
    e.WellFormed := by
  cases step with
  | column _ | columns _ | distinct => exact wellFormed_onSelection h
  | assign _ _ | assignOptional _ _ => exact wellFormed_addAssignments hs h
  | assignExcluded _ => exact wellFormed_addAssignments hs (assignExcluded_eq_some h)
  | limit _ | offset _ => exact wellFormed_onWindow hs h
  | window w => exact wellFormed_pushIf h (hs.push_limit w)
  | join kind table left right =>
    refine wellFormed_pushIf h fun hjoinable => ?_
    obtain ⟨hselect, hlatest⟩ := latest_of_joinable hs hjoinable
    exact hs.push hselect fun c hc => .inr ⟨ClauseKind.eq_join_of_place (hlatest c hc), rfl⟩
  | filter | filterWith _ =>
    refine wellFormed_pushIf h fun hfilterable => ?_
    obtain ⟨hinsert, hlatest⟩ := latest_of_filterable hs hfilterable
    exact hs.push_of_latestAtMost (by simpa [Clause.kind, ClauseKind.fits] using hinsert) hlatest
      Nat.zero_lt_one
  | orderBy term =>
    refine wellFormed_pushIf h fun horderable => ?_
    obtain ⟨hselect, hlatest⟩ := latest_of_orderable hs horderable
    exact hs.push_of_latestAtMost hselect hlatest (Nat.lt_succ_self 1)
  | existence | call _ =>
    refine wellFormed_pushIf h fun hwrappable => ?_
    obtain ⟨hselect, hlatest⟩ := latest_of_wrappable hs hwrappable
    exact hs.push_of_latestAtMost hselect hlatest (Nat.lt_succ_self 3)
  | returning columns =>
    refine wellFormed_pushIf h fun hreturnable => ?_
    obtain ⟨hselect, hlatest⟩ := latest_of_returnable hs hreturnable
    exact hs.push_of_latestAtMost (by simpa [Clause.kind, ClauseKind.fits] using hselect) hlatest
      (show 1 < 4 by decide)
  | nickname name =>
    obtain ⟨root, j, older, rfl, rfl⟩ := nickname_eq_some h
    exact hs.replace rfl
  | condition step =>
    obtain ⟨root, p, older, rfl, rfl⟩ := condition_eq_some h
    exact hs.replace rfl
  | thenBy term =>
    obtain ⟨root, terms, older, rfl, rfl⟩ := thenBy_eq_some h
    exact hs.replace rfl
  | argument sql =>
    obtain ⟨root, function, arguments, older, rfl, rfl⟩ := argument_eq_some h
    exact hs.replace rfl
  | _ => cases h

theorem clauses_of_admitsConflict (h : s.admitsConflict = true) : s.clauses = [] := by
  unfold admitsConflict at h
  split at h
  · next hclauses => exact hclauses
  · cases h

/-- An INSERT without clauses admits what is to happen on a conflict. -/
theorem WellFormed.push_conflict (h : s.admitsConflict = true) (target : List String)
    (action : ConflictAction) : (s.push (.onConflict target action)).WellFormed := by
  obtain ⟨root, clauses⟩ := s
  unfold admitsConflict at h
  split at h
  · next table assignments hroot hclauses =>
    obtain rfl : root = _ := hroot
    obtain rfl : clauses = _ := hclauses
    exact (wellFormed_ofRoot (.insert table assignments)).push rfl nofun
  · cases h

/-- An INSERT, UPDATE or DELETE is used for nothing else as a whole. -/
theorem WellFormed.ne_wrapping (h : s.WellFormed) (hs : s.root.isSelect = false) :
    ∀ c ∈ s.clauses, c.kind ≠ .wrapping := by
  intro c hc hkind
  have hfits := h.fits c hc
  rw [hkind] at hfits
  exact Bool.noConfusion (hs.symm.trans hfits)

/-- A conflict is the first clause of an INSERT. -/
theorem WellFormed.exists_insert_of_conflict {target : List String} {action : ConflictAction}
    (h : s.WellFormed) (hmem : .onConflict target action ∈ s.clauses) :
    ∃ table inserted newer,
      s = ⟨.insert table inserted, newer ++ [.onConflict target action]⟩ := by
  obtain ⟨root, clauses⟩ := s
  obtain ⟨newer, older, rfl⟩ := List.append_of_mem hmem
  cases root with
  | insert table inserted =>
    cases older with
    | nil => exact ⟨table, inserted, newer, rfl⟩
    | cons c older =>
      have hc : c ∈ newer ++ .onConflict target action :: c :: older := by simp
      have hbelow := (List.pairwise_cons.mp (List.pairwise_append.mp h.order).2.1).1
      have hjoin : c.kind = .join := by
        obtain hplace | ⟨-, hconflict⟩ := hbelow c List.mem_cons_self
        · exact ClauseKind.eq_join_of_place (Nat.le_of_lt_succ hplace)
        · cases hconflict
      have hfits := h.fits c hc
      rw [hjoin] at hfits
      cases hfits
  | select _ | update _ _ | delete _ => cases h.fits _ hmem

end Statement

/-! ## The clauses in the SQL -/

namespace Clause

/-- A clause is written behind what is below it, unless it uses that as a part of something else. -/
theorem template_eq_append {c : Clause} (h : c.kind ≠ .wrapping) (below : Template) :
    c.template below = below ++ c.template [] := by
  cases c with
  | existence => exact absurd rfl h
  | call function arguments => exact absurd rfl h
  | onConflict target action => cases action <;> rfl
  | join _ | filter _ | orderBy _ | limit _ | returning _ => rfl

theorem exists_template_nil_eq {c : Clause} (h : c.kind ≠ .wrapping) :
    ∃ own, c.template [] = .text " " :: own := by
  cases c with
  | existence => exact absurd rfl h
  | call function arguments => exact absurd rfl h
  | onConflict target action => cases action <;> exact ⟨_, rfl⟩
  | join _ | filter _ | orderBy _ | limit _ | returning _ => exact ⟨_, rfl⟩

end Clause

namespace Statement

variable {s : Statement}

/-- Clauses behind something, the first one first. -/
def behind (below : Template) (clauses : List Clause) : Template :=
  below ++ clauses.reverse.flatMap (·.template [])

theorem templateClauses_append (root : Root) {added : List Clause} (clauses : List Clause)
    (h : ∀ c ∈ added, c.kind ≠ .wrapping) :
    templateClauses root (added ++ clauses) = behind (templateClauses root clauses) added := by
  induction added with
  | nil => simp [behind]
  | cons c added ih =>
    obtain ⟨hc, hrest⟩ := List.forall_mem_cons.mp h
    rw [List.cons_append, templateClauses, Clause.template_eq_append hc, ih hrest]
    simp [behind]

theorem templateClauses_eq_behind (root : Root) {clauses : List Clause}
    (h : ∀ c ∈ clauses, c.kind ≠ .wrapping) :
    templateClauses root clauses = behind root.template clauses := by
  simpa [templateClauses] using templateClauses_append root [] h

/-- The root with every clause behind those before it. One that uses the whole is around it. -/
def ordered : Statement → Template
  | ⟨root, []⟩ => root.template
  | ⟨root, c :: older⟩ =>
    if c.kind = .wrapping then c.template (behind root.template older)
    else behind root.template (c :: older)

/-- Nothing is put on a clause that uses the whole. -/
theorem WellFormed.ne_wrapping_of_older {root : Root} {c : Clause} {older : List Clause}
    (h : WellFormed ⟨root, c :: older⟩) : ∀ earlier ∈ older, earlier.kind ≠ .wrapping := by
  intro earlier hmem hwrapping
  obtain hplace | ⟨hjoin, -⟩ := (List.pairwise_cons.mp h.order).1 earlier hmem
  · rw [hwrapping] at hplace
    exact absurd hplace (by cases c.kind <;> decide)
  · cases hwrapping.symm.trans hjoin

theorem WellFormed.template_eq_ordered (h : s.WellFormed) : s.template = s.ordered := by
  obtain ⟨root, clauses⟩ := s
  cases clauses with
  | nil => rfl
  | cons c older =>
    have holder := h.ne_wrapping_of_older
    by_cases hc : c.kind = .wrapping
    · rw [ordered, if_pos hc, template, templateClauses,
        templateClauses_eq_behind root holder]
    · rw [ordered, if_neg hc]
      exact templateClauses_eq_behind root (List.forall_mem_cons.mpr ⟨hc, holder⟩)

/-- Clauses stand in the SQL in their order. -/
theorem WellFormed.render_eq_ordered {f : Fragment} (h : s.WellFormed) (hf : s.render = .ok f) :
    f = instantiate 0 s.ordered := by
  rw [s.render_eq, h.template_eq_ordered] at hf
  cases hcheck : s.check with
  | error fault => simp [hcheck, Except.map] at hf
  | ok _ => simpa [hcheck, Except.map, eq_comm] using hf

end Statement

namespace Draft

def below : Draft → Statement
  | statement s | pendingConflict s _ => s
  | page r => r.inner

/-- The statement of a draft is well formed. A conflict is left pending on an INSERT only. -/
def WellFormed : Draft → Prop
  | statement s => s.WellFormed
  | pendingConflict s _ => s.admitsConflict = true
  | page r => r.inner.WellFormed

theorem WellFormed.below {d : Draft} (h : d.WellFormed) : d.below.WellFormed := by
  cases d with
  | statement s => exact h
  | pendingConflict s target =>
    obtain ⟨root, clauses⟩ := s
    obtain rfl : clauses = [] := Statement.clauses_of_admitsConflict h
    exact Statement.wellFormed_ofRoot root
  | page r => exact h

theorem wellFormed_start {first : Step} {d : Draft} (h : start first = some d) : d.WellFormed := by
  cases first with
  | select _ | selectCount _ | insert _ | update _ | delete _ =>
    obtain rfl := Option.some.inj h
    exact Statement.wellFormed_ofRoot _
  | _ => cases h

theorem wellFormed_step {d e : Draft} {step : Step} (hd : d.WellFormed)
    (h : d.step step = some e) : e.WellFormed := by
  cases effect_of_step h with
  | statement hs => exact Statement.wellFormed_step hd hs
  | onConflict target hconflict => exact hconflict
  | doNothing s target | doUpdate s target => exact Statement.WellFormed.push_conflict hd target _
  | paginate _ _ _ _ => exact hd

end Draft

namespace Chain

theorem wellFormed_draft {steps : List Step} {d : Draft} (h : draft steps = .ok d) :
    d.WellFormed := by
  apply draft_invariant (fun _ => True) _ _ h fun _ _ => trivial
  · intro first d hstart _
    exact Draft.wellFormed_start hstart
  · intro d e step hd hstep _
    exact Draft.wellFormed_step hd hstep

end Chain

end PreparedSql
