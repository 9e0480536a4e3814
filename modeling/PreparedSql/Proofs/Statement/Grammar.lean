import Mathlib.Computability.MyhillNerode
import PreparedSql.Proofs.Statement.ClauseOrder

/-!
# The grammar of chains

The legal chains as a language over steps, put together from one language for each clause. What may
follow a draft is a language as well, and a step leads from a draft to one that may be followed by
just what may come after the step (`Draft.leftQuotient_rest`).
-/
namespace PreparedSql

open Computability

namespace Chain

def oneOf (kind : Step → Bool) : Language Step :=
  {steps | ∃ step, kind step = true ∧ steps = [step]}

def optionally (l : Language Step) : Language Step :=
  1 + l

section Quotients

variable (kind : Step → Bool) (l m : Language Step) (step : Step)

theorem leftQuotient_one : (1 : Language Step).leftQuotient [step] = 0 := by
  ext steps
  simp [Language.mem_leftQuotient, Language.mem_one]

theorem leftQuotient_add :
    (l + m).leftQuotient [step] = l.leftQuotient [step] + m.leftQuotient [step] :=
  rfl

theorem leftQuotient_oneOf_mul :
    (oneOf kind * l).leftQuotient [step] = if kind step then l else 0 := by
  ext steps
  rw [Language.mem_leftQuotient, Language.mem_mul]
  constructor
  · rintro ⟨-, ⟨s, hs, rfl⟩, later, hlater, heq⟩
    obtain ⟨rfl, rfl⟩ := List.cons.inj heq
    rwa [if_pos hs]
  · intro hsteps
    split at hsteps
    · next hstep => exact ⟨[step], ⟨step, hstep, rfl⟩, steps, hsteps, rfl⟩
    · exact absurd hsteps (Language.notMem_zero steps)

theorem leftQuotient_oneOf : (oneOf kind).leftQuotient [step] = if kind step then 1 else 0 := by
  rw [← mul_one (oneOf kind), leftQuotient_oneOf_mul]

theorem leftQuotient_optionally : (optionally l).leftQuotient [step] = l.leftQuotient [step] := by
  rw [optionally, leftQuotient_add, leftQuotient_one, zero_add]

theorem leftQuotient_optionally_mul :
    (optionally l * m).leftQuotient [step] =
      m.leftQuotient [step] + (l * m).leftQuotient [step] := by
  rw [optionally, add_mul, one_mul, leftQuotient_add]

theorem leftQuotient_kstar : l∗.leftQuotient [step] = (l * l∗).leftQuotient [step] := by
  nth_rewrite 1 [← Language.one_add_self_mul_kstar_eq_kstar l]
  rw [leftQuotient_add, leftQuotient_one, zero_add]

theorem leftQuotient_kstar_mul :
    (l∗ * m).leftQuotient [step] = m.leftQuotient [step] + (l * (l∗ * m)).leftQuotient [step] := by
  nth_rewrite 1 [← Language.one_add_self_mul_kstar_eq_kstar l]
  rw [add_mul, one_mul, leftQuotient_add, mul_assoc]

end Quotients

abbrev selection : Language Step :=
  oneOf fun | .column _ | .columns _ | .distinct => true | _ => false

abbrev nickname : Language Step :=
  oneOf fun | .nickname _ => true | _ => false

abbrev join : Language Step :=
  oneOf (fun | .join _ _ _ _ => true | _ => false) * nickname∗

abbrev condition : Language Step :=
  oneOf fun | .condition _ => true | _ => false

abbrev filter : Language Step :=
  oneOf (fun | .filter | .filterWith _ => true | _ => false) * condition∗

abbrev paginate : Language Step :=
  oneOf fun | .paginate _ _ _ => true | _ => false

abbrev thenBy : Language Step :=
  oneOf fun | .thenBy _ => true | _ => false

abbrev sorting : Language Step :=
  oneOf (fun | .orderBy _ => true | _ => false) * thenBy∗

abbrev bound : Language Step :=
  oneOf fun | .limit _ | .offset _ => true | _ => false

abbrev window : Language Step :=
  oneOf (fun | .limit _ | .offset _ | .window _ => true | _ => false) * bound∗

abbrev argument : Language Step :=
  oneOf fun | .argument _ => true | _ => false

abbrev wrapping : Language Step :=
  oneOf (fun | .existence => true | _ => false) +
    oneOf (fun | .call _ => true | _ => false) * argument∗

abbrev setter : Language Step :=
  oneOf fun | .assign _ _ | .assignOptional _ _ => true | _ => false

abbrev conflictSetter : Language Step :=
  oneOf fun | .assign _ _ | .assignOptional _ _ | .assignExcluded _ => true | _ => false

abbrev conflictAction : Language Step :=
  oneOf (fun | .doNothing => true | _ => false) +
    oneOf (fun | .doUpdate => true | _ => false) * conflictSetter∗

abbrev conflict : Language Step :=
  oneOf (fun | .onConflict _ => true | _ => false) * conflictAction

abbrev returning : Language Step :=
  oneOf fun | .returning _ => true | _ => false

/-- What may follow the rows of a SELECT: a page of them, which is the end, or else an order, a part
of them and a use of the whole. -/
abbrev afterRows : Language Step :=
  paginate + optionally sorting * (optionally window * optionally wrapping)

abbrev afterJoins : Language Step :=
  join∗ * (optionally filter * afterRows)

def selectChain : Language Step :=
  oneOf (fun | .select _ | .selectCount _ => true | _ => false) * (selection∗ * afterJoins)

def insertChain : Language Step :=
  oneOf (fun | .insert _ => true | _ => false) *
    (setter∗ * (optionally conflict * optionally returning))

def updateChain : Language Step :=
  oneOf (fun | .update _ => true | _ => false) *
    (setter∗ * (optionally filter * optionally returning))

def deleteChain : Language Step :=
  oneOf (fun | .delete _ => true | _ => false) * (optionally filter * optionally returning)

def legal : Language Step :=
  selectChain + insertChain + updateChain + deleteChain

end Chain

open Chain

namespace Root

def rest : Root → Language Step
  | select _ => selection∗ * afterJoins
  | insert _ _ => setter∗ * (optionally conflict * optionally returning)
  | update _ _ => setter∗ * (optionally filter * optionally returning)
  | delete _ => optionally filter * optionally returning

end Root

namespace Clause

/-- What may follow a clause of a statement with the given root: what adds to it, then others. -/
def rest (root : Root) : Clause → Language Step
  | join _ => nickname∗ * afterJoins
  | filter _ => condition∗ * if root.isSelect then afterRows else optionally Chain.returning
  | orderBy _ => thenBy∗ * (optionally window * optionally wrapping)
  | limit _ => bound∗ * optionally wrapping
  | existence => 1
  | call _ _ => argument∗
  | onConflict _ .nothing => optionally Chain.returning
  | onConflict _ (.update _) => conflictSetter∗ * optionally Chain.returning
  | returning _ => 1

end Clause

namespace Statement

def rest (s : Statement) : Language Step :=
  match s.clauses with
  | [] => s.root.rest
  | c :: _ => c.rest s.root

end Statement

namespace Draft

/-- What may follow a draft, so that the whole is a legal chain. -/
def rest : Draft → Language Step
  | statement s => s.rest
  | pendingConflict _ _ => conflictAction * optionally returning
  | page _ => 1

variable (step : Step)

def restAfter (d : Draft) : Language Step :=
  (d.step step).elim 0 rest

theorem leftQuotient_rest_root (root : Root) :
    root.rest.leftQuotient [step] = (statement (.ofRoot root)).restAfter step := by
  cases root with
  | select _ | insert _ _ | update _ _ | delete _ =>
    simp only [Root.rest, leftQuotient_add, leftQuotient_kstar_mul, leftQuotient_optionally_mul,
      leftQuotient_optionally, leftQuotient_oneOf_mul, leftQuotient_oneOf, mul_assoc]
    cases step <;> simp only [if_true, Bool.false_eq_true, if_false, add_zero, zero_add] <;> rfl

theorem leftQuotient_rest_of_select (selected : Selection) (c : Clause) (older : List Clause)
    (hfits : c.kind.fits (.select selected) = true) :
    (c.rest (.select selected)).leftQuotient [step] =
      (statement ⟨.select selected, c :: older⟩).restAfter step := by
  cases c with
  | join _ | filter _ | orderBy _ | limit _ =>
    simp only [Clause.rest, Root.isSelect, if_true, leftQuotient_add, leftQuotient_kstar_mul,
      leftQuotient_optionally_mul, leftQuotient_optionally, leftQuotient_oneOf_mul,
      leftQuotient_oneOf, mul_assoc]
    cases step <;> simp only [if_true, Bool.false_eq_true, if_false, add_zero, zero_add] <;> rfl
  | existence =>
    rw [Clause.rest, leftQuotient_one]
    cases step <;> rfl
  | call _ _ =>
    rw [Clause.rest, leftQuotient_kstar, leftQuotient_oneOf_mul]
    cases step <;> rfl
  | onConflict _ _ | returning _ => cases hfits

theorem leftQuotient_rest_of_insert (table : String) (assignments : List Assignment) (c : Clause)
    (older : List Clause) (hfits : c.kind.fits (.insert table assignments) = true) :
    (c.rest (.insert table assignments)).leftQuotient [step] =
      (statement ⟨.insert table assignments, c :: older⟩).restAfter step := by
  cases c with
  | onConflict _ action =>
    cases action with
    | nothing =>
      rw [Clause.rest, leftQuotient_optionally, leftQuotient_oneOf]
      cases step <;> rfl
    | update _ =>
      rw [Clause.rest, leftQuotient_kstar_mul, leftQuotient_optionally, leftQuotient_oneOf_mul,
        leftQuotient_oneOf]
      cases step <;> simp only [if_true, Bool.false_eq_true, if_false, add_zero, zero_add] <;> rfl
  | returning _ =>
    rw [Clause.rest, leftQuotient_one]
    cases step <;> rfl
  | join _ | filter _ | orderBy _ | limit _ | existence | call _ _ => cases hfits

theorem leftQuotient_rest_of_change {root : Root} (hselect : root.isSelect = false)
    (hinsert : root.isInsert = false) (c : Clause) (older : List Clause)
    (hfits : c.kind.fits root = true) :
    (c.rest root).leftQuotient [step] = (statement ⟨root, c :: older⟩).restAfter step := by
  cases c with
  | filter _ =>
    rw [Clause.rest, hselect, if_neg Bool.false_ne_true, leftQuotient_kstar_mul,
      leftQuotient_optionally, leftQuotient_oneOf_mul, leftQuotient_oneOf]
    cases root with
    | select _ => cases hselect
    | insert _ _ => cases hinsert
    | update _ _ | delete _ =>
      cases step <;> simp only [if_true, Bool.false_eq_true, if_false, add_zero, zero_add] <;> rfl
  | returning _ =>
    rw [Clause.rest, leftQuotient_one]
    cases root <;> cases step <;> rfl
  | join _ | orderBy _ | limit _ | existence | call _ _ =>
    exact absurd (hselect ▸ hfits) Bool.false_ne_true
  | onConflict _ _ => exact absurd (hinsert ▸ hfits) Bool.false_ne_true

/-- A step that fits leads to what may follow it, and nothing may follow one that does not fit. -/
theorem leftQuotient_rest {d : Draft} (hd : d.WellFormed) :
    d.rest.leftQuotient [step] = d.restAfter step := by
  cases d with
  | statement s =>
    obtain ⟨root, clauses⟩ := s
    cases clauses with
    | nil => exact leftQuotient_rest_root step root
    | cons c older =>
      have hfits : c.kind.fits root = true := hd.fits c List.mem_cons_self
      cases root with
      | select selected => exact leftQuotient_rest_of_select step selected c older hfits
      | insert table assignments =>
        exact leftQuotient_rest_of_insert step table assignments c older hfits
      | update _ _ | delete _ => exact leftQuotient_rest_of_change step rfl rfl c older hfits
  | pendingConflict s target =>
    simp only [rest, add_mul, mul_assoc, leftQuotient_add, leftQuotient_oneOf_mul]
    cases step <;> simp only [if_true, Bool.false_eq_true, if_false, add_zero, zero_add] <;> rfl
  | page r =>
    rw [rest, leftQuotient_one]
    cases step <;> rfl

end Draft

namespace Chain

theorem leftQuotient_legal (step : Step) :
    legal.leftQuotient [step] = (Draft.start step).elim 0 Draft.rest := by
  simp only [legal, selectChain, insertChain, updateChain, deleteChain, leftQuotient_add,
    leftQuotient_oneOf_mul]
  cases step <;> simp only [if_true, Bool.false_eq_true, if_false, add_zero, zero_add] <;> rfl

end Chain

end PreparedSql
