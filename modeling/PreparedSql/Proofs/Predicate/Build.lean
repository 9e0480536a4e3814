import PreparedSql.Predicate.Build
import PreparedSql.Proofs.Predicate.Relocation

/-!
# Predicates behind a word

A predicate that is built behind a word comes out as it is written behind that number, as long as
its last placeholder has a number that is a word (`Predicate.build_eq`). Beyond that a program that
checks its sums stops, and in one that does not the placeholders start again from zero. So behind
two words a predicate comes out alike but for the placeholders, if both leave room for them
(`Predicate.build_relocates`).
-/
namespace PreparedSql

open Template

theorem Overflow.exists_add (mode : Overflow) {base : UInt64} {n : Nat}
    (h : base.toNat + n < UInt64.size) :
    ∃ sum, mode.add base n = some sum ∧ sum.toNat = base.toNat + n := by
  refine ⟨base + UInt64.ofNat n, if_neg fun hover => Nat.not_le.mpr h hover.2, ?_⟩
  rw [UInt64.toNat_add, UInt64.toNat_ofNat', Nat.add_mod_mod]
  exact Nat.mod_eq_of_lt h

theorem Overflow.add_stops {base : UInt64} {n : Nat} (h : UInt64.size ≤ base.toNat + n) :
    stops.add base n = none :=
  if_pos ⟨rfl, h⟩

namespace Leaf

def placed (l : Leaf) : Nat :=
  match l.check with
  | .ok _ => l.boundValues.length
  | .error _ => 0

variable {base : UInt64}

section Fits

variable (mode : Overflow)

theorem mark_eq {number : Nat} (h : base.toNat + number < UInt64.size) :
    mark mode base number = some (placeholder (base.toNat + number)) := by
  obtain ⟨sum, hadd, hsum⟩ := mode.exists_add h
  rw [mark, hadd, ← hsum]
  rfl

theorem marks_eq (values : List Value) {placed : Nat}
    (h : base.toNat + (placed + values.length) < UInt64.size) :
    marks mode base placed values =
      some (Fragment.placeholders (base.toNat + placed) values) := by
  induction values generalizing placed with
  | nil => rfl
  | cons v values ih =>
    rw [List.length_cons] at h
    rw [marks, mark_eq mode (by omega), ih (by omega)]
    rfl

theorem buildMembers_eq (column operator : String) (negated : Bool) {values : List Value}
    (h : base.toNat + values.length < UInt64.size) :
    buildMembers mode base column operator negated values =
      some (renderMembers base.toNat column operator negated values) := by
  cases values with
  | nil => rfl
  | cons v values =>
    rw [buildMembers, marks_eq mode (v :: values) (by omega)]
    · rfl
    · nofun

theorem buildValue_eq (l : Leaf) (operator : String) {v : Value}
    (h : l.checkValue v = .ok () → v.isNull = false → base.toNat + 1 < UInt64.size) :
    l.buildValue mode base operator v = some (l.renderValue base.toNat operator v) := by
  cases v with
  | null =>
    rw [buildValue, renderValue]
    split
    · rfl
    · split <;> rfl
  | list items => rfl
  | _ =>
    have hmark := mark_eq mode (h rfl rfl)
    simp [buildValue, renderValue, hmark, Fragment.ofValue, Fragment.wrap]

theorem placed_of_check {l : Leaf} (h : l.check = .ok ()) : l.placed = l.boundValues.length := by
  rw [placed, h]

theorem build_eq (l : Leaf) (h : base.toNat + l.placed < UInt64.size) :
    l.build mode base = some (l.render base.toNat) := by
  rw [build, render]
  cases hoperator : l.comparison.operator? with
  | none => rfl
  | some operator =>
    cases hoperand : l.operand with
    | raw sql => rfl
    | bound v =>
      dsimp only
      cases hmembership : l.comparison.membership with
      | true =>
        have hcheck : l.check = .ok () := by simp [check, hoperator, hoperand, hmembership]
        have hplaced : l.placed = (members v).length := by
          simp [placed_of_check hcheck, boundValues, hoperand, hmembership]
        rw [if_pos rfl, if_pos rfl, buildMembers_eq mode _ _ _ (by omega)]
        rfl
      | false =>
        rw [if_neg Bool.false_ne_true, if_neg Bool.false_ne_true]
        apply buildValue_eq
        intro hvalue hnull
        have hcheck : l.check = .ok () := by simp [check, hoperator, hoperand, hmembership, hvalue]
        have hplaced : l.placed = 1 := by
          simp [placed_of_check hcheck, boundValues, hoperand, hmembership, hnull]
        omega

end Fits

theorem mark_stops {number : Nat} (h : UInt64.size ≤ base.toNat + number) :
    mark .stops base number = none := by
  rw [mark, Overflow.add_stops h]
  rfl

/-- If all else has one, it is the last placeholder that there is no word for. -/
theorem marks_stops {values : List Value} (hne : values ≠ []) {placed : Nat}
    (h : UInt64.size ≤ base.toNat + (placed + values.length)) :
    marks .stops base placed values = none := by
  induction values generalizing placed with
  | nil => exact absurd rfl hne
  | cons v values ih =>
    rw [List.length_cons] at h
    rw [marks]
    by_cases hlast : values = []
    · subst hlast
      rw [mark_stops (by simpa using h)]
      rfl
    · rw [ih hlast (by omega)]
      cases mark .stops base (placed + 1) <;> rfl

theorem buildMembers_stops (column operator : String) (negated : Bool) {values : List Value}
    (h : UInt64.size ≤ base.toNat + values.length) :
    buildMembers .stops base column operator negated values = none := by
  cases values with
  | nil => exact absurd h (Nat.not_le.mpr base.toNat_lt_size)
  | cons v values =>
    rw [buildMembers, marks_stops (List.cons_ne_nil v values) (by omega)]
    · rfl
    · nofun

theorem buildValue_stops (l : Leaf) (operator : String) {v : Value} (hnull : v.isNull = false)
    (hlist : v.isList = false) (h : UInt64.size ≤ base.toNat + 1) :
    l.buildValue .stops base operator v = none := by
  have hmark : mark .stops base 1 = none := mark_stops h
  cases v with
  | null => cases hnull
  | list items => cases hlist
  | _ =>
    rw [buildValue, hmark]
    · rfl
    · nofun
    · nofun

theorem build_stops {l : Leaf} (h : UInt64.size ≤ base.toNat + l.placed) :
    l.build .stops base = none := by
  have hbase := base.toNat_lt_size
  have hcheck : l.check = .ok () := by
    cases hcheck : l.check with
    | ok _ => rfl
    | error fault =>
      rw [placed, hcheck] at h
      exact absurd h (Nat.not_le.mpr hbase)
  obtain ⟨operator, hoperator⟩ := exists_operator_of_check hcheck
  rw [placed_of_check hcheck, boundValues] at h
  rw [build, hoperator]
  cases hoperand : l.operand with
  | raw sql =>
    rw [hoperand] at h
    exact absurd h (Nat.not_le.mpr hbase)
  | bound v =>
    rw [hoperand] at h
    dsimp only at h ⊢
    cases hmembership : l.comparison.membership with
    | true =>
      rw [hmembership, if_pos rfl] at h
      rw [if_pos rfl, buildMembers_stops _ _ _ h]
      rfl
    | false =>
      obtain ⟨hlist, -⟩ := Compares.not_list ⟨hoperand, hmembership⟩ hcheck
      rw [hmembership, if_neg Bool.false_ne_true] at h
      rw [if_neg Bool.false_ne_true]
      cases hnull : v.isNull with
      | true =>
        rw [hnull, if_pos rfl] at h
        exact absurd h (Nat.not_le.mpr hbase)
      | false =>
        rw [hnull, if_neg Bool.false_ne_true] at h
        exact buildValue_stops l operator hnull hlist h

end Leaf

namespace Predicate

mutual

/-- The number of placeholders that are written up to the first fault. -/
def placed : Predicate → Nat
  | empty => 0
  | leaf l => l.placed
  | group _ children => if children.length < 2 then 0 else placedAll children

def placedAll : List Predicate → Nat
  | [] => 0
  | child :: children =>
    child.placed + match child.check with
      | .ok _ => placedAll children
      | .error _ => 0

end

mutual

theorem length_values_template {p : Predicate} (h : p.check = .ok ()) :
    (Template.values p.template).length = p.placed := by
  cases p with
  | empty => rfl
  | leaf l => rw [template, Leaf.values_template h, placed, Leaf.placed_of_check h]
  | group connective children =>
    rw [check] at h
    split at h
    · cases h
    · next hcount =>
      rw [template, values_text, values_append, values_joined, values_text, values_nil,
        List.append_nil, length_valuesOfAll_templates h, placed, if_neg hcount]

theorem length_valuesOfAll_templates {children : List Predicate}
    (h : checkAll children = .ok ()) :
    (Template.valuesOfAll (templates children)).length = placedAll children := by
  cases children with
  | nil => rfl
  | cons child children =>
    rw [checkAll] at h
    cases hchild : child.check with
    | error fault =>
      rw [hchild] at h
      cases h
    | ok _ =>
      rw [hchild] at h
      rw [templates, Template.valuesOfAll, List.flatMap_cons, List.length_append,
        length_values_template hchild, ← Template.valuesOfAll, length_valuesOfAll_templates h,
        placedAll, hchild]

end

theorem length_args_of_render {base : Nat} {p : Predicate} {f : Fragment}
    (h : p.render base = .ok f) : f.args.length = p.placed := by
  rw [render_eq] at h
  obtain ⟨hcheck, rfl⟩ := check_eq_ok_of_map h
  exact length_values_template hcheck

theorem placedAll_cons_of_render {base : Nat} {child : Predicate} {first : Fragment}
    (h : child.render base = .ok first) (children : List Predicate) :
    placedAll (child :: children) = first.args.length + placedAll children := by
  rw [length_args_of_render h]
  rw [render_eq] at h
  rw [placedAll, (check_eq_ok_of_map h).1]

theorem placedAll_cons_of_fault {base : Nat} {child : Predicate} {fault : Fault}
    (h : child.render base = .error fault) (children : List Predicate) :
    placedAll (child :: children) = child.placed := by
  rw [render_eq] at h
  cases hcheck : child.check with
  | ok _ =>
    rw [hcheck] at h
    cases h
  | error fault => rw [placedAll, hcheck, Nat.add_zero]

theorem buildChildren_cons {mode : Overflow} {base start : UInt64} {placed : Nat}
    (hstart : mode.add base placed = some start) (child : Predicate) (children : List Predicate) :
    buildChildren mode base placed (child :: children) =
      (build mode start child).bind fun
        | .error fault => some (.error fault)
        | .ok first =>
          (buildChildren mode base (placed + first.args.length) children).map fun later =>
            later.map fun (texts, args) => (first.sql :: texts, first.args ++ args) := by
  rw [buildChildren, hstart]
  simp only [Option.bind_eq_bind, Option.bind_some]
  congr 1
  funext result
  cases result with
  | error fault => rfl
  | ok first =>
    dsimp only
    rw [Option.map_eq_bind]
    rfl

mutual

theorem build_eq (mode : Overflow) (p : Predicate) (base : UInt64)
    (h : base.toNat + p.placed < UInt64.size) : p.build mode base = some (p.render base.toNat) := by
  cases p with
  | empty => rfl
  | leaf l => exact Leaf.build_eq mode l h
  | group connective children =>
    rw [build, render, connect]
    split
    · rfl
    · next hcount =>
      rw [placed, if_neg hcount, ← Nat.zero_add (placedAll children)] at h
      rw [buildChildren_eq mode children base 0 h, Nat.add_zero]
      cases renderChildren base.toNat children <;> rfl

theorem buildChildren_eq (mode : Overflow) (children : List Predicate) (base : UInt64)
    (placed : Nat) (h : base.toNat + (placed + placedAll children) < UInt64.size) :
    buildChildren mode base placed children =
      some (renderChildren (base.toNat + placed) children) := by
  cases children with
  | nil => rfl
  | cons child children =>
    have hle : child.placed ≤ placedAll (child :: children) := Nat.le_add_right _ _
    have hfits : base.toNat + placed < UInt64.size := by omega
    obtain ⟨start, hadd, hstart⟩ := mode.exists_add hfits
    rw [buildChildren_cons hadd, build_eq mode child start (by omega), hstart, renderChildren]
    cases hrender : child.render (base.toNat + placed) with
    | error fault => rfl
    | ok first =>
      rw [placedAll_cons_of_render hrender, ← Nat.add_assoc placed] at h
      have hrest := buildChildren_eq mode children base (placed + first.args.length) h
      rw [← Nat.add_assoc] at hrest
      change Option.map _ (buildChildren mode base (placed + first.args.length) children) = _
      rw [hrest]
      change some (Except.map _ (renderChildren _ children)) =
        some (renderChildren (base.toNat + placed + first.args.length) children >>= _)
      cases renderChildren (base.toNat + placed + first.args.length) children <;> rfl

end

mutual

theorem build_stops (p : Predicate) (base : UInt64) (h : UInt64.size ≤ base.toNat + p.placed) :
    p.build .stops base = none := by
  have hbase := base.toNat_lt_size
  cases p with
  | empty => exact absurd h (Nat.not_le.mpr hbase)
  | leaf l => exact Leaf.build_stops h
  | group connective children =>
    rw [placed] at h
    rw [build]
    split at h
    · exact absurd h (Nat.not_le.mpr hbase)
    · next hcount =>
      rw [← Nat.zero_add (placedAll children)] at h
      rw [if_neg hcount, buildChildren_stops children base 0 hbase h]
      rfl

/-- The first child that there is no room for stops the program. -/
theorem buildChildren_stops (children : List Predicate) (base : UInt64) (placed : Nat)
    (hplaced : base.toNat + placed < UInt64.size)
    (h : UInt64.size ≤ base.toNat + (placed + placedAll children)) :
    buildChildren .stops base placed children = none := by
  cases children with
  | nil => exact absurd h (Nat.not_le.mpr hplaced)
  | cons child children =>
    obtain ⟨start, hadd, hstart⟩ := Overflow.stops.exists_add hplaced
    rw [buildChildren_cons hadd]
    by_cases hroom : start.toNat + child.placed < UInt64.size
    · rw [build_eq .stops child start hroom]
      cases hrender : child.render start.toNat with
      | error fault =>
        rw [placedAll_cons_of_fault hrender] at h
        omega
      | ok first =>
        have hfirst : first.args.length = child.placed := length_args_of_render hrender
        rw [placedAll_cons_of_render hrender, ← Nat.add_assoc placed] at h
        have hrest := buildChildren_stops children base (placed + first.args.length) (by omega) h
        change Option.map _ (buildChildren .stops base (placed + first.args.length) children) = _
        rw [hrest]
        rfl
    · rw [build_stops child start (Nat.not_lt.mp hroom)]
      rfl

end

end Predicate

end PreparedSql
