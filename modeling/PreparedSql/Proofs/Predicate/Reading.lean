import PreparedSql.Proofs.Predicate.Readable
import PreparedSql.Proofs.Statement.Texts
import PreparedSql.Proofs.Template.Statement

/-!
# Predicates read back

What a predicate is written as is read as the condition with the same groups and the same
comparisons in the same places, if the caller's texts are words (`Predicate.read_render`).
-/
namespace PreparedSql

open Template

namespace Leaf

open Condition

variable {l : Leaf}

def text (base : Nat) (l : Leaf) : String :=
  number base l.template

theorem readComparison_constant (negated : Bool) {rest : List Char}
    (hrest : Stops isWordChar rest) :
    readComparison ((if negated then "1=1" else "1=0").toList ++ rest) = some rest := by
  have hone : IsWord "1".toList := ⟨by decide, by decide, by decide⟩
  have hzero : IsWord "0".toList := ⟨by decide, by decide, by decide⟩
  cases negated with
  | true => exact readName_append hone hrest
  | false => exact readName_append hzero hrest

theorem all_isListChar_placeholders (base : Nat) (values : List Value) :
    (", ".intercalate (Fragment.placeholders base values)).toList.all isListChar = true := by
  have hword (n : Nat) : (placeholder n).toList.all isListChar = true := by
    rw [List.all_eq_true]
    intro c hc
    have hchar := List.all_eq_true.mp (isWord_placeholder n).chars c hc
    rw [isListChar, hchar, Bool.true_or, Bool.true_or]
  induction values generalizing base with
  | nil => rfl
  | cons v values ih =>
    cases values with
    | nil => simpa [Fragment.placeholders] using hword (base + 1)
    | cons w values =>
      have hrest := ih (base + 1)
      have hseparator : ", ".toList.all isListChar = true := rfl
      simp only [Fragment.placeholders, String.intercalate_cons_cons, String.toList_append,
        List.all_append, Bool.and_eq_true] at hrest ⊢
      exact ⟨⟨hword (base + 1), hseparator⟩, hrest⟩

theorem readable_operand {column operand operator : String} (hcolumn : IsName column)
    (hoperand : IsWord operand.toList) {c : Comparison} (h : c.operator? = some operator) :
    Readable (column ++ (" " ++ (operator ++ (" " ++ operand))))
      (.comparison (column ++ (" " ++ (operator ++ (" " ++ operand))))) := by
  have htext : (column ++ (" " ++ (operator ++ (" " ++ operand)))).toList =
      column.toList ++ ' ' :: (operator.toList ++ ' ' :: operand.toList) := by simp
  refine .comparison (by simp [htext]) fun rest hrest => ?_
  rw [htext]
  simpa using readComparison_operand hcolumn.isWord hoperand h hrest.stops

theorem readable_null {column : String} (hcolumn : IsName column) {test : String}
    (htest : test = " IS NULL" ∨ test = " IS NOT NULL") :
    Readable (column ++ test) (.comparison (column ++ test)) := by
  have hcomparison {rest : List Char} (hrest : Follows rest) :
      Stops isWordChar (test.toList ++ rest) ∧
        readOperator (test.toList ++ rest) = some (.nothing, rest) := by
    obtain rfl | rfl := htest
    · exact ⟨stops_blank _, readOperator_isNull hrest.stops⟩
    · exact ⟨stops_blank _, readOperator_isNotNull hrest.stops⟩
  refine .comparison (by simp [hcolumn.ne_nil]) fun rest hrest => ?_
  obtain ⟨hstops, hoperator⟩ := hcomparison hrest
  rw [String.toList_append, List.append_assoc, readComparison,
    readName_append hcolumn.isWord hstops, Option.bind_eq_bind, Option.bind_some, hoperator]
  rfl

theorem readable_members (base : Nat) (hcolumn : IsName l.column) {operator : String}
    (h : l.comparison.operator? = some operator) (hmembership : l.comparison.membership = true)
    (values : List Value) :
    Readable (number base (l.memberTemplate operator values))
      (.comparison (number base (l.memberTemplate operator values))) := by
  cases values with
  | nil =>
    refine .comparison ?_ fun rest hrest => ?_
    · cases hnegated : l.comparison.negated <;> simp [memberTemplate, hnegated]
    · simpa [memberTemplate] using readComparison_constant l.comparison.negated hrest.stops
  | cons v values =>
    have hnumber := numberEach_placeholders base (v :: values)
    have htext : (number base (l.memberTemplate operator (v :: values))).toList =
        l.column.toList ++ ' ' :: (operator.toList ++ ' ' :: '(' ::
          ((", ".intercalate (Fragment.placeholders base (v :: values))).toList ++ [')'])) := by
      simp only [memberTemplate, number_text, number_append, number_joined, hnumber]
      simp
    refine .comparison (by simp [htext]) fun rest _ => ?_
    rw [htext]
    simpa using readComparison_operands hcolumn.isWord
      (all_isListChar_placeholders base (v :: values)) h hmembership rest

/-- A comparison is read as itself. -/
theorem readable_text (base : Nat) (hnames : ∀ t ∈ l.texts, IsName t) (hcheck : l.check = .ok ()) :
    Readable (l.text base) (.comparison (l.text base)) := by
  obtain ⟨hcolumn, hoperand⟩ := List.forall_mem_cons.mp hnames
  rw [text, template]
  rw [check] at hcheck
  cases hop : l.comparison.operator? with
  | none => simp [hop] at hcheck
  | some operator =>
    cases hl : l.operand with
    | raw sql =>
      have hsql : IsName sql := hoperand sql (by simp [hl, Operand.texts])
      simpa using readable_operand hcolumn hsql.isWord hop
    | bound v =>
      by_cases hmembership : l.comparison.membership = true
      · simpa [hmembership] using readable_members base hcolumn hop hmembership (members v)
      · cases v with
        | null =>
          have htest : (if l.comparison = .ne then " IS NOT NULL" else " IS NULL") = " IS NULL" ∨
              (if l.comparison = .ne then " IS NOT NULL" else " IS NULL") = " IS NOT NULL" := by
            split <;> simp
          simpa [hmembership, valueTemplate] using readable_null hcolumn htest
        | list items => simp [hop, hl, hmembership, checkValue] at hcheck
        | _ =>
          simpa [hmembership, valueTemplate] using
            readable_operand hcolumn (isWord_placeholder (base + 1)) hop

end Leaf

namespace Predicate

open Condition

mutual

/-- The condition with the groups and the comparisons of a predicate, written behind `base`
values. -/
def nesting (base : Nat) : Predicate → Condition
  | empty => .comparison ""
  | leaf l => .comparison (l.text base)
  | group connective children => .group connective (nestings base children)

def nestings (base : Nat) : List Predicate → List Condition
  | [] => []
  | child :: children =>
    nesting base child :: nestings (base + (values child.template).length) children

end

theorem length_nestings (base : Nat) (children : List Predicate) :
    (nestings base children).length = children.length := by
  induction children generalizing base with
  | nil => rfl
  | cons child children ih => simp [nestings, ih]

theorem length_of_check_group {connective : Connective} {children : List Predicate}
    (h : (group connective children).check = .ok ()) :
    2 ≤ children.length ∧ checkAll children = .ok () := by
  rw [check] at h
  split at h
  · cases h
  · next hlength => exact ⟨Nat.not_lt.mp hlength, h⟩

theorem check_of_checkAll {child : Predicate} {children : List Predicate}
    (h : checkAll (child :: children) = .ok ()) :
    child.check = .ok () ∧ checkAll children = .ok () := by
  rw [checkAll] at h
  cases hchild : child.check with
  | error fault =>
    rw [hchild] at h
    cases h
  | ok _ =>
    rw [hchild] at h
    exact ⟨rfl, h⟩

mutual

theorem readable_template (base : Nat) (p : Predicate) (hnames : ∀ t ∈ p.texts, IsName t)
    (hcheck : p.check = .ok ()) : Readable (number base p.template) (p.nesting base) := by
  cases p with
  | empty => cases hcheck
  | leaf l => exact l.readable_text base (by simpa [texts, leaves] using hnames) hcheck
  | group connective children =>
    rw [texts_group] at hnames
    obtain ⟨hlength, hchildren⟩ := length_of_check_group hcheck
    have hreadable := readable_templates base children hnames hchildren
    rw [← length_nestings base] at hlength
    rw [nesting, template, number_text, number_append, number_joined]
    simpa using Readable.group connective hreadable hlength

theorem readable_templates (base : Nat) (children : List Predicate)
    (hnames : ∀ t ∈ textsOfAll children, IsName t) (hcheck : checkAll children = .ok ()) :
    List.Forall₂ Readable (numberEach base (templates children)) (nestings base children) := by
  cases children with
  | nil => exact .nil
  | cons child children =>
    obtain ⟨hchild, hchildren⟩ := check_of_checkAll hcheck
    obtain ⟨hnamesChild, hnamesChildren⟩ := List.forall_mem_append.mp hnames
    rw [templates, numberEach, nestings]
    exact .cons (readable_template base child hnamesChild hchild)
      (readable_templates _ children hnamesChildren hchildren)

end

theorem read_openTemplate (base : Nat) (p : Predicate) (hnames : ∀ t ∈ p.texts, IsName t)
    (hcheck : p.check = .ok ()) : read (number base p.openTemplate) = some (p.nesting base) := by
  cases p with
  | group connective children =>
    rw [texts_group] at hnames
    obtain ⟨hlength, hchildren⟩ := length_of_check_group hcheck
    have hreadable := readable_templates base children hnames hchildren
    rw [← length_nestings base] at hlength
    rw [nesting, openTemplate, number_joined]
    exact Readable.read_connected connective hreadable hlength
  | empty => cases hcheck
  | leaf l => exact (readable_template base (.leaf l) hnames hcheck).read_eq

/-- A statement that ends in a filter is the one below it, and the predicate behind WHERE. -/
theorem exists_below_of_render {root : Root} {p : Predicate} {older : List Clause} {f : Fragment}
    (h : Statement.render ⟨root, .filter p :: older⟩ = .ok f) :
    ∃ below, Statement.render ⟨root, older⟩ = .ok below ∧ p.check = .ok () ∧
      f.sql = below.sql ++ " WHERE " ++ number below.args.length p.openTemplate := by
  change (Statement.renderClauses root older >>= (Clause.filter p).attach) = .ok f at h
  cases hbelow : Statement.renderClauses root older with
  | error fault =>
    rw [hbelow] at h
    cases h
  | ok below =>
    rw [hbelow] at h
    change (p.renderOpen below.args.length >>= _) = .ok f at h
    cases hown : p.renderOpen below.args.length with
    | error fault =>
      rw [hown] at h
      cases h
    | ok own =>
      rw [hown] at h
      obtain rfl := Except.ok.inj h
      rw [p.renderOpen_eq] at hown
      obtain ⟨hcheck, rfl⟩ := check_eq_ok_of_map hown
      refine ⟨below, hbelow, hcheck, ?_⟩
      have hkeyword : " " ++ ("WHERE " ++ number below.args.length p.openTemplate) =
          " WHERE " ++ number below.args.length p.openTemplate := by
        rw [← String.append_assoc]
        rfl
      simp [Clause.append, Fragment.wrap, String.append_assoc, hkeyword]

/-- What a predicate is written as is read as its nesting, with the parentheses of the outermost
group and, behind WHERE, without them. -/
theorem read_render (p : Predicate) (hnames : ∀ t ∈ p.texts, IsName t) :
    (∀ base f, p.render base = .ok f → read f.sql = some (p.nesting base)) ∧
    (∀ root older f, Statement.render ⟨root, .filter p :: older⟩ = .ok f →
      ∃ below own, Statement.render ⟨root, older⟩ = .ok below ∧
        f.sql = below.sql ++ " WHERE " ++ own ∧ read own = some (p.nesting below.args.length)) := by
  constructor
  · intro base f hf
    rw [p.render_eq] at hf
    obtain ⟨hcheck, rfl⟩ := check_eq_ok_of_map hf
    exact (readable_template base p hnames hcheck).read_eq
  · intro root older f hf
    obtain ⟨below, hbelow, hcheck, hsql⟩ := exists_below_of_render hf
    exact ⟨below, _, hbelow, hsql, read_openTemplate below.args.length p hnames hcheck⟩

/-- A group in a group, a list of operands and a test for NULL. -/
theorem read_render_nested :
    let p : Predicate := .group .or [.field "a" .eq (.int 1),
      .group .and [.isIn "k" [.int 7, .int 8], .raw "t.n" .ne "ids"], .field "n" .eq .null]
    (∃ f, p.render 2 = .ok f ∧ read f.sql = some (p.nesting 2)) ∧
      ∃ f below own, Statement.render ⟨.delete "t", [.filter p]⟩ = .ok f ∧
        f.sql = below ++ " WHERE " ++ own ∧ read own = some (p.nesting 0) := by
  intro p
  have hnames : ∀ t ∈ p.texts, IsName t := by decide
  have hrender : p.render 2 = .ok _ := rfl
  have hstatement : Statement.render ⟨.delete "t", [.filter p]⟩ = .ok _ := rfl
  obtain ⟨hread, hwhere⟩ := read_render p hnames
  obtain ⟨below, own, hbelow, hsql, hown⟩ := hwhere _ _ _ hstatement
  obtain rfl := Except.ok.inj hbelow
  exact ⟨⟨_, hrender, hread 2 _ hrender⟩, _, _, own, hstatement, hsql, hown⟩

end Predicate

end PreparedSql
