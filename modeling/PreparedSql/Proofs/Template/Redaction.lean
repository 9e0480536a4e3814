import PreparedSql.Proofs.Statement.Redaction
import PreparedSql.Proofs.Template.Statement

/-!
# Templates under redaction

An observer sees something of every piece of a template. If a redaction makes no difference to the
pieces that it rewrites, it makes none to the templates of a whole draft (`Draft.templates_redact`).
-/
namespace PreparedSql

open Template

/-- An observer of the pieces of a template to whom a redaction makes no difference. A list of texts
may change only if no text is observed. -/
structure Redaction.Unseen (r : Redaction) (see : Piece → Template) : Prop where
  text : ∀ sql, see (.text (r.text sql)) = see (.text sql)
  texts : r.texts = id ∨ ∀ sql, see (.text sql) = []
  raw : ∀ sql, see (.text (r.raw sql)) = see (.text sql)
  leaf : ∀ l : Leaf, (l.redact r).template.flatMap see = l.template.flatMap see
  assigned : ∀ v, see (.value (r.assigned v)) = see (.value v)
  bound : ∀ n, see (.value (.int (r.bound n))) = see (.value (.int n))
  page : ∀ q : PageRequest, (q.redact r).cutTemplate.flatMap see = q.cutTemplate.flatMap see

namespace Template

theorem flatMap_joined (see : Piece → Template) (separator : String) (ts : List Template) :
    (joined separator ts).flatMap see =
      (see (.text separator)).intercalate (ts.map (·.flatMap see)) := by
  induction ts with
  | nil => rfl
  | cons t ts ih =>
    cases ts with
    | nil => simp
    | cons u ts =>
      rw [joined_cons_cons, List.flatMap_append, List.flatMap_cons, ih]
      simp [List.intercalate_cons_cons]

/-- Templates that look the same look the same when they are joined. -/
theorem flatMap_joined_congr {see : Piece → Template} {α : Type} {f g : α → Template}
    (separator : String) {xs : List α} (h : ∀ x ∈ xs, (f x).flatMap see = (g x).flatMap see) :
    (joined separator (xs.map f)).flatMap see = (joined separator (xs.map g)).flatMap see := by
  rw [flatMap_joined, flatMap_joined, List.map_map, List.map_map]
  exact congrArg _ (List.map_congr_left h)

theorem flatMap_eq_nil_of_texts {see : Piece → Template} (h : ∀ sql, see (.text sql) = [])
    {t : Template} (ht : values t = []) : t.flatMap see = [] := by
  induction t with
  | nil => rfl
  | cons piece t ih =>
    cases piece with
    | text sql => rw [List.flatMap_cons, h, ih ht, List.append_nil]
    | value v => cases ht

end Template

section Unseen

variable {r : Redaction} {see : Piece → Template}

namespace Redaction.Unseen

/-- What is written for a list of texts looks the same, if it is nothing but texts. -/
theorem list (h : r.Unseen see) (write : List String → Template)
    (hwrite : ∀ texts, values (write texts) = []) (texts : List String) :
    (write (r.texts texts)).flatMap see = (write texts).flatMap see := by
  -- how many texts there are may show in the separators, so either none is lost or none is seen
  obtain hid | hnone := h.texts
  · rw [hid]
    rfl
  · rw [flatMap_eq_nil_of_texts hnone (hwrite _), flatMap_eq_nil_of_texts hnone (hwrite _)]

end Redaction.Unseen

namespace Predicate

mutual

theorem template_redact (h : r.Unseen see) (p : Predicate) :
    (p.redact r).template.flatMap see = p.template.flatMap see := by
  cases p with
  | empty => rfl
  | leaf l => exact h.leaf l
  | group connective children =>
    have hchildren := templates_redact h children
    simp only [redact, template, List.flatMap_cons, List.flatMap_append, flatMap_joined, hchildren]

theorem templates_redact (h : r.Unseen see) (children : List Predicate) :
    (templates (redactAll r children)).map (·.flatMap see) =
      (templates children).map (·.flatMap see) := by
  cases children with
  | nil => rfl
  | cons child children =>
    rw [redactAll, templates, templates, List.map_cons, List.map_cons, template_redact h child,
      templates_redact h children]

end

theorem openTemplate_redact (h : r.Unseen see) (p : Predicate) :
    (p.redact r).openTemplate.flatMap see = p.openTemplate.flatMap see := by
  cases p with
  | group connective children =>
    have hchildren := templates_redact h children
    simp only [redact, openTemplate, flatMap_joined, hchildren]
  | empty => exact template_redact h .empty
  | leaf l => exact template_redact h (.leaf l)

end Predicate

variable (h : r.Unseen see)
include h

theorem FieldValue.template_redact (value : FieldValue) :
    (value.redact r).template.flatMap see = value.template.flatMap see := by
  cases value with
  | bound v => simp [redact, template, h.assigned]
  | raw sql => simp [redact, template, h.raw]

namespace Assignment

variable (assignments : List Assignment)

theorem pairsTemplate_redact :
    (pairsTemplate (assignments.map (·.redact r))).flatMap see =
      (pairsTemplate assignments).flatMap see := by
  rw [pairsTemplate, List.map_map]
  apply flatMap_joined_congr
  intro a _
  simp [redact, template, h.text, FieldValue.template_redact h]

theorem columnsTemplate_redact :
    (columnsTemplate (assignments.map (·.redact r))).flatMap see =
      (columnsTemplate assignments).flatMap see := by
  have hcolumns : (ofTexts ((assignments.map (·.redact r)).map column)).flatMap see =
      (ofTexts (assignments.map column)).flatMap see := by
    simp only [ofTexts, List.map_map]
    apply flatMap_joined_congr
    intro a _
    simp [redact, h.text]
  have hvalues :
      (joined ", " ((assignments.map (·.redact r)).map fun a => a.value.template)).flatMap see =
        (joined ", " (assignments.map fun a => a.value.template)).flatMap see := by
    rw [List.map_map]
    apply flatMap_joined_congr
    intro a _
    exact FieldValue.template_redact h a.value
  simp only [columnsTemplate, List.flatMap_cons, List.flatMap_append, hcolumns, hvalues]

end Assignment

theorem Root.template_redact (root : Root) :
    (root.redact r).template.flatMap see = root.template.flatMap see := by
  cases root with
  | select x =>
    have hcolumns := h.list
      (fun columns => if x.counting then [.text "COUNT(*)"] else ofTexts columns)
      (fun columns => by split <;> simp) x.columns
    simp only [redact, Selection.redact, template, List.flatMap_cons, List.flatMap_append, h.text]
    rw [hcolumns]
  | insert table assignments =>
    simp only [redact, template, List.flatMap_cons, h.text,
      Assignment.columnsTemplate_redact h]
  | update table assignments =>
    simp only [redact, template, List.flatMap_cons, h.text, Assignment.pairsTemplate_redact h]
  | delete table => simp only [redact, template, List.flatMap_cons, h.text]

theorem Join.template_redact (j : Join) :
    (j.redact r).template.flatMap see = j.template.flatMap see := by
  cases hname : j.nickname <;> simp [redact, template, hname, h.text]

theorem SortTerm.template_redact (t : SortTerm) :
    (t.redact r).template.flatMap see = t.template.flatMap see := by
  cases hdescending : t.descending <;> simp [redact, template, hdescending, h.text]

theorem Window.template_redact (w : Window) :
    (w.redact r).template.flatMap see = w.template.flatMap see := by
  obtain ⟨maxCount, startIndex⟩ := w
  cases maxCount <;> cases startIndex <;>
    simp [redact, template, boundTemplates, joined_cons_cons, h.bound]

theorem Clause.template_redact {below below' : Template}
    (hbelow : below'.flatMap see = below.flatMap see) (c : Clause) :
    ((c.redact r).template below').flatMap see = (c.template below).flatMap see := by
  cases c with
  | join j =>
    simp only [redact, template, List.flatMap_append, List.flatMap_cons, hbelow,
      Join.template_redact h]
  | filter p =>
    simp only [redact, template, List.flatMap_append, List.flatMap_cons, hbelow,
      Predicate.openTemplate_redact h]
  | orderBy terms =>
    have hterms : (joined ", " ((terms.map (·.redact r)).map SortTerm.template)).flatMap see =
        (joined ", " (terms.map SortTerm.template)).flatMap see := by
      rw [List.map_map]
      exact flatMap_joined_congr ", " fun t _ => SortTerm.template_redact h t
    simp only [redact, template, List.flatMap_append, List.flatMap_cons, hbelow, hterms]
  | limit w =>
    simp only [redact, template, List.flatMap_append, List.flatMap_cons, hbelow,
      Window.template_redact h]
  | existence => simp only [redact, template, List.flatMap_append, List.flatMap_cons, hbelow]
  | call function arguments =>
    simp only [redact, template, List.flatMap_append, List.flatMap_cons, hbelow, h.text,
      List.flatMap_map, List.flatMap_assoc]
  | onConflict target action =>
    have htarget := h.list targetTemplate targetTemplate_values target
    cases action with
    | nothing =>
      simp only [redact, ConflictAction.redact, template, List.flatMap_append, List.flatMap_cons,
        hbelow, htarget]
    | update assignments =>
      simp only [redact, ConflictAction.redact, template, List.flatMap_append, List.flatMap_cons,
        hbelow, htarget, Assignment.pairsTemplate_redact h]
  | returning columns =>
    have hcolumns := h.list ofTexts values_ofTexts columns
    simp only [redact, template, List.flatMap_append, List.flatMap_cons, hbelow, hcolumns]

theorem Statement.template_redact (s : Statement) :
    (s.redact r).template.flatMap see = s.template.flatMap see := by
  obtain ⟨root, clauses⟩ := s
  induction clauses with
  | nil => exact Root.template_redact h root
  | cons c older ih => exact Clause.template_redact h ih c

theorem Draft.templates_redact (d : Draft) :
    (d.redact r).templates.map (·.flatMap see) = d.templates.map (·.flatMap see) := by
  cases d with
  | statement s => simp [redact, templates, Statement.template_redact h]
  | pendingConflict s target => rfl
  | page q =>
    have hinner := Statement.template_redact h q.inner
    have hordering : (q.redact r).orderingTemplate.flatMap see = q.orderingTemplate.flatMap see :=
      h.list (fun ordering => PageRequest.orderingTemplate { q with ordering })
        (fun _ => PageRequest.values_orderingTemplate _) q.ordering
    have hpage : (q.redact r).template.flatMap see = q.template.flatMap see := by
      simp only [PageRequest.template, List.flatMap_cons, List.flatMap_append, h.page q, hordering]
      rw [← hinner]
      rfl
    have hcount : (q.redact r).countTemplate.flatMap see = q.countTemplate.flatMap see := by
      simp only [PageRequest.countTemplate, List.flatMap_cons, List.flatMap_append, ← hinner]
      rfl
    simp only [redact, templates, List.map_cons, List.map_nil, hpage, hcount]

end Unseen

end PreparedSql
