import PreparedSql.Proofs.Predicate.Bound

/-!
# Predicates behind other values

How many values stand in front of a predicate shows in its placeholders and nowhere else: neither in
what is wrong with it nor in its values, nor in the SQL between the placeholders. That SQL holds
what the caller wrote instead of a value as it is, even if it looks like a placeholder.
-/
namespace PreparedSql

namespace Template

def opening : Template → String
  | .text sql :: rest => sql ++ opening rest
  | _ => ""

variable (t : Template)

theorem mem_joined {separator : String} {piece : Piece} {ts : List Template} (ht : t ∈ ts)
    (hpiece : piece ∈ t) : piece ∈ joined separator ts := by
  induction ts with
  | nil => cases ht
  | cons u ts ih =>
    cases ts with
    | nil =>
      obtain rfl := List.mem_singleton.mp ht
      simpa using hpiece
    | cons v ts =>
      rw [joined_cons_cons]
      rcases List.mem_cons.mp ht with rfl | hrest
      · exact List.mem_append_left _ hpiece
      · exact List.mem_append_right _ (List.mem_cons_of_mem _ (ih hrest))

end Template

open Template

theorem Leaf.raw_mem_template {l : Leaf} {sql : String} (h : l.check = .ok ())
    (hraw : l.operand = .raw sql) : .text sql ∈ l.template := by
  obtain ⟨operator, hoperator⟩ := exists_operator_of_check h
  simp [template, hoperator, hraw]

namespace Predicate

mutual

theorem raw_mem_template {p : Predicate} (h : ∀ l ∈ p.leaves, l.check = .ok ()) {l : Leaf}
    (hl : l ∈ p.leaves) {sql : String} (hraw : l.operand = .raw sql) :
    .text sql ∈ p.template := by
  cases p with
  | empty => cases hl
  | leaf _ =>
    obtain rfl := List.mem_singleton.mp hl
    exact Leaf.raw_mem_template (h l hl) hraw
  | group connective children =>
    obtain ⟨t, ht, hsql⟩ := raw_mem_templates h hl hraw
    rw [template]
    exact List.mem_cons_of_mem _ (List.mem_append_left _ (mem_joined t ht hsql))

theorem raw_mem_templates {children : List Predicate}
    (h : ∀ l ∈ leavesOfAll children, l.check = .ok ()) {l : Leaf}
    (hl : l ∈ leavesOfAll children) {sql : String} (hraw : l.operand = .raw sql) :
    ∃ t ∈ templates children, .text sql ∈ t := by
  cases children with
  | nil => cases hl
  | cons child children =>
    obtain ⟨hchild, hchildren⟩ := List.forall_mem_append.mp h
    rw [templates]
    rcases List.mem_append.mp hl with hmem | hmem
    · exact ⟨_, List.mem_cons_self, raw_mem_template hchild hmem hraw⟩
    · obtain ⟨t, ht, hsql⟩ := raw_mem_templates hchildren hmem hraw
      exact ⟨t, List.mem_cons_of_mem _ ht, hsql⟩

end

end Predicate

end PreparedSql
