import PreparedSql.Statement.Chain

/-!
# What a step can do

The operations on statements that steps are made of, each read backwards: which statement it was
done to and what came out of it. A step of a draft is one of a statement, or belongs to a conflict,
or asks for a page (`Draft.Effect`).
-/
namespace PreparedSql

namespace Statement

variable {s e : Statement}

theorem pushIf_eq_some_iff {admitted : Bool} {c : Clause} :
    s.pushIf admitted c = some e ↔ admitted = true ∧ s.push c = e := by
  cases admitted <;> simp [pushIf]

theorem onSelection_eq_some {change : Selection → Selection}
    (h : s.onSelection change = some e) :
    ∃ x, s = ofRoot (.select x) ∧ e = ofRoot (.select (change x)) := by
  obtain ⟨root, clauses⟩ := s
  unfold onSelection at h
  split at h
  · next x hroot hclauses =>
    obtain rfl : root = _ := hroot
    obtain rfl : clauses = _ := hclauses
    exact ⟨x, rfl, (Option.some.inj h).symm⟩
  · cases h

theorem addAssignments_eq_some {added : List Assignment} (h : s.addAssignments added = some e) :
    (∃ table assignments, s = ofRoot (.insert table assignments) ∧
      e = ofRoot (.insert table (assignments ++ added))) ∨
    (∃ table assignments, s = ofRoot (.update table assignments) ∧
      e = ofRoot (.update table (assignments ++ added))) ∨
    (∃ root target assignments older,
      s = ⟨root, .onConflict target (.update assignments) :: older⟩ ∧
      e = ⟨root, .onConflict target (.update (assignments ++ added)) :: older⟩) := by
  obtain ⟨root, clauses⟩ := s
  unfold addAssignments at h
  split at h
  · next table assignments hroot hclauses =>
    obtain rfl : root = _ := hroot
    obtain rfl : clauses = _ := hclauses
    exact .inl ⟨table, assignments, rfl, (Option.some.inj h).symm⟩
  · next table assignments hroot hclauses =>
    obtain rfl : root = _ := hroot
    obtain rfl : clauses = _ := hclauses
    exact .inr (.inl ⟨table, assignments, rfl, (Option.some.inj h).symm⟩)
  · next target assignments older hclauses =>
    obtain rfl : clauses = _ := hclauses
    exact .inr (.inr ⟨root, target, assignments, older, rfl, (Option.some.inj h).symm⟩)
  · cases h

theorem onWindow_eq_some {change : Window → Window} (h : s.onWindow change = some e) :
    (∃ root w older, s = ⟨root, .limit w :: older⟩ ∧ e = ⟨root, .limit (change w) :: older⟩) ∨
    (s.limitable = true ∧ e = s.push (.limit (change ⟨none, none⟩))) := by
  obtain ⟨root, clauses⟩ := s
  unfold onWindow at h
  split at h
  · next w older hclauses =>
    obtain rfl : clauses = _ := hclauses
    exact .inl ⟨root, w, older, rfl, (Option.some.inj h).symm⟩
  · obtain ⟨hlimitable, hpush⟩ := pushIf_eq_some_iff.mp h
    exact .inr ⟨hlimitable, hpush.symm⟩

theorem nickname_eq_some {name : String} (h : s.step (.nickname name) = some e) :
    ∃ root j older, s = ⟨root, .join j :: older⟩ ∧
      e = ⟨root, .join { j with nickname := some name } :: older⟩ := by
  obtain ⟨root, clauses⟩ := s
  simp only [step] at h
  split at h
  · next j older =>
    exact ⟨root, j, older, rfl, (Option.some.inj h).symm⟩
  · cases h

theorem condition_eq_some {step : FilterStep} (h : s.step (.condition step) = some e) :
    ∃ root p older, s = ⟨root, .filter p :: older⟩ ∧
      e = ⟨root, .filter (p.grow step) :: older⟩ := by
  obtain ⟨root, clauses⟩ := s
  simp only [Statement.step] at h
  split at h
  · next p older =>
    exact ⟨root, p, older, rfl, (Option.some.inj h).symm⟩
  · cases h

theorem thenBy_eq_some {term : SortTerm} (h : s.step (.thenBy term) = some e) :
    ∃ root terms older, s = ⟨root, .orderBy terms :: older⟩ ∧
      e = ⟨root, .orderBy (terms ++ [term]) :: older⟩ := by
  obtain ⟨root, clauses⟩ := s
  simp only [step] at h
  split at h
  · next terms older =>
    exact ⟨root, terms, older, rfl, (Option.some.inj h).symm⟩
  · cases h

theorem argument_eq_some {sql : String} (h : s.step (.argument sql) = some e) :
    ∃ root function arguments older, s = ⟨root, .call function arguments :: older⟩ ∧
      e = ⟨root, .call function (arguments ++ [sql]) :: older⟩ := by
  obtain ⟨root, clauses⟩ := s
  simp only [step] at h
  split at h
  · next function arguments older =>
    exact ⟨root, function, arguments, older, rfl, (Option.some.inj h).symm⟩
  · cases h

theorem assignExcluded_eq_some {column : String} (h : s.step (.assignExcluded column) = some e) :
    s.addAssignments [⟨column, .excluded column⟩] = some e := by
  simp only [step] at h
  split at h
  · exact h
  · cases h

end Statement

namespace Draft

inductive Effect : Step → Draft → Draft → Prop
  | statement {step : Step} {s e : Statement} (h : s.step step = some e) :
      Effect step (.statement s) (.statement e)
  | onConflict {s : Statement} (target : List String) (h : s.admitsConflict = true) :
      Effect (.onConflict target) (.statement s) (.pendingConflict s target)
  | doNothing (s : Statement) (target : List String) :
      Effect .doNothing (.pendingConflict s target)
        (.statement (s.push (.onConflict target .nothing)))
  | doUpdate (s : Statement) (target : List String) :
      Effect .doUpdate (.pendingConflict s target)
        (.statement (s.push (.onConflict target (.update []))))
  | paginate {s : Statement} (pageIndex pageSize : Int64) (ordering : List String)
      (h : s.orderable = true) :
      Effect (.paginate pageIndex pageSize ordering) (.statement s)
        (.page ⟨s, pageIndex, pageSize, ordering⟩)

theorem effect_of_step {d e : Draft} {step : Step} (h : d.step step = some e) :
    Effect step d e := by
  unfold Draft.step at h
  split at h
  · next s target =>
    split at h
    · next hconflict =>
      obtain rfl := Option.some.inj h
      exact .onConflict target hconflict
    · cases h
  · next s pageIndex pageSize ordering =>
    split at h
    · next horderable =>
      obtain rfl := Option.some.inj h
      exact .paginate pageIndex pageSize ordering horderable
    · cases h
  · obtain ⟨e', he', rfl⟩ := Option.map_eq_some_iff.mp h
    exact .statement he'
  · next s target =>
    obtain rfl := Option.some.inj h
    exact .doNothing s target
  · next s target =>
    obtain rfl := Option.some.inj h
    exact .doUpdate s target
  · cases h

end Draft

end PreparedSql
