import Mathlib.Data.List.Forall2
import PreparedSql.Proofs.Predicate.Condition
import PreparedSql.Proofs.Template.Placeholder

/-!
# Readable texts

A text is readable as a condition if its tokens take every state that awaits a condition to the
state in which that condition is complete. Comparisons of words are readable, and so are groups of
readable texts.
-/
namespace PreparedSql

namespace Condition

structure IsWord (word : List Char) : Prop where
  ne_nil : word ≠ []
  chars : word.all isWordChar = true
  no_connective : connective? word = none

def Follows (rest : List Char) : Prop :=
  ∀ c ∈ rest.head?, c = ' ' ∨ c = ')'

section Words

variable {word rest : List Char}

theorem Follows.stops (h : Follows rest) : Stops isWordChar rest := by
  intro c hc
  obtain rfl | rfl := h c hc <;> decide

theorem stops_blank (rest : List Char) : Stops isWordChar (' ' :: rest) := by
  intro c hc
  obtain rfl : ' ' = c := by simpa using hc
  decide

theorem IsWord.takeWhile (h : IsWord word) (hrest : Stops isWordChar rest) :
    (word ++ rest).takeWhile isWordChar = word :=
  takeWhile_append_of_stops (List.all_eq_true.mp h.chars) hrest

theorem IsWord.dropWhile (h : IsWord word) (hrest : Stops isWordChar rest) :
    (word ++ rest).dropWhile isWordChar = rest :=
  dropWhile_append_of_stops (List.all_eq_true.mp h.chars) hrest

theorem readName_append (h : IsWord word) (hrest : Stops isWordChar rest) :
    readName (word ++ rest) = some rest := by
  rw [readName, h.takeWhile hrest, h.dropWhile hrest]
  simp [h.ne_nil, h.no_connective]

theorem IsWord.exists_cons (h : IsWord word) :
    ∃ c cs, word = c :: cs ∧ c ≠ ' ' ∧ c ≠ '(' ∧ c ≠ ')' := by
  obtain ⟨hne, hchars, -⟩ := h
  cases word with
  | nil => exact absurd rfl hne
  | cons c cs =>
    have hc : isWordChar c = true := List.all_eq_true.mp hchars c List.mem_cons_self
    refine ⟨c, cs, rfl, ?_, ?_, ?_⟩ <;> rintro rfl <;> exact absurd hc (by decide)

theorem skipBlanks_word (h : IsWord word) (rest : List Char) :
    skipBlanks (' ' :: (word ++ rest)) = word ++ rest := by
  obtain ⟨c, cs, rfl, hblank, -, -⟩ := h.exists_cons
  simp [skipBlanks, hblank]

theorem readFollowing_append (h : IsWord word) (hrest : Stops isWordChar rest) {follow : Follow}
    (hfollow : follow ≠ .nothing) : readFollowing follow (' ' :: (word ++ rest)) = some rest := by
  have hname := readName_append h hrest
  have hskip := skipBlanks_word h rest
  cases follow with
  | nothing => exact absurd rfl hfollow
  | operand => rw [readFollowing, hskip, hname]
  | operands =>
    obtain ⟨c, cs, rfl, -, hopening, -⟩ := h.exists_cons
    rw [List.cons_append] at hskip hname ⊢
    simpa [readFollowing, hskip, hopening] using hname

theorem readOperator_append {c : Comparison} {operator : String}
    (h : c.operator? = some operator) (rest : List Char) :
    readOperator (' ' :: (operator.toList ++ ' ' :: rest)) =
      some (if c.membership then .operands else .operand, ' ' :: rest) := by
  have hall : ∀ entry ∈ Comparison.operators, ∀ rest : List Char,
      readOperator (' ' :: (entry.2.toList ++ ' ' :: rest)) =
        some (if entry.1.membership then .operands else .operand, ' ' :: rest) := by
    simp only [Comparison.operators, List.forall_mem_cons]
    refine ⟨fun _ => rfl, fun _ => rfl, fun _ => rfl, fun _ => rfl, fun _ => rfl, fun _ => rfl,
      fun _ => rfl, fun _ => rfl, fun _ => rfl, fun _ => rfl, fun _ => rfl, fun _ => rfl, ?_⟩
    simp
  exact hall _ (Comparison.mem_operators h) rest

theorem readComparison_operand {name operand : List Char} (hname : IsWord name)
    (hoperand : IsWord operand) {c : Comparison} {operator : String}
    (h : c.operator? = some operator) (hrest : Stops isWordChar rest) :
    readComparison (name ++ ' ' :: (operator.toList ++ ' ' :: (operand ++ rest))) = some rest := by
  have hfollow : (if c.membership then Follow.operands else Follow.operand) ≠ .nothing := by
    split <;> simp
  rw [readComparison, readName_append hname (stops_blank _), Option.bind_eq_bind,
    Option.bind_some, readOperator_append h]
  exact readFollowing_append hoperand hrest hfollow

theorem readComparison_operands {name inside : List Char} (hname : IsWord name)
    (hinside : inside.all isListChar = true) {c : Comparison}
    {operator : String} (h : c.operator? = some operator) (hmembership : c.membership = true)
    (rest : List Char) :
    readComparison (name ++ ' ' :: (operator.toList ++ ' ' :: '(' :: (inside ++ ')' :: rest))) =
      some rest := by
  have hstops : Stops isListChar (')' :: rest) := by
    intro c hc
    obtain rfl : ')' = c := by simpa using hc
    decide
  rw [readComparison, readName_append hname (stops_blank _), Option.bind_eq_bind,
    Option.bind_some, readOperator_append h, hmembership]
  change readOperands (inside ++ ')' :: rest) = some rest
  simp only [readOperands, dropWhile_append_of_stops (List.all_eq_true.mp hinside) hstops]

theorem readKeywords_null (hrest : Stops isWordChar rest) :
    readKeywords ["NULL"] (" NULL".toList ++ rest) = some rest := by
  have hnull : IsWord "NULL".toList := ⟨by decide, by decide, by decide⟩
  have hsplit : splitLexeme (skipBlanks (" NULL".toList ++ rest)) = ("NULL".toList, rest) := by
    change splitLexeme ("NULL".toList ++ rest) = _
    rw [splitLexeme, hnull.takeWhile hrest, hnull.dropWhile hrest, if_neg hnull.ne_nil]
  rw [readKeywords, hsplit]
  rfl

/-- A test for NULL is no operator between operands. -/
theorem readOperator_isNull (hrest : Stops isWordChar rest) :
    readOperator (" IS NULL".toList ++ rest) = some (.nothing, rest) := by
  have hwords : readKeywords ["IS", "NULL"] (" IS NULL".toList ++ rest) = some rest :=
    readKeywords_null hrest
  have hnone : comparisonTable.findSome? (readEntry (" IS NULL".toList ++ rest)) = none := rfl
  rw [readOperator, List.findSome?_append, hnone, Option.none_or, nullTable, List.findSome?_cons,
    readEntry, hwords]
  rfl

theorem readOperator_isNotNull (hrest : Stops isWordChar rest) :
    readOperator (" IS NOT NULL".toList ++ rest) = some (.nothing, rest) := by
  have hwords : readKeywords ["IS", "NOT", "NULL"] (" IS NOT NULL".toList ++ rest) = some rest :=
    readKeywords_null hrest
  have hnull : readEntry (" IS NOT NULL".toList ++ rest) (["IS", "NULL"], .nothing) = none := rfl
  have hnone : comparisonTable.findSome? (readEntry (" IS NOT NULL".toList ++ rest)) = none := rfl
  rw [readOperator, List.findSome?_append, hnone, Option.none_or, nullTable, List.findSome?_cons,
    hnull, List.findSome?_cons, readEntry, hwords]
  rfl

end Words

section Tokens

theorem tokensFrom_eq_drop (skipped : Nat) (cs : List Char) :
    tokensFrom skipped cs = tokensFrom 0 (cs.drop skipped) := by
  induction cs generalizing skipped with
  | nil => simp [tokensFrom]
  | cons c cs ih =>
    cases skipped with
    | zero => rfl
    | succ skipped => rw [tokensFrom, ih, List.drop_succ_cons]

theorem tokensFrom_separator (c : Connective) (rest : List Char) :
    tokensFrom 0 (c.separator.toList ++ rest) = (tokensFrom 0 rest).map (.connective c :: ·) := by
  cases c <;> rfl

theorem exists_cons_of_readComparison {cs rest : List Char} (h : readComparison cs = some rest) :
    ∃ c cs', cs = c :: cs' ∧ isWordChar c = true ∧
      connective? ((c :: cs').takeWhile isWordChar) = none := by
  rw [readComparison] at h
  obtain ⟨behind, hname, -⟩ := Option.bind_eq_some_iff.mp h
  rw [readName] at hname
  cases cs with
  | nil => cases hname
  | cons c cs' =>
    by_cases hword : (c :: cs').takeWhile isWordChar = [] ∨
        (connective? ((c :: cs').takeWhile isWordChar)).isSome = true
    · rw [if_pos hword] at hname
      cases hname
    · obtain ⟨hne, hnone⟩ := not_or.mp hword
      have hc : isWordChar c = true := by
        by_contra hc
        exact hne (List.takeWhile_cons_of_neg hc)
      exact ⟨c, cs', rfl, hc, Option.not_isSome_iff_eq_none.mp hnone⟩

theorem tokensFrom_comparison {text rest : List Char} (hne : text ≠ [])
    (h : readComparison (text ++ rest) = some rest) :
    tokensFrom 0 (text ++ rest) =
      (tokensFrom 0 rest).map (.comparison (String.ofList text) :: ·) := by
  obtain ⟨c, cs, hcs, hc, hconnective⟩ := exists_cons_of_readComparison h
  -- the reader knows the length of a comparison only from what it left
  have hsize : (c :: cs).length - rest.length = text.length := by
    rw [← hcs, List.length_append, Nat.add_sub_cancel]
  have htake : (c :: cs).take text.length = text := by rw [← hcs, List.take_left]
  have hdrop : cs.drop (text.length - 1) = rest := by
    have hall : (c :: cs).drop text.length = rest := by rw [← hcs, List.drop_left]
    obtain ⟨n, hn⟩ := Nat.exists_eq_add_one_of_ne_zero (mt List.length_eq_zero_iff.mp hne)
    rw [hn] at hall ⊢
    exact hall
  have hblank : c ≠ ' ' := by rintro rfl; exact absurd hc (by decide)
  have hopening : c ≠ '(' := by rintro rfl; exact absurd hc (by decide)
  have hclosing : c ≠ ')' := by rintro rfl; exact absurd hc (by decide)
  rw [hcs] at h ⊢
  rw [tokensFrom]
  · simp only [hconnective, h, hsize, htake]
    rw [tokensFrom_eq_drop, hdrop]
  · exact hblank
  · exact hopening
  · exact hclosing

end Tokens

/-- The tokens of a text, whatever may follow it. -/
def Lexes (text : List Char) (tokens : List Token) : Prop :=
  ∀ rest, Follows rest → tokensFrom 0 (text ++ rest) = (tokensFrom 0 rest).map (tokens ++ ·)

def Reads (tokens : List Token) (x : Condition) : Prop :=
  ∀ level outer, State.run (.awaiting level outer) tokens = some (.complete (level.add x) outer)

/-- A text that is read as a condition wherever it stands. -/
def Readable (sql : String) (x : Condition) : Prop :=
  ∃ tokens, Lexes sql.toList tokens ∧ Reads tokens x

theorem follows_separator (c : Connective) (cs : List Char) :
    Follows (c.separator.toList ++ cs) := by
  intro d hd
  cases c <;> exact .inl (Option.some.inj hd).symm

theorem lexes_connected (c : Connective) {texts : List String} {tokens : List (List Token)}
    (h : List.Forall₂ (fun text ts => Lexes text.toList ts) texts tokens) :
    Lexes (c.separator.intercalate texts).toList ([.connective c].intercalate tokens) := by
  induction h with
  | nil =>
    intro rest _
    simp
  | @cons text ts texts tokens htext htexts ih =>
    cases htexts with
    | nil => simpa using htext
    | cons hsecond hrest =>
      -- behind the first text comes a separator, behind the last what follows them all
      intro rest hfollows
      rw [String.intercalate_cons_cons, List.intercalate_cons_cons]
      simp only [String.toList_append, List.append_assoc]
      rw [htext _ (follows_separator c _), tokensFrom_separator, ih rest hfollows]
      simp [Function.comp_def]

theorem run_append (s : State) (a b : List Token) :
    s.run (a ++ b) = (s.run a).bind (·.run b) := by
  simp [State.run, List.foldlM_append]

/-- AND adds the conditions to the factors of the current term. -/
theorem run_and {tokens : List (List Token)} {xs : List Condition}
    (h : List.Forall₂ Reads tokens xs) (hne : xs ≠ []) (level : Level) (outer : List Level) :
    State.run (.awaiting level outer) ([.connective .and].intercalate tokens) =
      some (.complete ⟨level.terms, level.factors ++ xs⟩ outer) := by
  induction h generalizing level with
  | nil => exact absurd rfl hne
  | @cons ts x tokens xs hfirst hrest ih =>
    cases hrest with
    | nil =>
      rw [List.intercalate_singleton, hfirst level outer]
      rfl
    | cons hsecond hrest =>
      have htail := ih (List.cons_ne_nil _ _) (level.add x)
      rw [List.intercalate_cons_cons, List.append_assoc, run_append, hfirst level outer,
        Option.bind_some]
      simpa [State.run, State.step, Level.add] using htail

/-- OR ends a term behind every condition but the last. -/
theorem run_or {tokens : List (List Token)} {xs : List Condition}
    (h : List.Forall₂ Reads tokens xs) (hne : xs ≠ []) (terms : List Condition)
    (outer : List Level) :
    ∃ level, State.run (.awaiting ⟨terms, []⟩ outer) ([.connective .or].intercalate tokens) =
        some (.complete level outer) ∧ level.allTerms = terms ++ xs := by
  induction h generalizing terms with
  | nil => exact absurd rfl hne
  | @cons ts x tokens xs hfirst hrest ih =>
    cases hrest with
    | nil =>
      rw [List.intercalate_singleton, hfirst ⟨terms, []⟩ outer]
      exact ⟨_, rfl, rfl⟩
    | cons hsecond hrest =>
      -- the separator makes a term of the only factor, so the next one starts without factors
      obtain ⟨level, hrun, hterms⟩ := ih (List.cons_ne_nil _ _) (terms ++ [x])
      refine ⟨level, ?_, by simpa using hterms⟩
      rw [List.intercalate_cons_cons, List.append_assoc, run_append, hfirst ⟨terms, []⟩ outer,
        Option.bind_some]
      simpa [State.run, State.step, Level.add, Level.nextTerm, Level.allTerms, connected] using hrun

theorem connected_eq_group (c : Connective) {xs : List Condition} (h : 2 ≤ xs.length) :
    connected c xs = group c xs := by
  match xs, h with
  | _ :: _ :: _, _ => rfl

/-- On a level of their own, connected conditions are read as a group of that connective. -/
theorem run_connected (c : Connective) {tokens : List (List Token)} {xs : List Condition}
    (h : List.Forall₂ Reads tokens xs) (hlength : 2 ≤ xs.length) (outer : List Level) :
    ∃ level, State.run (.awaiting .fresh outer) ([.connective c].intercalate tokens) =
      some (.complete level outer) ∧ level.condition = group c xs := by
  have hne : xs ≠ [] := List.ne_nil_of_length_pos (Nat.zero_lt_of_lt hlength)
  cases c with
  | and =>
    exact ⟨⟨[], xs⟩, run_and h hne .fresh outer, connected_eq_group .and hlength⟩
  | or =>
    obtain ⟨level, hrun, hterms⟩ := run_or h hne [] outer
    refine ⟨level, hrun, ?_⟩
    rw [Level.condition, hterms, List.nil_append, connected_eq_group .or hlength]

namespace Readable

theorem exists_tokens {texts : List String} {xs : List Condition}
    (h : List.Forall₂ Readable texts xs) :
    ∃ tokens, List.Forall₂ (fun text ts => Lexes text.toList ts) texts tokens ∧
      List.Forall₂ Reads tokens xs := by
  induction h with
  | nil => exact ⟨[], .nil, .nil⟩
  | cons hfirst hrest ih =>
    obtain ⟨ts, hlexes, hreads⟩ := hfirst
    obtain ⟨tokens, hlexesAll, hreadsAll⟩ := ih
    exact ⟨ts :: tokens, .cons hlexes hlexesAll, .cons hreads hreadsAll⟩

theorem comparison {sql : String} (hne : sql.toList ≠ [])
    (h : ∀ rest, Follows rest → readComparison (sql.toList ++ rest) = some rest) :
    Readable sql (.comparison sql) := by
  refine ⟨[.comparison sql], ?_, ?_⟩
  · intro rest hrest
    have htokens := tokensFrom_comparison hne (h rest hrest)
    rwa [String.ofList_toList] at htokens
  · intro level outer
    rfl

theorem group (c : Connective) {texts : List String} {xs : List Condition}
    (h : List.Forall₂ Readable texts xs) (hlength : 2 ≤ xs.length) :
    Readable ("(" ++ (c.separator.intercalate texts ++ ")")) (.group c xs) := by
  obtain ⟨tokens, hlexes, hreads⟩ := exists_tokens h
  refine ⟨.opening :: ([.connective c].intercalate tokens ++ [.closing]), ?_, ?_⟩
  · intro rest _
    have hfollows : Follows (')' :: rest) := by
      intro d hd
      exact .inr (Option.some.inj hd).symm
    have hinside := lexes_connected c hlexes (')' :: rest) hfollows
    simp only [String.toList_append, List.append_assoc]
    change (tokensFrom 0 (_ ++ ')' :: rest)).map _ = _
    rw [hinside]
    change (((tokensFrom 0 rest).map _).map _).map _ = _
    simp [Function.comp_def]
  · intro level outer
    obtain ⟨inner, hrun, hcondition⟩ := run_connected c hreads hlength (level :: outer)
    change State.run (.awaiting .fresh (level :: outer)) _ = _
    rw [run_append, hrun, ← hcondition]
    rfl

theorem read_eq {sql : String} {x : Condition} (h : Readable sql x) : read sql = some x := by
  obtain ⟨tokens, hlexes, hreads⟩ := h
  have htokens := hlexes [] (by simp [Follows])
  rw [List.append_nil] at htokens
  rw [read, htokens]
  change State.run _ (tokens ++ []) >>= _ = _
  rw [List.append_nil, hreads .fresh []]
  rfl

/-- The outermost group is read without its parentheses. -/
theorem read_connected (c : Connective) {texts : List String} {xs : List Condition}
    (h : List.Forall₂ Readable texts xs) (hlength : 2 ≤ xs.length) :
    read (c.separator.intercalate texts) = some (.group c xs) := by
  obtain ⟨tokens, hlexes, hreads⟩ := exists_tokens h
  have htokens := lexes_connected c hlexes [] (by simp [Follows])
  obtain ⟨level, hrun, hcondition⟩ := run_connected c hreads hlength []
  rw [List.append_nil] at htokens
  rw [read, htokens]
  change State.run _ (_ ++ []) >>= _ = _
  rw [List.append_nil, hrun]
  exact congrArg some hcondition

end Readable

/-- Words of letters, digits, underscores and points, other than AND and OR in any letter case. -/
structure IsName (name : String) : Prop where
  ne_nil : name.toList ≠ []
  chars : (name.toList.all fun c => c.isAlphanum || c == '_' || c == '.') = true
  ne_and : name.toList.map Char.toUpper ≠ "AND".toList
  ne_or : name.toList.map Char.toUpper ≠ "OR".toList

instance (name : String) : Decidable (IsName name) :=
  decidable_of_iff (name.toList ≠ [] ∧
      (name.toList.all fun c => c.isAlphanum || c == '_' || c == '.') = true ∧
      name.toList.map Char.toUpper ≠ "AND".toList ∧ name.toList.map Char.toUpper ≠ "OR".toList)
    ⟨fun h => ⟨h.1, h.2.1, h.2.2.1, h.2.2.2⟩, fun h => ⟨h.1, h.2, h.3, h.4⟩⟩

theorem IsName.isWord {name : String} (h : IsName name) : IsWord name.toList where
  ne_nil := h.ne_nil
  chars := by
    rw [List.all_eq_true]
    intro c hc
    have hchar := List.all_eq_true.mp h.chars c hc
    rw [isWordChar, hchar, Bool.true_or]
  no_connective := by
    have hand : isKeyword "AND" name.toList = false := beq_eq_false_iff_ne.mpr h.ne_and
    have hor : isKeyword "OR" name.toList = false := beq_eq_false_iff_ne.mpr h.ne_or
    simp [connective?, hand, hor]

theorem isWordChar_of_isDigit {c : Char} (h : Decimal.isDigit c = true) :
    isWordChar c = true := by
  by_cases hrange : '0' ≤ c ∧ c ≤ '9'
  · have hdigit : c.isDigit = true := by
      rw [Char.isDigit, Bool.and_eq_true, decide_eq_true_iff, decide_eq_true_iff]
      exact hrange
    simp [isWordChar, Char.isAlphanum, hdigit]
  · simp [Decimal.isDigit, Decimal.digitValue?, hrange] at h

theorem isWord_placeholder (n : Nat) : IsWord (placeholder n).toList := by
  rw [toList_placeholder]
  refine ⟨List.cons_ne_nil _ _, ?_, ?_⟩
  · rw [List.all_eq_true]
    intro c hc
    obtain rfl | hdigit := List.mem_cons.mp hc
    · decide
    · exact isWordChar_of_isDigit (Decimal.isDigit_of_mem_digits hdigit)
  · have hdollar : Char.toUpper '$' = '$' := by decide
    simp [connective?, isKeyword, hdollar]

end Condition

end PreparedSql
