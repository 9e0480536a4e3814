import PreparedSql.Fragment

/-!
# Templates

A statement before its placeholders are numbered: pieces of SQL, and the values at the places where
they are written. A template holds no index. Behind a given number of values it becomes a fragment,
each value written as the placeholder that counts it.
-/
namespace PreparedSql

inductive Piece
  | text (sql : String)
  | value (v : Value)
  deriving Repr

abbrev Template := List Piece

namespace Template

def number (base : Nat) : Template → String
  | [] => ""
  | .text sql :: rest => sql ++ number base rest
  | .value _ :: rest => placeholder (base + 1) ++ number (base + 1) rest

def values : Template → List Value
  | [] => []
  | .text _ :: rest => values rest
  | .value v :: rest => v :: values rest

def instantiate (base : Nat) (t : Template) : Fragment :=
  ⟨number base t, values t⟩

def joined (separator : String) (ts : List Template) : Template :=
  [.text separator].intercalate ts

def ofTexts (texts : List String) : Template :=
  joined ", " (texts.map fun sql => [.text sql])

/-- The SQL of each of several templates, every one written behind those before it. -/
def numberEach (base : Nat) : List Template → List String
  | [] => []
  | t :: ts => number base t :: numberEach (base + (values t).length) ts

def valuesOfAll (ts : List Template) : List Value :=
  ts.flatMap values

variable (base : Nat)

@[simp] theorem number_nil : number base [] = "" := rfl

@[simp] theorem number_text (sql : String) (t : Template) :
    number base (.text sql :: t) = sql ++ number base t := rfl

@[simp] theorem number_value (v : Value) (t : Template) :
    number base (.value v :: t) = placeholder (base + 1) ++ number (base + 1) t := rfl

@[simp] theorem values_nil : values [] = [] := rfl

@[simp] theorem values_text (sql : String) (t : Template) :
    values (.text sql :: t) = values t := rfl

@[simp] theorem values_value (v : Value) (t : Template) :
    values (.value v :: t) = v :: values t := rfl

@[simp] theorem values_append (a b : Template) : values (a ++ b) = values a ++ values b := by
  induction a with
  | nil => rfl
  | cons piece a ih => cases piece <;> simp [ih]

theorem number_append (a b : Template) :
    number base (a ++ b) = number base a ++ number (base + (values a).length) b := by
  induction a generalizing base with
  | nil => simp
  | cons piece a ih =>
    cases piece with
    | text sql => simp [ih, String.append_assoc]
    | value v => simp [ih, String.append_assoc, Nat.add_assoc, Nat.add_comm 1]

@[simp] theorem instantiate_sql (t : Template) : (instantiate base t).sql = number base t := rfl

@[simp] theorem instantiate_args (t : Template) : (instantiate base t).args = values t := rfl

@[simp] theorem joined_nil (separator : String) : joined separator [] = [] := rfl

@[simp] theorem joined_singleton (separator : String) (t : Template) : joined separator [t] = t :=
  List.intercalate_singleton

theorem joined_cons_cons (separator : String) (t u : Template) (ts : List Template) :
    joined separator (t :: u :: ts) = t ++ .text separator :: joined separator (u :: ts) := by
  simp [joined, List.intercalate_cons_cons]

theorem values_joined (separator : String) (ts : List Template) :
    values (joined separator ts) = valuesOfAll ts := by
  induction ts with
  | nil => rfl
  | cons t ts ih =>
    cases ts with
    | nil => simp [valuesOfAll]
    | cons u ts =>
      rw [joined_cons_cons, values_append, values_text, ih]
      rfl

theorem number_joined (separator : String) (ts : List Template) :
    number base (joined separator ts) = separator.intercalate (numberEach base ts) := by
  induction ts generalizing base with
  | nil => simp [numberEach]
  | cons t ts ih =>
    cases ts with
    | nil => simp [numberEach]
    | cons u ts =>
      have hrest := ih (base + (values t).length)
      rw [joined_cons_cons, number_append, number_text, hrest]
      simp [numberEach, String.intercalate_cons_cons, String.append_assoc]

theorem numberEach_texts (texts : List String) :
    numberEach base (texts.map fun sql => [.text sql]) = texts := by
  induction texts generalizing base with
  | nil => rfl
  | cons sql texts ih => simp [numberEach, ih]

@[simp] theorem number_ofTexts (texts : List String) :
    number base (ofTexts texts) = ", ".intercalate texts := by
  rw [ofTexts, number_joined, numberEach_texts]

@[simp] theorem values_ofTexts (texts : List String) : values (ofTexts texts) = [] := by
  rw [ofTexts, values_joined]
  simp [valuesOfAll]

end Template

end PreparedSql
