import PreparedSql.Proofs.Decimal.Digits
import PreparedSql.Proofs.Template.Basic

/-!
# Placeholders found in a text

A scan from left to right for a `$` and the digits behind it. In the SQL of a template whose texts
hold no `$`, and in which no value is followed by a digit, it finds one placeholder for each value,
in their order (`placeholdersIn_number`).
-/
namespace PreparedSql

/-- Each `$` with all digits behind it. There is no `$` among the digits, so the scan can go on
right behind the one it found. -/
def placeholdersIn : List Char → List String
  | [] => []
  | c :: cs =>
    let digits := cs.takeWhile Decimal.isDigit
    if c = '$' ∧ digits ≠ [] then String.ofList (c :: digits) :: placeholdersIn cs
    else placeholdersIn cs

abbrev DollarFree (sql : String) : Prop :=
  sql.toList.contains '$' = false

theorem DollarFree.notMem {sql : String} (h : DollarFree sql) : '$' ∉ sql.toList := by
  simpa [DollarFree] using h

theorem placeholdersIn_append {cs : List Char} (h : '$' ∉ cs) (rest : List Char) :
    placeholdersIn (cs ++ rest) = placeholdersIn rest := by
  induction cs with
  | nil => rfl
  | cons c cs ih =>
    obtain ⟨hc, hcs⟩ := not_or.mp fun hmem => h (List.mem_cons.mpr hmem)
    simp [placeholdersIn, Ne.symm hc, ih hcs]

theorem dollar_notMem_digits (n : Nat) : '$' ∉ Decimal.digits n := by
  intro h
  have hdigit := Decimal.isDigit_of_mem_digits h
  revert hdigit
  decide

theorem toList_placeholder (n : Nat) : (placeholder n).toList = '$' :: Decimal.digits n := by
  simp [placeholder, Decimal.natText]

theorem placeholder_injective : Function.Injective placeholder := by
  intro m n h
  have hdigits : Decimal.digits m = Decimal.digits n :=
    List.tail_eq_of_cons_eq (by rw [← toList_placeholder, ← toList_placeholder, h])
  have hread := congrArg (Decimal.natOfDigits? 0) hdigits
  rw [Decimal.natOfDigits?_digits, Decimal.natOfDigits?_digits] at hread
  exact Option.some.inj hread

theorem placeholdersIn_placeholder (n : Nat) {rest : List Char} (h : Stops Decimal.isDigit rest) :
    placeholdersIn ((placeholder n).toList ++ rest) = placeholder n :: placeholdersIn rest := by
  have hfirst : String.ofList ('$' :: Decimal.digits n) = placeholder n := by
    rw [← toList_placeholder, String.ofList_toList]
  have hdigits : (Decimal.digits n ++ rest).takeWhile Decimal.isDigit = Decimal.digits n :=
    takeWhile_append_of_stops (fun _ hc => Decimal.isDigit_of_mem_digits hc) h
  rw [toList_placeholder, List.cons_append, placeholdersIn, hdigits,
    if_pos ⟨rfl, Decimal.digits_ne_nil n⟩, hfirst, placeholdersIn_append (dollar_notMem_digits n)]

namespace Template

def OpensPlain : Template → Prop
  | [] => True
  | .value _ :: _ => True
  | .text sql :: rest =>
    match sql.toList with
    | [] => OpensPlain rest
    | c :: _ => Decimal.isDigit c = false

/-- Texts hold no `$`, and behind a value there is no digit. -/
def Scannable : Template → Prop
  | [] => True
  | .text sql :: rest => DollarFree sql ∧ Scannable rest
  | .value _ :: rest => OpensPlain rest ∧ Scannable rest

theorem opensPlain_text {sql : String} {c : Char} {cs : List Char} (hsql : sql.toList = c :: cs)
    (hc : Decimal.isDigit c = false) (t : Template) : OpensPlain (.text sql :: t) := by
  simpa [OpensPlain, hsql] using hc

theorem opensPlain_append {a b : Template} (ha : OpensPlain a) (hb : OpensPlain b) :
    OpensPlain (a ++ b) := by
  induction a with
  | nil => exact hb
  | cons piece a ih =>
    cases piece with
    | value v => trivial
    | text sql =>
      cases hsql : sql.toList with
      | nil =>
        simp only [OpensPlain, hsql] at ha
        simpa [OpensPlain, hsql] using ih ha
      | cons c cs => simpa [OpensPlain, hsql] using ha

theorem stops_number {t : Template} (h : OpensPlain t) (base : Nat) :
    Stops Decimal.isDigit (number base t).toList := by
  induction t with
  | nil => simp [Stops]
  | cons piece t ih =>
    cases piece with
    | value v =>
      intro c hc
      rw [number_value, String.toList_append, toList_placeholder] at hc
      obtain rfl : '$' = c := by simpa using hc
      decide
    | text sql =>
      cases hsql : sql.toList with
      | nil =>
        simp only [OpensPlain, hsql] at h
        simpa [Stops, hsql] using ih h
      | cons c cs => simpa [OpensPlain, Stops, hsql] using h

theorem scannable_append {a b : Template} (ha : Scannable a) (ho : OpensPlain b)
    (hb : Scannable b) : Scannable (a ++ b) := by
  induction a with
  | nil => exact hb
  | cons piece a ih =>
    cases piece with
    | text sql => exact ⟨ha.1, ih ha.2⟩
    | value v => exact ⟨opensPlain_append ha.1 ho, ih ha.2⟩

/-- A separator between templates keeps their values off the digits that may follow. -/
theorem scannable_joined {separator : String} {c : Char} {cs : List Char}
    (hseparator : separator.toList = c :: cs) (hc : Decimal.isDigit c = false)
    (hdollar : DollarFree separator) {ts : List Template} (h : ∀ t ∈ ts, Scannable t) :
    Scannable (joined separator ts) := by
  induction ts with
  | nil => trivial
  | cons t ts ih =>
    have ht := h t List.mem_cons_self
    have hts := ih fun u hu => h u (List.mem_cons_of_mem t hu)
    cases ts with
    | nil => simpa using ht
    | cons u ts =>
      rw [joined_cons_cons]
      exact scannable_append ht (opensPlain_text hseparator hc _) ⟨hdollar, hts⟩

theorem scannable_list {ts : List Template} (h : ∀ t ∈ ts, Scannable t) :
    Scannable (joined ", " ts) :=
  scannable_joined rfl rfl rfl h

theorem scannable_ofTexts {texts : List String} (h : ∀ sql ∈ texts, DollarFree sql) :
    Scannable (ofTexts texts) := by
  apply scannable_list
  intro t ht
  obtain ⟨sql, hsql, rfl⟩ := List.mem_map.mp ht
  exact ⟨h sql hsql, trivial⟩

/-- The scan of a numbered template finds its placeholders and nothing else. -/
theorem placeholdersIn_number {t : Template} (h : Scannable t) (base : Nat) :
    placeholdersIn (number base t).toList =
      (List.range' (base + 1) (values t).length).map placeholder := by
  induction t generalizing base with
  | nil => rfl
  | cons piece t ih =>
    cases piece with
    | text sql =>
      rw [number_text, String.toList_append, placeholdersIn_append h.1.notMem, ih h.2 base,
        values_text]
    | value v =>
      rw [number_value, String.toList_append,
        placeholdersIn_placeholder _ (stops_number h.1 (base + 1)), ih h.2 (base + 1)]
      rfl

end Template

end PreparedSql
