import PreparedSql.Decimal.Integer

/-!
# Texts of whole numbers

What a text denotes has nothing to do with a range. Reading it digit by digit within a range comes
to the same as fitting the number it denotes: the numbers passed on the way only move away from
zero, so that the first one outside the range is outside on the side of the last one.
-/
namespace PreparedSql.Decimal

/-- An optional sign and at least one digit, and the number they denote. -/
inductive Denotes : List Char → Int → Prop
  | unsigned {cs : List Char} {n : Nat} (hne : cs ≠ []) (h : natOfDigits? 0 cs = some n) :
      Denotes cs n
  | plus {cs : List Char} {n : Nat} (hne : cs ≠ []) (h : natOfDigits? 0 cs = some n) :
      Denotes ('+' :: cs) n
  | minus {cs : List Char} {n : Nat} (hne : cs ≠ []) (h : natOfDigits? 0 cs = some n) :
      Denotes ('-' :: cs) (-n)

theorem natOfDigits?_cons (n : Nat) (c : Char) (cs : List Char) :
    natOfDigits? n (c :: cs) = (digitValue? c).bind fun d => natOfDigits? (10 * n + d) cs := by
  rw [natOfDigits?, List.foldlM_cons]
  cases digitValue? c <;> rfl

theorem exists_natOfDigits? {cs : List Char} (h : ∀ c ∈ cs, isDigit c = true) (n : Nat) :
    ∃ k, natOfDigits? n cs = some k := by
  induction cs generalizing n with
  | nil => exact ⟨n, rfl⟩
  | cons c cs ih =>
    obtain ⟨hc, hcs⟩ := List.forall_mem_cons.mp h
    obtain ⟨d, hd⟩ := Option.isSome_iff_exists.mp hc
    rw [natOfDigits?_cons, hd]
    exact ih hcs (10 * n + d)

theorem le_of_natOfDigits? {n k : Nat} {cs : List Char} (h : natOfDigits? n cs = some k) :
    n ≤ k := by
  induction cs generalizing n with
  | nil =>
    obtain rfl : n = k := Option.some.inj h
    exact Nat.le_refl n
  | cons c cs ih =>
    rw [natOfDigits?_cons, Option.bind_eq_some_iff] at h
    obtain ⟨d, -, hrest⟩ := h
    have hle := ih hrest
    omega

theorem denotes_intText (n : Int) : Denotes (intText n).toList n := by
  have hdigits := natOfDigits?_digits n.natAbs
  have hne := digits_ne_nil n.natAbs
  rw [intText, natText]
  split
  · have hminus := Denotes.minus hne hdigits
    rw [show -(n.natAbs : Int) = n by omega] at hminus
    rw [String.toList_append, String.toList_ofList, String.toList_ofList]
    exact hminus
  · have hunsigned := Denotes.unsigned hne hdigits
    rw [show (n.natAbs : Int) = n by omega] at hunsigned
    rwa [String.toList_ofList]

namespace Range

variable {r : Range} {sign : Int} {cs : List Char}

theorem holds_iff {n : Int} : r.holds n = true ↔ r.least ≤ n ∧ n ≤ r.greatest := by
  rw [holds, Bool.and_eq_true, decide_eq_true_iff, decide_eq_true_iff]

theorem fit_of_holds {n : Int} (h : r.holds n = true) : r.fit n = .ok n := by
  obtain ⟨hleast, hgreatest⟩ := holds_iff.mp h
  rw [fit, if_neg (by omega), if_neg (by omega)]

theorem fit_eq_ok_iff {n m : Int} : r.fit n = .ok m ↔ n = m ∧ r.holds n = true := by
  constructor
  · intro h
    rw [fit] at h
    split at h
    · cases h
    · split at h
      · cases h
      · exact ⟨Except.ok.inj h, holds_iff.mpr (by omega)⟩
  · rintro ⟨rfl, h⟩
    exact fit_of_holds h

theorem isOk_fit (r : Range) (n : Int) : (r.fit n).isOk = r.holds n := by
  by_cases hholds : r.holds n = true
  · rw [fit_of_holds hholds, hholds]
    rfl
  · rw [Bool.not_eq_true] at hholds
    rw [hholds]
    cases hfit : r.fit n with
    | ok m =>
      rw [(fit_eq_ok_iff.mp hfit).2] at hholds
      cases hholds
    | error fault => rfl

/-- A number that does not fit is refused for the same reason as every one beyond it. -/
theorem fit_beyond (hzero : r.holds 0 = true) (hsign : sign = 1 ∨ sign = -1) {n m : Nat}
    (hnm : n ≤ m) {fault : IntegerFault} (h : r.fit (sign * n) = .error fault) :
    r.fit (sign * m) = .error fault := by
  obtain ⟨hleast, hgreatest⟩ := holds_iff.mp hzero
  rw [fit] at h ⊢
  rcases hsign with rfl | rfl
  · rw [if_neg (show ¬1 * (n : Int) < r.least by omega)] at h
    split at h
    · rwa [if_pos (by omega)]
    · cases h
  · rw [if_neg (show ¬r.greatest < -1 * (n : Int) by omega)] at h
    rw [if_neg (by omega)]
    split at h
    · rwa [if_pos (by omega)]
    · cases h

/-- The induction is on the digits that are left; those read so far denote a number that fits. -/
theorem readDigits_eq_fit (hzero : r.holds 0 = true) (hsign : sign = 1 ∨ sign = -1) {n k : Nat}
    (hn : r.holds (sign * n) = true) (hcs : natOfDigits? n cs = some k) :
    r.readDigits sign (sign * n) cs = r.fit (sign * k) := by
  induction cs generalizing n with
  | nil =>
    obtain rfl : n = k := Option.some.inj hcs
    rw [readDigits, fit_of_holds hn]
  | cons c cs ih =>
    rw [natOfDigits?_cons, Option.bind_eq_some_iff] at hcs
    obtain ⟨d, hd, hrest⟩ := hcs
    have hnext : 10 * (sign * n) + sign * d = sign * (10 * n + d : Nat) := by
      rcases hsign with rfl | rfl <;> push_cast <;> omega
    rw [readDigits, hd]
    simp only
    rw [hnext]
    cases hfit : r.fit (sign * (10 * n + d : Nat)) with
    | ok next =>
      obtain ⟨rfl, hholds⟩ := fit_eq_ok_iff.mp hfit
      exact ih hholds hrest
    | error fault =>
      -- the digits that are left only lead further out
      have hle : 10 * n + d ≤ k := le_of_natOfDigits? hrest
      exact (fit_beyond hzero hsign hle hfit).symm

theorem readDigits_zero_eq_fit (hzero : r.holds 0 = true) (hsign : sign = 1 ∨ sign = -1) {k : Nat}
    (hcs : natOfDigits? 0 cs = some k) : r.readDigits sign 0 cs = r.fit (sign * k) := by
  have hstart : sign * (0 : Nat) = 0 := Int.mul_zero sign
  have hread := readDigits_eq_fit hzero hsign (hstart ▸ hzero) hcs
  rwa [hstart] at hread

theorem isDigit_of_readDigits {n m : Int} (h : r.readDigits sign n cs = .ok m) :
    ∀ c ∈ cs, isDigit c = true := by
  induction cs generalizing n with
  | nil => nofun
  | cons c cs ih =>
    rw [readDigits] at h
    cases hd : digitValue? c with
    | none =>
      rw [hd] at h
      cases h
    | some d =>
      rw [hd] at h
      simp only at h
      cases hfit : r.fit (10 * n + sign * d) with
      | error fault =>
        rw [hfit] at h
        cases h
      | ok next =>
        rw [hfit] at h
        exact List.forall_mem_cons.mpr ⟨Option.isSome_of_eq_some hd, ih h⟩

theorem read_plus (r : Range) (hne : cs ≠ []) : r.read ('+' :: cs) = r.readDigits 1 0 cs := by
  cases cs with
  | nil => exact absurd rfl hne
  | cons c cs => rfl

theorem read_minus (r : Range) (hne : cs ≠ []) : r.read ('-' :: cs) = r.readDigits (-1) 0 cs := by
  cases cs with
  | nil => exact absurd rfl hne
  | cons c cs => rfl

/-- A sign is no digit, so a text that starts with a digit has none. -/
theorem read_unsigned (r : Range) {n k : Nat} (hne : cs ≠ []) (h : natOfDigits? n cs = some k) :
    r.read cs = r.readDigits 1 0 cs := by
  cases cs with
  | nil => exact absurd rfl hne
  | cons c cs =>
    rw [natOfDigits?_cons, Option.bind_eq_some_iff] at h
    obtain ⟨d, hd, -⟩ := h
    have hplus : c ≠ '+' := by
      rintro rfl
      cases hd
    have hminus : c ≠ '-' := by
      rintro rfl
      cases hd
    unfold read
    split <;> simp_all

/-- Reading a text comes to fitting what it denotes, faults included. -/
theorem read_of_denotes (hzero : r.holds 0 = true) {n : Int} (h : Denotes cs n) :
    r.read cs = r.fit n := by
  cases h with
  | unsigned hne h =>
    rw [read_unsigned r hne h, readDigits_zero_eq_fit hzero (.inl rfl) h, Int.one_mul]
  | plus hne h =>
    rw [read_plus r hne, readDigits_zero_eq_fit hzero (.inl rfl) h, Int.one_mul]
  | minus hne h =>
    rw [read_minus r hne, readDigits_zero_eq_fit hzero (.inr rfl) h, Int.neg_one_mul]

theorem exists_natOfDigits?_of_readDigits {n m : Int} (h : r.readDigits sign n cs = .ok m) :
    ∃ k, natOfDigits? 0 cs = some k :=
  exists_natOfDigits? (isDigit_of_readDigits h) 0

theorem exists_denotes_of_read {m : Int} (h : r.read cs = .ok m) : ∃ n, Denotes cs n := by
  unfold read at h
  split at h
  · cases h
  · cases h
  · cases h
  next rest hne =>
    obtain ⟨k, hk⟩ := exists_natOfDigits?_of_readDigits h
    exact ⟨k, .plus hne hk⟩
  next rest hne =>
    obtain ⟨k, hk⟩ := exists_natOfDigits?_of_readDigits h
    exact ⟨-k, .minus hne hk⟩
  next rest hne _ _ _ _ =>
    obtain ⟨k, hk⟩ := exists_natOfDigits?_of_readDigits h
    exact ⟨k, .unsigned hne hk⟩

theorem isOk_read_iff (hzero : r.holds 0 = true) :
    (r.read cs).isOk = true ↔ ∃ n, Denotes cs n ∧ r.holds n = true := by
  constructor
  · intro h
    cases hread : r.read cs with
    | error fault =>
      rw [hread] at h
      cases h
    | ok m =>
      obtain ⟨n, hn⟩ := exists_denotes_of_read hread
      rw [read_of_denotes hzero hn, isOk_fit] at h
      exact ⟨n, hn, h⟩
  · rintro ⟨n, hn, hholds⟩
    rw [read_of_denotes hzero hn, isOk_fit, hholds]

end Range

end PreparedSql.Decimal
