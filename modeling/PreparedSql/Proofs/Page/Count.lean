import PreparedSql.Page.Result

/-!
# The number of pages

The number of pages is a quotient, rounded up. It is computed in words of 64 bits without overflow
and used through the pages that it lets in: those that begin before the last row
(`PageResult.lt_pageCount_iff`). So it is the only number of pages that hold all rows and of which
none is without a row (`PageResult.pageCount_rounds_up`).
-/
namespace PreparedSql.PageResult

variable {α β : Type} {r : PageResult α}

section Quotient

variable {total size : Int64}

/-- The one quotient that does not fit has a negative divisor. -/
theorem toInt_quotient (hsize : 1 ≤ size) :
    (total / size).toInt = total.toInt.tdiv size.toInt := by
  have hne : size ≠ -1 := by
    rintro rfl
    exact absurd hsize (by decide)
  exact Int64.toInt_div_of_ne_right total size hne

theorem rest_eq_zero_iff : total % size = 0 ↔ total.toInt.tmod size.toInt = 0 := by
  rw [← Int64.toInt_inj, Int64.toInt_mod]
  rfl

/-- One row to a page leaves no rest. -/
theorem two_mul_quotient_le_of_rest (hsize : 1 ≤ size)
    (hrest : total.toInt.tmod size.toInt ≠ 0) :
    2 * (total.toInt.tdiv size.toInt).natAbs ≤ total.toInt.natAbs := by
  have hone : 1 ≤ size.toInt := Int64.le_iff_toInt_le.mp hsize
  have hne : size.toInt ≠ 1 := by
    intro h
    rw [h, Int.tmod_one] at hrest
    exact hrest rfl
  have htwo : 2 ≤ size.toInt.natAbs := by omega
  rw [Int.natAbs_tdiv]
  calc 2 * (total.toInt.natAbs / size.toInt.natAbs)
    _ ≤ size.toInt.natAbs * (total.toInt.natAbs / size.toInt.natAbs) :=
      Nat.mul_le_mul_right _ htwo
    _ ≤ total.toInt.natAbs := Nat.mul_div_le _ _

end Quotient

theorem pageCount_of_pageSize_le (hsize : r.pageSize ≤ 0) : r.pageCount = 0 := by
  rw [pageCount, if_pos hsize]

/-- One page more does not overflow, since the quotient then is at most half of what fits. -/
theorem toInt_pageCount (hsize : 1 ≤ r.pageSize) :
    r.pageCount.toInt =
      r.totalCount.toInt.tdiv r.pageSize.toInt +
        if r.totalCount.toInt.tmod r.pageSize.toInt = 0 then 0 else 1 := by
  have hnot : ¬ r.pageSize ≤ 0 := by
    intro h
    exact absurd (Int64.le_trans hsize h) (by decide)
  rw [pageCount, if_neg hnot]
  by_cases hrest : r.totalCount.toInt.tmod r.pageSize.toInt = 0
  · rw [if_pos (rest_eq_zero_iff.mpr hrest), if_pos hrest, Int64.add_zero, Int.add_zero,
      toInt_quotient hsize]
  · have hhalf := two_mul_quotient_le_of_rest hsize hrest
    have hleast := r.totalCount.le_toInt
    have hgreatest := r.totalCount.toInt_lt
    rw [if_neg (mt rest_eq_zero_iff.mp hrest), if_neg hrest, Int64.toInt_add,
      toInt_quotient hsize, Int64.toInt_one]
    exact Int.bmod_eq_of_le (by omega) (by omega)

theorem toInt_pageCount_of_nonneg (htotal : 0 ≤ r.totalCount) (hsize : 1 ≤ r.pageSize) :
    r.pageCount.toInt =
      r.totalCount.toInt / r.pageSize.toInt +
        if r.totalCount.toInt % r.pageSize.toInt = 0 then 0 else 1 := by
  have hnonneg : 0 ≤ r.totalCount.toInt := Int64.le_iff_toInt_le.mp htotal
  rw [toInt_pageCount hsize, Int.tdiv_eq_ediv_of_nonneg hnonneg,
    Int.tmod_eq_emod_of_nonneg hnonneg]

/-- A page is among those counted if it begins before the last row. -/
theorem lt_pageCount_iff (htotal : 0 ≤ r.totalCount) (hsize : 1 ≤ r.pageSize) (index : Int) :
    index < r.pageCount.toInt ↔ index * r.pageSize.toInt < r.totalCount.toInt := by
  have hpos : 0 < r.pageSize.toInt := Int64.le_iff_toInt_le.mp hsize
  rw [toInt_pageCount_of_nonneg htotal hsize]
  generalize r.totalCount.toInt = total
  generalize r.pageSize.toInt = size at hpos
  have hdivision : size * (total / size) + total % size = total := Int.mul_ediv_add_emod total size
  have hrest : 0 ≤ total % size := Int.emod_nonneg total (Int.ne_of_gt hpos)
  have hbelow : total % size < size := Int.emod_lt_of_pos total hpos
  generalize total / size = full at hdivision ⊢
  generalize total % size = rest at hdivision hrest hbelow ⊢
  subst hdivision
  split
  · next hfull =>
    subst hfull
    rw [Int.add_zero, Int.add_zero, Int.mul_comm index size]
    exact (Int.mul_lt_mul_left hpos).symm
  · next hopen =>
    constructor
    · intro h
      have hle : size * index ≤ size * full :=
        Int.mul_le_mul_of_nonneg_left (Int.le_of_lt_add_one h) (Int.le_of_lt hpos)
      rw [Int.mul_comm index size]
      omega
    · intro h
      refine Int.lt_of_mul_lt_mul_left ?_ (Int.le_of_lt hpos)
      rw [Int.mul_add, Int.mul_one, Int.mul_comm size index]
      omega

theorem toInt_pageCount_nonneg (htotal : 0 ≤ r.totalCount) (hsize : 1 ≤ r.pageSize) :
    0 ≤ r.pageCount.toInt := by
  have hnonneg : 0 ≤ r.totalCount.toInt := Int64.le_iff_toInt_le.mp htotal
  have hpos : 1 ≤ r.pageSize.toInt := Int64.le_iff_toInt_le.mp hsize
  have hbefore : -1 < r.pageCount.toInt := (lt_pageCount_iff htotal hsize (-1)).mpr (by omega)
  omega

/-- The last page holds a row, and no row lies behind it. -/
theorem eq_pageCount_iff (htotal : 0 ≤ r.totalCount) (hsize : 1 ≤ r.pageSize) (k : Int) :
    k = r.pageCount.toInt ↔
      (k - 1) * r.pageSize.toInt < r.totalCount.toInt ∧
        r.totalCount.toInt ≤ k * r.pageSize.toInt := by
  rw [← lt_pageCount_iff htotal hsize, ← Int.not_lt, ← lt_pageCount_iff htotal hsize]
  omega

theorem pageCount_eq_zero_iff (htotal : 0 ≤ r.totalCount) (hsize : 1 ≤ r.pageSize) :
    r.pageCount = 0 ↔ r.totalCount = 0 := by
  have hnonneg : 0 ≤ r.totalCount.toInt := Int64.le_iff_toInt_le.mp htotal
  have hpos : 1 ≤ r.pageSize.toInt := Int64.le_iff_toInt_le.mp hsize
  rw [← Int64.toInt_inj, ← Int64.toInt_inj, Int64.toInt_zero, eq_comm,
    eq_pageCount_iff htotal hsize]
  omega

section Comparison

variable {s : PageResult β}

/-- A result has no more pages than another one if each of them also begins before the last row of
the other. -/
theorem pageCount_le_of_begins (htotal : 0 ≤ r.totalCount) (hsize : 1 ≤ r.pageSize)
    (htotal' : 0 ≤ s.totalCount) (hsize' : 1 ≤ s.pageSize)
    (h : ∀ i : Int, 0 ≤ i → i * r.pageSize.toInt < r.totalCount.toInt →
      i * s.pageSize.toInt < s.totalCount.toInt) : r.pageCount ≤ s.pageCount := by
  rw [Int64.le_iff_toInt_le]
  apply Int.not_lt.mp
  intro hlt
  have hbegins := (lt_pageCount_iff htotal hsize _).mp hlt
  have hbeyond := h _ (toInt_pageCount_nonneg htotal' hsize') hbegins
  exact Int.lt_irrefl _ ((lt_pageCount_iff htotal' hsize' _).mpr hbeyond)

theorem pageCount_le_of_totalCount_le (htotal : 0 ≤ r.totalCount) (hsize : 1 ≤ r.pageSize)
    (hsame : s.pageSize = r.pageSize) (hle : r.totalCount ≤ s.totalCount) :
    r.pageCount ≤ s.pageCount := by
  have hle' : r.totalCount.toInt ≤ s.totalCount.toInt := Int64.le_iff_toInt_le.mp hle
  apply pageCount_le_of_begins htotal hsize (Int64.le_trans htotal hle) (hsame ▸ hsize)
  intro i _ hbegins
  rw [hsame]
  exact Int.lt_of_lt_of_le hbegins hle'

theorem pageCount_le_of_pageSize_le (htotal : 0 ≤ r.totalCount) (hsize : 1 ≤ r.pageSize)
    (hsame : s.totalCount = r.totalCount) (hle : r.pageSize ≤ s.pageSize) :
    s.pageCount ≤ r.pageCount := by
  have hle' : r.pageSize.toInt ≤ s.pageSize.toInt := Int64.le_iff_toInt_le.mp hle
  apply pageCount_le_of_begins (hsame ▸ htotal) (Int64.le_trans hsize hle) htotal hsize
  intro i hi hbegins
  rw [hsame] at hbegins
  exact Int.lt_of_le_of_lt (Int.mul_le_mul_of_nonneg_left hle' hi) hbegins

end Comparison

/-- Pages without rows are none at all. Otherwise the number of pages is the exact quotient, rounded
up: each operation on words has the exact result, and the divisor is not zero. For a count of rows
it is the only number of pages that hold all rows and of which none is without a row. More rows do
not make it less, and larger pages do not make it more. It does not depend on the items. -/
theorem pageCount_rounds_up (r : PageResult α) :
    (r.pageSize ≤ 0 → r.pageCount = 0) ∧
      (0 < r.pageSize →
        r.pageSize.toInt ≠ 0 ∧
          (r.totalCount / r.pageSize).toInt = r.totalCount.toInt.tdiv r.pageSize.toInt ∧
          (r.totalCount % r.pageSize).toInt = r.totalCount.toInt.tmod r.pageSize.toInt ∧
          r.pageCount.toInt = r.totalCount.toInt.tdiv r.pageSize.toInt +
            if r.totalCount.toInt.tmod r.pageSize.toInt = 0 then 0 else 1) ∧
      (0 ≤ r.totalCount → 1 ≤ r.pageSize →
        (∀ k : Int, k = r.pageCount.toInt ↔
          (k - 1) * r.pageSize.toInt < r.totalCount.toInt ∧
            r.totalCount.toInt ≤ k * r.pageSize.toInt) ∧
          (r.pageCount = 0 ↔ r.totalCount = 0) ∧
          (∀ s : PageResult β, s.pageSize = r.pageSize → r.totalCount ≤ s.totalCount →
            r.pageCount ≤ s.pageCount) ∧
          ∀ s : PageResult β, s.totalCount = r.totalCount → r.pageSize ≤ s.pageSize →
            s.pageCount ≤ r.pageCount) ∧
      ∀ f : α → β, (r.map f).pageCount = r.pageCount ∧ (r.map f).isPastEnd = r.isPastEnd := by
  refine ⟨pageCount_of_pageSize_le, ?_, ?_, ?_⟩
  · intro hpos
    have hpos' : 0 < r.pageSize.toInt := Int64.lt_iff_toInt_lt.mp hpos
    have hsize : 1 ≤ r.pageSize := Int64.le_iff_toInt_le.mpr hpos'
    exact ⟨Int.ne_of_gt hpos', toInt_quotient hsize, Int64.toInt_mod _ _, toInt_pageCount hsize⟩
  · intro htotal hsize
    exact ⟨eq_pageCount_iff htotal hsize, pageCount_eq_zero_iff htotal hsize,
      fun _ => pageCount_le_of_totalCount_le htotal hsize,
      fun _ => pageCount_le_of_pageSize_le htotal hsize⟩
  · intro f
    refine ⟨rfl, ?_⟩
    rw [isPastEnd, isPastEnd, map, List.isEmpty_map]

example : (PageResult.mk 0 2 Int64.maxValue [1, 2]).pageCount = 4611686018427387904 := by decide

end PreparedSql.PageResult
