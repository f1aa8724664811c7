import FeedWatch.Proofs.Number.Quotients
import FeedWatch.Registry
import Mathlib.Data.List.Basic

/-!
# Pages of the list of filters

Pages are counted from one, and their number is that of the filters divided by the size of a page
and rounded up.  What is on them comes down to one fact: a page is there exactly if the list goes
beyond the pages before it (`Registry.lt_totalPages_iff`).  The number of pages stays the same if the
quotient is made a binary64 number before it is rounded up (`Registry.totalPages_eq_ceil`).

Main statement: the pages that are there hold every filter once and in order, all of them are full
but the last one, which is not empty, and nothing stands behind them (`Registry.page_partition`).
-/

namespace FeedWatch.Registry

variable {r : Registry} {p : Int} {n : Nat}

/-! ## What is on a page -/

/-- What is on the page behind `n` others. -/
lemma filters_page :
    (r.page (n + 1)).filters = (r.filters.drop (n * pageSize)).take pageSize := by
  have hpage : max ((n : Int) + 1) 1 = n + 1 := max_eq_left (by omega)
  rw [page]
  dsimp only
  rw [hpage, Int.toNat_natCast_add_one, Nat.add_sub_cancel]

lemma length_filters_page :
    (r.page (n + 1)).filters.length = min pageSize (r.filters.length - n * pageSize) := by
  rw [filters_page, List.length_take, List.length_drop]

/-- The first pages hold the first filters, in order. -/
lemma flatMap_pages : (List.range n).flatMap (fun i : Nat => (r.page (i + 1)).filters) =
    r.filters.take (n * pageSize) := by
  induction n with
  | zero => rw [Nat.zero_mul, List.take_zero, List.range_zero, List.flatMap_nil]
  | succ n ih =>
    rw [List.range_succ, List.flatMap_append, ih, List.flatMap_singleton, filters_page,
      Nat.succ_mul, List.take_add]

/-- A page below the first one is the first. -/
lemma page_of_lt_one (h : p < 1) : r.page p = r.page 1 := by
  rw [page, page, max_eq_right h.le, max_self]

/-! ## How many pages there are -/

/-- A page is there exactly if the list goes beyond the pages before it. -/
lemma lt_totalPages_iff : n < (r.page p).totalPages ↔ n * pageSize < r.filters.length := by
  rw [page]
  dsimp only [pageSize]
  omega

/-- There is room for all filters. -/
lemma length_le_totalPages : r.filters.length ≤ (r.page p).totalPages * pageSize :=
  not_lt.1 (lt_totalPages_iff.not.1 (lt_irrefl (r.page p).totalPages))

/-- There are no more pages than it takes. -/
lemma totalPages_mul_lt : (r.page p).totalPages * pageSize < r.filters.length + pageSize := by
  cases htotal : (r.page p).totalPages with
  | zero =>
    rw [Nat.zero_mul]
    exact Nat.lt_add_left r.filters.length (by decide)
  | succ n =>
    have hlast : n < (r.page p).totalPages := htotal ▸ n.lt_succ_self
    rw [Nat.succ_mul]
    exact Nat.add_lt_add_right (lt_totalPages_iff.1 hlast) pageSize

/-- The number of pages is the quotient rounded up, also if the quotient is made a binary64 number
first. -/
lemma totalPages_eq_ceil (h : r.filters.length < pageSize * 2 ^ 49) :
    ((r.page p).totalPages : Int) =
      ⌈(Binary64.ofRatio false r.filters.length pageSize).value⌉ := by
  have hsize : (0 : ℚ) < pageSize := by
    rw [pageSize]
    norm_num
  rw [Binary64.ceil_value_ofRatio (k := 3) (by decide) (by decide) (by decide) h]
  symm
  rw [Int.ceil_eq_iff, lt_div_iff₀ hsize, div_le_iff₀ hsize, sub_one_mul, sub_lt_iff_lt_add]
  constructor
  · exact_mod_cast totalPages_mul_lt
  · exact_mod_cast length_le_totalPages

lemma totalPages_eq_zero_iff : (r.page p).totalPages = 0 ↔ r.filters = [] := by
  have hfirst : 0 < (r.page p).totalPages ↔ 0 < r.filters.length := by
    rw [lt_totalPages_iff, Nat.zero_mul]
  rw [← List.length_eq_zero_iff]
  omega

/-! ## The pages that are there -/

lemma exists_eq_add_one (h : 1 ≤ p) : ∃ n : Nat, p = n + 1 := ⟨(p - 1).toNat, by omega⟩

/-- No page that is there is empty. -/
lemma filters_ne_nil (hfirst : 1 ≤ p) (hlast : p ≤ (r.page p).totalPages) :
    (r.page p).filters ≠ [] := by
  obtain ⟨n, rfl⟩ := exists_eq_add_one hfirst
  have hn : n < (r.page (n + 1)).totalPages := by omega
  rw [← List.length_pos_iff, length_filters_page]
  exact lt_min (by decide) (Nat.sub_pos_of_lt (lt_totalPages_iff.1 hn))

/-- All pages but the last are full. -/
lemma length_filters_of_lt (hfirst : 1 ≤ p) (hlast : p < (r.page p).totalPages) :
    (r.page p).filters.length = pageSize := by
  obtain ⟨n, rfl⟩ := exists_eq_add_one hfirst
  have hnext : n + 1 < (r.page (n + 1)).totalPages := by omega
  rw [lt_totalPages_iff, Nat.succ_mul] at hnext
  rw [length_filters_page]
  exact min_eq_left (Nat.le_sub_of_add_le' hnext.le)

/-- The pages behind the last one are empty. -/
lemma filters_of_totalPages_lt (h : (r.page p).totalPages < p) : (r.page p).filters = [] := by
  obtain ⟨n, rfl⟩ := exists_eq_add_one (show 1 ≤ p by omega)
  have hn : ¬ n < (r.page (n + 1)).totalPages := by omega
  rw [lt_totalPages_iff, not_lt] at hn
  rw [filters_page, List.drop_eq_nil_of_le hn, List.take_nil]

/-- The pages that are there hold all filters, once and in order.  None of them is empty and all but
the last are full.  The pages behind them are empty and those below the first are the first.  Only
without filters there is no page.  The number of pages may be computed in binary64. -/
theorem page_partition (r : Registry) :
    ∃ total, (∀ p, (r.page p).totalPages = total) ∧
      (r.filters.length < pageSize * 2 ^ 49 →
        (total : Int) = ⌈(Binary64.ofRatio false r.filters.length pageSize).value⌉) ∧
      (List.range total).flatMap (fun i : Nat => (r.page (i + 1)).filters) = r.filters ∧
      (∀ p : Int, 1 ≤ p → p ≤ total → (r.page p).filters ≠ []) ∧
      (∀ p : Int, 1 ≤ p → p < total → (r.page p).filters.length = pageSize) ∧
      (∀ p : Int, total < p → (r.page p).filters = []) ∧
      (∀ p < 1, r.page p = r.page 1) ∧
      (total = 0 ↔ r.filters = []) := by
  have hsame : ∀ p, (r.page p).totalPages = (r.page 1).totalPages := fun p => rfl
  refine ⟨(r.page 1).totalPages, hsame, totalPages_eq_ceil, ?_, fun p hfirst hlast => ?_,
    fun p hfirst hlast => ?_, fun p hbehind => ?_, fun p => page_of_lt_one, totalPages_eq_zero_iff⟩
  · rw [flatMap_pages, List.take_of_length_le length_le_totalPages]
  · exact filters_ne_nil hfirst (hsame p ▸ hlast)
  · exact length_filters_of_lt hfirst (hsame p ▸ hlast)
  · exact filters_of_totalPages_lt (hsame p ▸ hbehind)

/-- Eleven filters are on two pages, and the second holds one of them. -/
theorem page_partition_eleven :
    let filters : List Filter := (List.range 11).map fun n => ⟨"sword", ⟨"sword", []⟩, .null, n⟩
    let r : Registry := ⟨Settings.initial "!", filters⟩
    (r.page 1).totalPages = 2 ∧ (r.page 1).filters ++ (r.page 2).filters = filters ∧
      (r.page 1).filters.length = 10 ∧ (r.page 2).filters ≠ [] ∧ (r.page 3).filters = [] ∧
      r.page (-4) = r.page 1 ∧ ⌈(Binary64.ofRatio false 11 10).value⌉ = 2 := by
  intro filters r
  obtain ⟨total, htotal, hceil, hall, hnonempty, hfull, hbehind, hbelow, -⟩ := page_partition r
  have htwo : (r.page 1).totalPages = 2 := by decide
  obtain rfl : 2 = total := htwo.symm.trans (htotal 1)
  refine ⟨htwo, ?_, ?_, ?_, ?_, ?_, ?_⟩
  · simpa [List.range_succ] using hall
  · exact hfull 1 (by decide) (by decide)
  · exact hnonempty 2 (by decide) (by decide)
  · exact hbehind 3 (by decide)
  · exact hbelow (-4) (by decide)
  · exact (hceil (by decide)).symm

end FeedWatch.Registry
