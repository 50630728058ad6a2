/-
Module: QueryDesk.Proofs.Page.Numbering
Purpose: Pages and their numbers. The windows of pages follow each other without a gap, within the bounds of
  the policy. The page numbers of a total fit its rows when the rounded quotient has the ceiling of the
  exact one: always up to 2 ^ 53 rows on pages that are not beyond all measure, but not for more.
Imports: QueryDesk.Page.Directive, QueryDesk.Proofs.Number.Ceiling
Main exports: PagePolicy.clamp_bounds, PageDirective.ofPage_bounds, PageDirective.ofPage_follows,
  rowOffset_lt_iff, NumbersRows, numbersRows_iff, pages_tile
-/
import QueryDesk.Page.Directive
import QueryDesk.Proofs.Number.Ceiling

namespace QueryDesk

open QueryDesk.Number QueryDesk.Number.Binary64

/-- A clamped size lies between one and the greatest. -/
theorem PagePolicy.clamp_bounds (policy : PagePolicy) (requested : Option Int) :
    1 ≤ policy.clamp requested ∧ policy.clamp requested ≤ policy.maxSize := by
  have one_le := policy.one_le_default.trans policy.default_le_max
  rw [clamp]
  omega

/-- The first row that a directive leaves to the next page. -/
def PageDirective.stop (directive : PageDirective) : Int :=
  directive.offset + directive.limit

/-- A directive of a page has a size within the bounds, and does not begin before the first row. -/
theorem PageDirective.ofPage_bounds (policy : PagePolicy) (page pageSize : Option Int) :
    1 ≤ (ofPage policy page pageSize).limit ∧ (ofPage policy page pageSize).limit ≤ policy.maxSize ∧
      0 ≤ (ofPage policy page pageSize).offset := by
  obtain ⟨least, most⟩ := policy.clamp_bounds (pageSize.filter (· ≠ 0))
  refine ⟨least, most, Int.mul_nonneg ?_ (by omega)⟩
  omega

/-- The first page begins with the first row, and each page begins where the one before it stops. -/
theorem PageDirective.ofPage_follows (policy : PagePolicy) (pageSize : Option Int) :
    (ofPage policy (some 1) pageSize).offset = 0 ∧
    ∀ page : Int, 1 ≤ page →
      (ofPage policy (some (page + 1)) pageSize).offset = (ofPage policy (some page) pageSize).stop := by
  have current (page : Int) (first : 1 ≤ page) :
      ofPage policy (some page) pageSize =
        { limit := policy.clamp (pageSize.filter (· ≠ 0))
          offset := rowOffset page (policy.clamp (pageSize.filter (· ≠ 0))) } := by
    have other : page ≠ 0 := by omega
    have same : max 1 page = page := by omega
    simp only [ofPage, Option.filter_some, other, ne_eq, not_false_eq_true, decide_true, if_true,
      Option.getD_some, same]
  refine ⟨?_, fun page first => ?_⟩
  · rw [current 1 le_rfl]
    exact Int.zero_mul _
  · rw [current page first, current (page + 1) (by omega), stop, rowOffset, rowOffset]
    ring

/-! ### Pages of a total

The count of the pages is the ceiling of a quotient that was rounded to binary64. All page numbers follow
from this count, and so they fit the rows exactly if it is the ceiling of the exact quotient as well. What
is left is about rounding alone. -/

/-- A page holds a row when it is not after the last one, as the exact quotient counts them. -/
theorem rowOffset_lt_iff {page size total : Int} (positive : 1 ≤ size) :
    rowOffset page size < total ↔ page ≤ ⌈(total : ℚ) / size⌉ := by
  have size_pos : (0 : ℚ) < size := by exact_mod_cast positive
  rw [← Int.sub_one_lt_iff, Int.lt_ceil, lt_div_iff₀ size_pos, rowOffset]
  exact_mod_cast Iff.rfl

/-- The page numbers of a total fit its rows: the numbers of every page are there, the page holds a row
when it is not after the last one, and has a next one when that holds a row. -/
def NumbersRows (size total : Int) : Prop :=
  ∀ page, 1 ≤ page → ∃ found, PageMeta.ofTotal? page size total = some found ∧
    (rowOffset page size < total ↔ page ≤ found.totalPages) ∧
    (found.hasNext = true ↔ rowOffset (page + 1) size < total)

theorem ofTotal?_eq_some_iff {page size total : Int} {found : PageMeta} :
    PageMeta.ofTotal? page size total = some found ↔ ∃ pages, pageCount? total size = some pages ∧
      found = ⟨page, size, total, pages, decide (page < pages), decide (1 < page)⟩ := by
  simp only [PageMeta.ofTotal?, Option.map_eq_some_iff]
  exact exists_congr fun pages => and_congr_right' eq_comm

theorem pageCount?_eq (rows : Nat) {size : Nat} (positive : 0 < size) :
    pageCount? rows size = (ofRatio false rows size).ceil? := by
  rw [pageCount?, if_neg (by omega), quotient]
  rfl

/-- No rows fill no pages. -/
theorem pageCount?_zero {size : Int} (positive : 1 ≤ size) : pageCount? 0 size = some 0 := by
  rw [pageCount?, if_neg (by omega)]
  exact ceil?_ofRatio_zero size.natAbs

/-- The page numbers of a total fit its rows when the count of its pages is the exact one. -/
theorem numbersRows_iff {size total : Int} (positive : 1 ≤ size) (nonneg : 0 ≤ total) :
    NumbersRows size total ↔ pageCount? total size = some ⌈(total : ℚ) / size⌉ := by
  constructor
  · intro numbers
    obtain ⟨found, here, -⟩ := numbers 1 le_rfl
    obtain ⟨pages, count, rfl⟩ := ofTotal?_eq_some_iff.1 here
    rcases nonneg.eq_or_lt with rfl | some_rows
    · rw [pageCount?_zero positive, Int.cast_zero, zero_div, Int.ceil_zero]
    have same (page : Int) (first : 1 ≤ page) : page ≤ ⌈(total : ℚ) / size⌉ ↔ page ≤ pages := by
      obtain ⟨found, here, holds, -⟩ := numbers page first
      obtain ⟨pages', count', rfl⟩ := ofTotal?_eq_some_iff.1 here
      obtain rfl : pages' = pages := Option.some.inj (count'.symm.trans count)
      rw [← rowOffset_lt_iff positive, holds]
    have some_page : 1 ≤ ⌈(total : ℚ) / size⌉ := by
      rw [← rowOffset_lt_iff positive, rowOffset]
      omega
    have first := (same 1 le_rfl).1 some_page
    rw [count, le_antisymm ((same pages first).2 le_rfl) ((same _ some_page).1 le_rfl)]
  · intro count page first
    refine ⟨_, ofTotal?_eq_some_iff.2 ⟨_, count, rfl⟩, rowOffset_lt_iff positive, ?_⟩
    rw [rowOffset_lt_iff positive]
    exact decide_eq_true_iff

theorem isSome_ofTotal?_iff {page size total : Int} (positive : 1 ≤ size) (nonneg : 0 ≤ total) :
    (PageMeta.ofTotal? page size total).isSome = true ↔ total < (2 ^ 54 - 1) * 2 ^ 970 * size := by
  obtain ⟨size, rfl⟩ := Int.eq_ofNat_of_zero_le (by omega : 0 ≤ size)
  obtain ⟨rows, rfl⟩ := Int.eq_ofNat_of_zero_le nonneg
  have size_pos : 0 < size := by omega
  rw [PageMeta.ofTotal?, Option.isSome_map, pageCount?_eq rows size_pos,
    isSome_ceil?_ofRatio_iff size_pos, ← Nat.cast_lt (α := Int), Nat.cast_mul, Nat.cast_mul,
    Nat.cast_pow, Nat.cast_ofNat]
  rfl

/-- The count of pages is the exact one when the rounded quotient has the ceiling of the exact one. -/
theorem numbersRows_iff_ceil {size total : Int} (positive : 1 ≤ size) (nonneg : 0 ≤ total) :
    NumbersRows size total ↔ ∃ rounded, (quotient total size).toRat? = some rounded ∧
      ⌈rounded⌉ = ⌈(total : ℚ) / size⌉ := by
  rw [numbersRows_iff positive nonneg, pageCount?, if_neg (by omega), ceil?_eq_some_iff]

/-- Up to 2 ^ 53 rows only an immense page size keeps the page numbers from fitting the rows. -/
theorem numbersRows_iff_of_le {size total : Int} (positive : 1 ≤ size) (nonneg : 0 ≤ total)
    (few : total ≤ 2 ^ 53) : NumbersRows size total ↔ total = 0 ∨ size < 2 ^ 1075 * total := by
  obtain ⟨size, rfl⟩ := Int.eq_ofNat_of_zero_le (by omega : 0 ≤ size)
  obtain ⟨rows, rfl⟩ := Int.eq_ofNat_of_zero_le nonneg
  have size_pos : 0 < size := by omega
  rw [numbersRows_iff positive nonneg, pageCount?_eq rows size_pos]
  rcases Nat.eq_zero_or_pos rows with rfl | some_rows
  · refine iff_of_true ?_ (.inl rfl)
    rw [ceil?_ofRatio_zero]
    norm_num
  · have kept := ceil?_ofRatio_iff some_rows size_pos (by exact_mod_cast few)
    rw [Int.cast_natCast, Int.cast_natCast, kept, ← Nat.cast_lt (α := Int), Nat.cast_mul,
      Nat.cast_pow, Nat.cast_ofNat, or_iff_right (by omega)]

/-- Page numbers. The window of every page lies within the bounds of the policy and begins where the one of
the page before stops. A total has page numbers when its quotient is not beyond all finite numbers, and
they fit its rows when rounding the quotient crosses no whole number. Up to 2 ^ 53 rows that fails only
for pages so large that the quotient is rounded to zero. -/
theorem pages_tile (policy : PagePolicy) (pageSize : Option Int) :
    (∀ page, 1 ≤ (PageDirective.ofPage policy page pageSize).limit ∧
      (PageDirective.ofPage policy page pageSize).limit ≤ policy.maxSize ∧
      0 ≤ (PageDirective.ofPage policy page pageSize).offset) ∧
    (PageDirective.ofPage policy (some 1) pageSize).offset = 0 ∧
    (∀ page : Int, 1 ≤ page →
      (PageDirective.ofPage policy (some (page + 1)) pageSize).offset =
        (PageDirective.ofPage policy (some page) pageSize).stop) ∧
    ∀ size total : Int, 1 ≤ size → 0 ≤ total →
      (∀ page, (PageMeta.ofTotal? page size total).isSome = true ↔
        total < (2 ^ 54 - 1) * 2 ^ 970 * size) ∧
      (NumbersRows size total ↔ ∃ rounded, (quotient total size).toRat? = some rounded ∧
        ⌈rounded⌉ = ⌈(total : ℚ) / size⌉) ∧
      (total ≤ 2 ^ 53 → (NumbersRows size total ↔ total = 0 ∨ size < 2 ^ 1075 * total)) := by
  obtain ⟨first, follows⟩ := PageDirective.ofPage_follows policy pageSize
  refine ⟨fun page => PageDirective.ofPage_bounds policy page pageSize, first, follows,
    fun size total positive nonneg => ?_⟩
  exact ⟨fun page => isSome_ofTotal?_iff positive nonneg, numbersRows_iff_ceil positive nonneg,
    numbersRows_iff_of_le positive nonneg⟩

/-- The most rows whose pages are always counted, on pages of three: the last page has two rows. -/
theorem pages_tile_of_most_rows :
    (1 : Int) ≤ 3 ∧ (0 : Int) ≤ 2 ^ 53 ∧ NumbersRows 3 (2 ^ 53) ∧
      (PageDirective.ofPage .standard (some 3) none).offset =
        (PageDirective.ofPage .standard (some 2) none).stop := by
  obtain ⟨-, -, follows, numbers⟩ := pages_tile .standard none
  refine ⟨by decide, by decide, ?_, follows 2 (by decide)⟩
  exact ((numbers 3 (2 ^ 53) (by decide) (by decide)).2.2 le_rfl).2 (.inr (by decide +kernel))

/-- One row more, on pages of one row: the quotient is rounded down, so that the last page is not counted
although it holds a row, and the page before it has no next one. -/
theorem not_numbersRows_of_more_rows :
    ((PageMeta.ofTotal? (2 ^ 53) 1 (2 ^ 53 + 1)).map fun found => (found.totalPages, found.hasNext)) =
        some (2 ^ 53, false) ∧
      rowOffset (2 ^ 53 + 1) 1 < 2 ^ 53 + 1 ∧ ¬ NumbersRows 1 (2 ^ 53 + 1) := by
  have short : (PageMeta.ofTotal? (2 ^ 53) 1 (2 ^ 53 + 1)).map
      (fun found => (found.totalPages, found.hasNext)) = some (2 ^ 53, false) := by decide +kernel
  refine ⟨short, by decide, fun numbers => ?_⟩
  obtain ⟨found, here, -, next⟩ := numbers (2 ^ 53) (by decide)
  rw [here] at short
  have last : found.hasNext = false := congrArg Prod.snd (Option.some.inj short)
  rw [last] at next
  exact absurd (next.2 (by decide)) Bool.false_ne_true

end QueryDesk
