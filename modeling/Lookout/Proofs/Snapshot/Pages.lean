import Mathlib.Data.List.Basic
import Lookout.Snapshot

/-! # Pages
A query answers with one page of the rows that match, and with their number. Where a page starts is
computed in 64 bits and may come out too small for pages far beyond the last one. This file shows
that this never matters, and that the pages fit together: **one after the other they are the rows
that match**.

* `Snapshot.data_query`: a page in terms of the exact product of its index and its size.
* `flatMap_pages`: the first pages of a list are what the list starts with.
* `Snapshot.pages_partition`: the whole statement. -/

namespace Lookout

/-! ## Lists by the page -/

/-- From a place after its end on a list has nothing, so that the place need not be known. -/
theorem drop_min_of_length_le {α : Type} {l : List α} {m : Nat} (hm : l.length ≤ m) (n : Nat) :
    l.drop (min n m) = l.drop n := by
  rcases Nat.le_total n m with h | h
  · rw [Nat.min_eq_left h]
  · rw [Nat.min_eq_right h, List.drop_eq_nil_of_le hm, List.drop_eq_nil_of_le (Nat.le_trans hm h)]

/-- The first pages of a list are what the list starts with. -/
theorem flatMap_pages {α : Type} (l : List α) (size pages : Nat) :
    ((List.range pages).flatMap fun k => (l.drop (k * size)).take size) = l.take (pages * size) := by
  induction pages with
  | zero => simp
  | succ pages ih =>
      rw [List.range_succ, List.flatMap_append, ih, Nat.succ_mul, List.take_add]
      simp

namespace PageSize

/-- How many pages it takes for so many rows. -/
def pagesFor (p : PageSize) (rows : Nat) : Nat := (rows + p.toNat - 1) / p.toNat

/-- It takes the pages that start before the end. -/
theorem lt_pagesFor_iff {p : PageSize} {k rows : Nat} :
    k < p.pagesFor rows ↔ k * p.toNat < rows := by
  have hpos := p.toNat_pos
  rw [pagesFor, Nat.lt_iff_add_one_le, Nat.le_div_iff_mul_le hpos, Nat.succ_mul]
  omega

/-- All rows are on the pages that it takes. -/
theorem le_pagesFor_mul (p : PageSize) (rows : Nat) : rows ≤ p.pagesFor rows * p.toNat :=
  Nat.not_lt.mp fun h => Nat.lt_irrefl _ (lt_pagesFor_iff.mpr h)

/-- No page that it takes has an index beyond the rows. -/
theorem lt_of_lt_pagesFor {p : PageSize} {k rows : Nat} (h : k < p.pagesFor rows) : k < rows :=
  Nat.lt_of_le_of_lt (Nat.le_mul_of_pos_right k p.toNat_pos) (lt_pagesFor_iff.mp h)

end PageSize

/-! ## The pages of a query -/

/-- Criteria that ask for the same rows by pages of another size, and for one of these pages. -/
def Criteria.paged (c : Criteria) (p : PageSize) (k : UInt64) : Criteria :=
  { c with pageSize := p, offset := k }

namespace Snapshot

variable {d : Snapshot} {c : Criteria}

/-- Which rows match is not a matter of pages. -/
@[simp] theorem matching_paged (d : Snapshot) (c : Criteria) (p : PageSize) (k : UInt64) :
    d.matching (c.paged p k) = d.matching c := rfl

/-- The rows that match can be counted. -/
theorem length_matching_lt (d : Snapshot) (c : Criteria) :
    (d.matching c).length < UInt64.size :=
  Nat.lt_of_le_of_lt (List.length_filter_le _ _) d.countable

/-- The count of a query is exact. -/
@[simp] theorem toNat_count_query (d : Snapshot) (c : Criteria) :
    (d.query c).count.toNat = (d.matching c).length :=
  UInt64.toNat_ofNat_of_lt' (d.length_matching_lt c)

/-- **A page starts where the exact product says**: where the computed one is smaller, both lie
beyond the last row. -/
theorem data_query (d : Snapshot) (c : Criteria) :
    (d.query c).data =
      ((d.matching c).drop (c.offset.toNat * c.pageSize.toNat)).take c.pageSize.toNat := by
  have hlast : (d.matching c).length ≤ UInt64.size - 1 :=
    Nat.le_sub_one_of_lt (d.length_matching_lt c)
  have hskipped : c.rowsSkipped.toNat =
      min (c.offset.toNat * c.pageSize.toNat) (UInt64.size - 1) := by
    rw [Criteria.rowsSkipped, toNat_saturatingMul, UInt32.toNat_toUInt64, PageSize.toNat]
  rw [query, hskipped, drop_min_of_length_le hlast]

/-- **The pages of a query partition the rows that match**, whatever their size is. A query says how
many rows match, whichever page it asks for, and its page holds the rows from the exact product of
index and size on, as many as fit. So the pages it takes for all of them, one after the other, are
these rows in their order, each of them once, and every later page is empty. -/
theorem pages_partition (d : Snapshot) (c : Criteria) (p : PageSize) :
    (∀ k, (d.query (c.paged p k)).count.toNat = (d.matching c).length ∧
      (d.query (c.paged p k)).data =
        ((d.matching c).drop (k.toNat * p.toNat)).take p.toNat) ∧
      ((List.range (p.pagesFor (d.matching c).length)).flatMap fun k =>
        (d.query (c.paged p (.ofNat k))).data) = d.matching c ∧
      ∀ k : UInt64, p.pagesFor (d.matching c).length ≤ k.toNat →
        (d.query (c.paged p k)).data = [] := by
  have hpage : ∀ k, (d.query (c.paged p k)).data =
      ((d.matching c).drop (k.toNat * p.toNat)).take p.toNat :=
    fun k => data_query d (c.paged p k)
  refine ⟨fun k => ⟨toNat_count_query d (c.paged p k), hpage k⟩, ?_, ?_⟩
  · -- The index of a page that is needed is less than the number of rows, so it has 64 bits.
    have hindex : ∀ k ∈ List.range (p.pagesFor (d.matching c).length),
        (d.query (c.paged p (.ofNat k))).data =
          ((d.matching c).drop (k * p.toNat)).take p.toNat := by
      intro k hk
      have hlt : k < UInt64.size :=
        Nat.lt_trans (PageSize.lt_of_lt_pagesFor (List.mem_range.mp hk)) (d.length_matching_lt c)
      rw [hpage, UInt64.toNat_ofNat_of_lt' hlt]
    rw [List.flatMap_congr hindex, flatMap_pages]
    exact List.take_of_length_le (p.le_pagesFor_mul _)
  · intro k hk
    have hend : (d.matching c).length ≤ k.toNat * p.toNat :=
      Nat.not_lt.mp fun h => Nat.not_lt.mpr hk (PageSize.lt_pagesFor_iff.mpr h)
    rw [hpage, List.drop_eq_nil_of_le hend, List.take_nil]

end Snapshot

end Lookout
