import Mathlib.Data.Set.Card
import Lookout.Proofs.Cli.Answer
import Lookout.Proofs.Dashboard.EmptyStates

/-! # The header of a table
Above a table stands how many rows it has of how many, and which page it is of how many. The numbers
have 64 bits, and are computed from the view alone. This file shows that **they agree with each
other and with the snapshot, and that nothing overflows on the way**: there is a header only if
there are rows, a page with rows starts before the last match, and the matches can be counted.

* `divCeil`, as arithmetic on natural numbers.
* `View.SettledOver`: the views that a listing comes to show over a snapshot.
* `HeaderAgrees`: what a header says, all of it.
* `header_of_settled_view`: the whole statement. -/

namespace Lookout

open Cli Listing

/-! ## Rounding up -/

/-- A quotient that is rounded up is the quotient, or the next number if there is a remainder. -/
theorem add_sub_one_div (a : Nat) {b : Nat} (hb : 0 < b) :
    (a + b - 1) / b = a / b + if a % b = 0 then 0 else 1 := by
  have hsplit := Nat.div_add_mod a b
  have hmod := Nat.mod_lt a hb
  split
  · next hzero =>
      have hsum : a + b - 1 = b * (a / b) + (b - 1) := by omega
      rw [hsum, Nat.mul_add_div hb, Nat.div_eq_of_lt (Nat.sub_one_lt_of_lt hb)]
  · next hrest =>
      have hsum : a + b - 1 = b * (a / b) + (b + (a % b - 1)) := by omega
      have hlast : (a % b - 1) / b = 0 := Nat.div_eq_of_lt (by omega)
      rw [hsum, Nat.mul_add_div hb, Nat.add_div_left _ hb, hlast]

namespace Cli

/-- If there is a remainder, the quotient has a next number. -/
theorem toNat_div_add_one {a b : UInt64} (h : a % b ≠ 0) :
    (a / b + 1).toNat = a.toNat / b.toNat + 1 := by
  have hrest : 0 < a.toNat % b.toNat := by
    refine Nat.pos_of_ne_zero fun hzero => h (UInt64.toNat_inj.mp ?_)
    rw [UInt64.toNat_mod, hzero]
    rfl
  -- The quotient is less than what is divided, for the remainder is not part of it.
  have hlt : a.toNat / b.toNat + 1 < UInt64.size := by
    have hsplit := Nat.div_add_mod a.toNat b.toNat
    have ha : a.toNat < UInt64.size := a.toNat_lt
    rcases Nat.eq_zero_or_pos b.toNat with hzero | hpos
    · rw [hzero, Nat.div_zero]
      decide
    · have hle := Nat.le_mul_of_pos_left (a.toNat / b.toNat) hpos
      omega
  rw [UInt64.toNat_add, UInt64.toNat_div]
  exact Nat.mod_eq_of_lt hlt

/-- Rounding up is exact. -/
theorem toNat_divCeil (a : UInt64) {b : UInt64} (hb : b ≠ 0) :
    (divCeil a b).toNat = (a.toNat + b.toNat - 1) / b.toNat := by
  have hpos : 0 < b.toNat := Nat.pos_of_ne_zero fun h => hb (UInt64.toNat_inj.mp h)
  have hmod : a % b = 0 ↔ a.toNat % b.toNat = 0 := by
    rw [← UInt64.toNat_inj, UInt64.toNat_mod]
    rfl
  rw [add_sub_one_div a.toNat hpos, divCeil]
  split
  · next h => rw [if_pos (hmod.mp h), UInt64.toNat_div, Nat.add_zero]
  · next h => rw [if_neg (mt hmod.mpr h), toNat_div_add_one h]

end Cli

/-- So many 64-bit numbers are less than a number. -/
theorem ncard_toNat_lt {m : Nat} (hm : m ≤ UInt64.size) : {k : UInt64 | k.toNat < m}.ncard = m := by
  have himage : {k : UInt64 | k.toNat < m} = UInt64.ofNat '' (Finset.range m : Set Nat) := by
    ext k
    refine ⟨fun hk => ⟨k.toNat, Finset.mem_coe.mpr (Finset.mem_range.mpr hk), k.ofNat_toNat⟩, ?_⟩
    rintro ⟨n, hn, rfl⟩
    have hlt : n < m := Finset.mem_range.mp (Finset.mem_coe.mp hn)
    rw [Set.mem_ofPred_eq, UInt64.toNat_ofNat_of_lt' (Nat.lt_of_lt_of_le hlt hm)]
    exact hlt
  have hinjective : Set.InjOn UInt64.ofNat (Finset.range m : Set Nat) := by
    intro n hn k hk heq
    have hn' := Nat.lt_of_lt_of_le (Finset.mem_range.mp (Finset.mem_coe.mp hn)) hm
    have hk' := Nat.lt_of_lt_of_le (Finset.mem_range.mp (Finset.mem_coe.mp hk)) hm
    rw [← UInt64.toNat_ofNat_of_lt' hn', heq, UInt64.toNat_ofNat_of_lt' hk']
  rw [himage, hinjective.ncard_image, Set.ncard_coe_finset, Finset.card_range]

/-! ## Settled views -/

namespace Listing.View

/-- A view is **settled** for criteria over a snapshot if a listing whose queries the snapshot
answers can come to show it, for these criteria and with nothing awaited. -/
def SettledOver (v : View) (d : Snapshot) (c : Criteria) : Prop :=
  ∃ s j es l, Trace s j es l ∧ AnsweredBy d.query j ∧ l.engine.published = v ∧
    v.isSettledFor c = true

variable {v : View} {d : Snapshot} {c : Criteria}

/-- A settled view reflects the snapshot. -/
theorem SettledOver.reflects (h : v.SettledOver d c) :
    v.loading = false ∧ v.criteria = c ∧ ∃ defaults, v.Reflects d defaults := by
  obtain ⟨s, j, es, l, ht, ha, rfl, hsettled⟩ := h
  obtain ⟨hl, hc⟩ : l.engine.published.loading = false ∧ l.engine.published.criteria = c := by
    simpa [isSettledFor] using hsettled
  obtain ⟨herror, hpage, hfiltered⟩ := ht.view_of_answeredBy ha hl
  exact ⟨hl, hc, s.defaults, herror, congrArg Page.data hpage, congrArg Page.count hpage, hfiltered⟩

/-- A listing that starts with some criteria in force has its view settled by the first answer. -/
theorem settledOver_atRest (d : Snapshot) (defaults c : Criteria) :
    (atRest d defaults c).SettledOver d c := by
  have h := (Trace.start (s := ⟨defaults, c, 0⟩)).respond 1 (.ok (d.query c)) rfl
  refine ⟨_, _, _, _, h, ?_, rfl, ?_⟩
  · intro t c' o ha ho
    -- There is one question, for the criteria in force, and one answer.
    have hasked : .asked t c' ∈ [Entry.answered 1 (.ok (d.query c)), .asked 1 c] := ha
    have hanswered : .answered t o ∈ [Entry.answered 1 (.ok (d.query c)), .asked 1 c] := ho
    obtain ⟨rfl, rfl⟩ : t = 1 ∧ c' = c := by simpa using hasked
    simpa using hanswered
  · simp [isSettledFor, atRest]

end Listing.View

/-! ## The numbers of a header -/

namespace Cli

/-- The header of a view **agrees** with a snapshot: the numbers in it are what they should be, and
every 64-bit number on the way to them is the number it is meant to be. -/
structure HeaderAgrees (v : View) (d : Snapshot) : Prop where
  /-- The header stands above the table. -/
  lines_eq : viewLines v = header v :: table v.rows
  /-- The total is the number of all matches. -/
  total_eq : v.totalCount.toNat = (d.matching v.criteria).length
  /-- Nothing is divided by zero. -/
  divisor_ne_zero : v.criteria.pageSize.val.toUInt64 ≠ 0
  /-- A quotient that has to be rounded up has a next number. -/
  roundUp_eq : v.totalCount % v.criteria.pageSize.val.toUInt64 ≠ 0 →
    (v.totalCount / v.criteria.pageSize.val.toUInt64 + 1).toNat =
      v.totalCount.toNat / v.criteria.pageSize.toNat + 1
  /-- So has the index of the page. -/
  pageNumber_eq : (pageNumber v).toNat = v.criteria.offset.toNat + 1
  /-- The number of pages is the total divided by the page size, rounded up. -/
  pageCount_eq : (pageCount v).toNat =
    (v.totalCount.toNat + v.criteria.pageSize.toNat - 1) / v.criteria.pageSize.toNat
  /-- The page is one of the pages. -/
  pageNumber_le : 1 ≤ (pageNumber v).toNat ∧ (pageNumber v).toNat ≤ (pageCount v).toNat
  /-- The page is full, or holds what is left. -/
  length_rows_eq : v.rows.length = min v.criteria.pageSize.toNat
    (v.totalCount.toNat - ((pageNumber v).toNat - 1) * v.criteria.pageSize.toNat)
  /-- There are rows. -/
  length_rows_pos : 0 < v.rows.length
  /-- The pages that are counted are those with rows on them. -/
  hasRows_iff : ∀ k, (d.query (v.criteria.paged v.criteria.pageSize k)).data ≠ [] ↔
    k.toNat < (pageCount v).toNat
  /-- There are as many pages with rows as the header says. -/
  ncard_hasRows : {k | (d.query (v.criteria.paged v.criteria.pageSize k)).data ≠ []}.ncard =
    (pageCount v).toNat
  /-- The header reads as it should: how many rows there are on the page and how many match, the
  number of the page, and how many pages the matches take. -/
  header_eq : header v = "Entities (" ++ toString (d.query v.criteria).data.length ++ " of "
    ++ toString (d.matching v.criteria).length ++ " total, page "
    ++ toString (v.criteria.offset.toNat + 1) ++ "/"
    ++ toString (((d.matching v.criteria).length + v.criteria.pageSize.toNat - 1)
      / v.criteria.pageSize.toNat) ++ "):"

variable {v : View} {d : Snapshot} {c : Criteria}

/-- A page size is the same number in 64 bits. -/
theorem toNat_divisor (p : PageSize) : p.val.toUInt64.toNat = p.toNat :=
  UInt32.toNat_toUInt64 p.val

/-- No page size is zero in 64 bits. -/
theorem divisor_ne_zero (p : PageSize) : p.val.toUInt64 ≠ 0 := by
  intro h
  have hpos := p.toNat_pos
  rw [← toNat_divisor, h] at hpos
  exact absurd hpos (by decide)

/-- If there are matches, they take as many pages as are counted. -/
theorem toNat_pageCount (h : v.totalCount ≠ 0) :
    (pageCount v).toNat = v.criteria.pageSize.pagesFor v.totalCount.toNat := by
  have hdiv : (divCeil v.totalCount v.criteria.pageSize.val.toUInt64).toNat =
      v.criteria.pageSize.pagesFor v.totalCount.toNat := by
    rw [toNat_divCeil _ (divisor_ne_zero _), toNat_divisor, PageSize.pagesFor]
  have hpos : 0 < v.criteria.pageSize.pagesFor v.totalCount.toNat := by
    rw [PageSize.lt_pagesFor_iff, Nat.zero_mul]
    exact Nat.pos_of_ne_zero fun hzero => h (UInt64.toNat_inj.mp hzero)
  have hle : 1 ≤ divCeil v.totalCount v.criteria.pageSize.val.toUInt64 := by
    rw [UInt64.le_iff_toNat_le, hdiv]
    exact hpos
  rw [← hdiv]
  exact congrArg UInt64.toNat (if_pos hle)

/-- **A view that reflects a snapshot and shows rows has a header that agrees with it.** -/
theorem headerAgrees_of_reflects {defaults : Criteria} (h : v.Reflects d defaults)
    (hl : v.loading = false) (hrows : v.emptyState = none) : HeaderAgrees v d := by
  have hsome : v.rows ≠ [] := by
    intro hnil
    rw [View.emptyState_of_not_loading hl, if_pos hnil] at hrows
    cases hrows
  have htotal : v.totalCount.toNat = (d.matching v.criteria).length := by
    rw [h.totalCount_eq, Snapshot.toNat_count_query]
  -- A page with rows starts before the last match, so its index is small.
  have hbefore : v.criteria.offset.toNat * v.criteria.pageSize.toNat < v.totalCount.toNat := by
    rw [htotal, ← Criteria.rowsBefore]
    exact Nat.not_le.mp fun hle => hsome (h.rows_eq.trans (Snapshot.data_query_eq_nil_iff.mpr hle))
  have hindex := PageSize.lt_pagesFor_iff.mpr hbefore
  -- There are more matches than pages before this one, and the matches can be counted.
  have hnumber : (pageNumber v).toNat = v.criteria.offset.toNat + 1 := by
    have hcount := v.totalCount.toNat_lt
    have hlt := PageSize.lt_of_lt_pagesFor hindex
    rw [pageNumber, UInt64.toNat_add]
    exact Nat.mod_eq_of_lt (Nat.lt_of_le_of_lt hlt hcount)
  have hpages : (pageCount v).toNat = v.criteria.pageSize.pagesFor v.totalCount.toNat := by
    apply toNat_pageCount
    rintro hzero
    rw [hzero] at hbefore
    exact absurd hbefore (Nat.not_lt_zero _)
  have hpage : ∀ k, (d.query (v.criteria.paged v.criteria.pageSize k)).data ≠ [] ↔
      k.toNat < (pageCount v).toNat := by
    intro k
    rw [hpages, PageSize.lt_pagesFor_iff, htotal, ne_eq, Snapshot.data_query_eq_nil_iff]
    exact Nat.not_le
  refine ⟨?_, htotal, divisor_ne_zero _, ?_, hnumber, hpages, ?_, ?_, ?_, hpage, ?_, ?_⟩
  · rw [viewLines, hrows]
  · intro hrest
    rw [toNat_div_add_one hrest, toNat_divisor]
  · rw [hnumber, hpages]
    exact ⟨Nat.le_add_left 1 _, hindex⟩
  · rw [hnumber, Nat.add_sub_cancel, htotal, h.rows_eq, Snapshot.data_query, List.length_take,
      List.length_drop]
  · exact List.length_pos_iff.mpr hsome
  · simp only [hpage]
    exact ncard_toNat_lt (Nat.le_of_lt (pageCount v).toNat_lt)
  · have hcount : (v.totalCount.toNat + v.criteria.pageSize.toNat - 1) / v.criteria.pageSize.toNat =
        (pageCount v).toNat := hpages.symm
    rw [← h.rows_eq, ← hnumber, ← htotal, hcount]
    rfl

/-- **Every header is consistent, and nothing overflows on the way to it.** Over any snapshot a
listing comes to show a settled view for any criteria, and the list command shows one for those that
its options make. Such a view has a message in place of its rows only if there are none on its page,
and otherwise its header agrees with the snapshot: nothing is divided by zero, no number has more
than 64 bits, the page is one of the pages, there are as many of these as it takes for the matches
and as have rows on them, and the page has as many rows as are left for it, of which there are
some. These are the numbers that the header reads. -/
theorem header_of_settled_view (d : Snapshot) (c : Criteria) :
    (∃ v : View, v.SettledOver d c) ∧
      (∀ v : View, v.SettledOver d c → v.criteria = c ∧
        (v.emptyState = none ↔ (d.query c).data ≠ []) ∧ (v.emptyState = none → HeaderAgrees v d)) ∧
      ∀ (b : Backend) (k : Config) (o : ListOptions), b.snapshot = d → o.criteria k = c →
        (runScreen (o.config k) b o).1.view.SettledOver d c := by
  refine ⟨⟨_, View.settledOver_atRest d c c⟩, ?_, ?_⟩
  · intro v h
    obtain ⟨hl, rfl, defaults, hreflects⟩ := h.reflects
    refine ⟨rfl, ?_, headerAgrees_of_reflects hreflects hl⟩
    rw [View.emptyState_of_not_loading hl, hreflects.rows_eq]
    by_cases hnil : (d.query v.criteria).data = [] <;> simp [hnil]
  · rintro b k o rfl rfl
    rw [(runScreen_at_rest k b o).1]
    exact View.settledOver_atRest _ _ _

/-- The second page of three entities, by two on a page: one row is left for it, and the header says
so. -/
theorem header_of_last_page :
    ∃ (d : Snapshot) (c : Criteria) (v : View), v.SettledOver d c ∧ v.emptyState = none ∧
      (viewLines v).head? = some "Entities (1 of 3 total, page 2/2):" ∧
      {k | (d.query (c.paged c.pageSize k)).data ≠ []}.ncard = 2 := by
  let d : Snapshot := ⟨[⟨1, "user", "Entity", "", "READY", [], [], [], []⟩,
    ⟨2, "order", "Entity", "", "READY", [], [], [], []⟩,
    ⟨3, "merchant", "Entity", "", "READY", [], [], [], []⟩], [], [], [], [], by decide⟩
  let c : Criteria := { Criteria.ofPageSize ⟨2, by decide⟩ with offset := 1 }
  have hv : (View.atRest d c c).SettledOver d c := View.settledOver_atRest d c c
  have hrows : (View.atRest d c c).emptyState = none := by decide +kernel
  obtain ⟨-, hagrees, -⟩ := header_of_settled_view d c
  have h := (hagrees _ hv).2.2 hrows
  refine ⟨d, c, _, hv, hrows, ?_, ?_⟩
  · rw [h.lines_eq, List.head?_cons, h.header_eq]
    decide +kernel
  · exact h.ncard_hasRows.trans (by decide +kernel)

end Cli

end Lookout
