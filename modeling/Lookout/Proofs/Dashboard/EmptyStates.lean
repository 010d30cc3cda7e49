import Lookout.Proofs.Dashboard.Refinement
import Lookout.Proofs.Snapshot.Pages

/-! # Why a listing shows no rows
A listing without rows says why. It knows no more than its own page: it shows none of the rows that
match, and whether its criteria narrow the listing. This file says what the message means for the
snapshot: **no match lies on the page or after it**, and with the message that there are no entities,
**no entity does**. On the first page the one means that nothing matches, and the other that there is
nothing at all; on later pages neither does (`noData_after_last_page`).

* `Snapshot.data_query_eq_nil_iff`, `Snapshot.matching_of_not_filtered`: which pages are empty, and
  what matches criteria that narrow nothing.
* `View.Accounts`: what the message means.
* `LeadsTo.emptyState_spec`: the whole statement. -/

namespace Lookout

/-! ## Empty pages -/

/-- The number of rows on all pages before the one asked for. -/
def Criteria.rowsBefore (c : Criteria) : Nat := c.offset.toNat * c.pageSize.toNat

/-- Rows that all lie before the first page are none. -/
theorem Criteria.eq_nil_of_first {c : Criteria} (h : c.offset = 0) {rs : List Row}
    (hrs : rs.length ≤ c.rowsBefore) : rs = [] := by
  have hzero : c.rowsBefore = 0 := by
    rw [rowsBefore, h]
    exact Nat.zero_mul _
  rw [hzero] at hrs
  exact List.eq_nil_of_length_eq_zero (Nat.le_zero.mp hrs)

namespace Snapshot

/-- A page is empty iff all matches are on pages before it. -/
theorem data_query_eq_nil_iff {d : Snapshot} {c : Criteria} :
    (d.query c).data = [] ↔ (d.matching c).length ≤ c.rowsBefore := by
  have hsize : c.pageSize.toNat ≠ 0 := Nat.ne_of_gt c.pageSize.toNat_pos
  rw [data_query, ← Criteria.rowsBefore, List.take_eq_nil_iff, List.drop_eq_nil_iff]
  exact or_iff_right hsize

/-- Criteria that narrow nothing match every row. -/
theorem matches_of_not_filtered {c defaults : Criteria} (h : c.isFiltered defaults = false)
    (r : Row) : c.matches r = true := by
  simp only [Criteria.isFiltered, Bool.or_eq_false_iff, decide_eq_false_iff_not, ne_eq,
    Decidable.not_not] at h
  obtain ⟨⟨hsearch, hfacets⟩, -⟩ := h
  rw [Criteria.matches, Bool.and_eq_true_iff]
  constructor
  · rw [Criteria.matchesSearch, hsearch, Text.occursIn_iff]
    exact List.nil_infix
  · rw [List.all_eq_true]
    intro f hf
    have hempty : (c.selected f).isEmpty = true := by
      have hnone := List.any_eq_false.mp hfacets f hf
      simpa using hnone
    rw [Criteria.matchesFacet, hempty]
    rfl

/-- Everything matches criteria that narrow nothing. -/
theorem matching_of_not_filtered {c defaults : Criteria} (h : c.isFiltered defaults = false)
    (d : Snapshot) : d.matching c = d.entities :=
  List.filter_eq_self.mpr fun r _ => matches_of_not_filtered h r

end Snapshot

/-! ## The message -/

namespace Listing.View

/-- A view **accounts** for its rows, or for having none: what its message means for a snapshot. -/
structure Accounts (v : View) (d : Snapshot) (defaults : Criteria) : Prop where
  /-- There is a message iff all matches are on pages before the view's own. -/
  emptyState_ne_none_iff : v.emptyState ≠ none ↔
    (d.matching v.criteria).length ≤ v.criteria.rowsBefore
  /-- The message is that there are no entities iff the criteria narrow nothing and all entities are
  on pages before the view's own. -/
  emptyState_eq_noData_iff : v.emptyState = some .noData ↔
    v.criteria.isFiltered defaults = false ∧ d.entities.length ≤ v.criteria.rowsBefore
  /-- A message on the first page says that nothing matches. -/
  matching_of_first : v.criteria.offset = 0 → v.emptyState ≠ none →
    d.matching v.criteria = [] ∧ v.totalCount = 0
  /-- The message that there are no entities is true on the first page. -/
  entities_of_first : v.criteria.offset = 0 → v.emptyState = some .noData → d.entities = []

/-- A view at rest has a message iff it has no rows; which one, its flag decides. -/
theorem emptyState_of_not_loading {v : View} (h : v.loading = false) :
    v.emptyState = if v.rows = [] then some (if v.isFiltered then .noMatchingData else .noData)
      else none := by
  rw [emptyState, h]
  cases v.rows with
  | nil => cases v.isFiltered <;> rfl
  | cons r rs => rfl

/-- A view at rest that reflects a snapshot accounts for its rows. -/
theorem Reflects.accounts {v : View} {d : Snapshot} {defaults : Criteria}
    (h : v.Reflects d defaults) (hl : v.loading = false) : v.Accounts d defaults := by
  have hrows : v.rows = [] ↔ (d.matching v.criteria).length ≤ v.criteria.rowsBefore := by
    rw [h.rows_eq, Snapshot.data_query_eq_nil_iff]
  have hshown : v.emptyState ≠ none ↔ (d.matching v.criteria).length ≤ v.criteria.rowsBefore := by
    rw [emptyState_of_not_loading hl, ← hrows]
    by_cases hnil : v.rows = [] <;> simp [hnil]
  have hnoData : v.emptyState = some .noData ↔
      v.criteria.isFiltered defaults = false ∧ d.entities.length ≤ v.criteria.rowsBefore := by
    rw [emptyState_of_not_loading hl, h.isFiltered_eq]
    cases hfiltered : v.criteria.isFiltered defaults with
    | true => by_cases hnil : v.rows = [] <;> simp [hnil]
    | false =>
        rw [← Snapshot.matching_of_not_filtered hfiltered d, ← hrows]
        by_cases hnil : v.rows = [] <;> simp [hnil]
  refine ⟨hshown, hnoData, ?_, ?_⟩
  · intro hfirst hsome
    have hnil := Criteria.eq_nil_of_first hfirst (hshown.mp hsome)
    refine ⟨hnil, ?_⟩
    rw [h.totalCount_eq, Snapshot.query, hnil]
    rfl
  · intro hfirst hsome
    exact Criteria.eq_nil_of_first hfirst (hnoData.mp hsome).2

end Listing.View

namespace Dashboard

open Listing Suggestions

/-- **A message means that no match lies on the page or after it**, whatever the configuration, the
user and the latencies do. That holds of every view that awaits nothing, and so of the view that a
wait brings which is over before the screen is left. -/
theorem LeadsTo.emptyState_spec {b : Backend} {c : Config} {d : Dashboard}
    (h : (activate b c).1.LeadsTo d) :
    (d.view.loading = false → d.view.Accounts b.snapshot c.defaultCriteria) ∧
      ∀ e v p, d.Settles e v p → e.screen.isOpen = true →
        v.Accounts b.snapshot c.defaultCriteria := by
  have haccounts : ∀ m : Dashboard, (activate b c).1.LeadsTo m → m.view.loading = false →
      m.view.Accounts b.snapshot c.defaultCriteria := by
    intro m hm hl
    have hreflects := ((Faithful.activate b c).leadsTo hm).reflects hl
    rw [hm.backend_eq] at hreflects
    exact hreflects.accounts hl
  refine ⟨haccounts d h, ?_⟩
  rintro e v p ⟨m, hdm, hme, hv, -⟩ ho
  -- The list came to rest on the way to `e`, and what it showed then is the view.
  have hm := h.trans hdm
  have hintact := ((Faithful.activate b c).leadsTo hm).intact
  obtain ⟨rfl, hl, -⟩ := hintact.settled_view (hme.isOpen_of ho) hv
  exact haccounts m hm hl

/-- Somebody searches for what no name contains, waits, and is told that nothing matches. Since the
first page is shown, that is true of the whole snapshot. -/
theorem noMatchingData_after_search :
    ∃ b c d e v p, (activate b c).1.LeadsTo d ∧ d.Settles e v p ∧ e.screen.isOpen = true ∧
      b.snapshot.entities.length = 1 ∧ v.emptyState = some .noMatchingData ∧
      b.snapshot.matching v.criteria = [] ∧ v.totalCount = 0 := by
  have h := (LeadsTo.refl (d := (activate
    (.ofSnapshot ⟨[⟨1, "user", "Entity", "", "READY", [], [], [], []⟩], [], [], [], [], by decide⟩)
    Config.unset).1)).attempt (m := .mutate (.search "order")) trivial
  have hsettles := (LeadsTo.settle (h.intact (Screen.intact_activate _ _))).settles rfl rfl
  obtain ⟨-, hwait⟩ := h.emptyState_spec
  have haccounts := hwait _ _ _ hsettles rfl
  obtain ⟨hnil, hzero⟩ := haccounts.matching_of_first rfl (by decide +kernel)
  exact ⟨_, _, _, _, _, _, h, hsettles, rfl, rfl, by decide +kernel, hnil, hzero⟩

/-- Somebody turns to the page after the last one, waits, and is told that there are no entities,
though the one entity of the snapshot matches and is counted. -/
theorem noData_after_last_page :
    ∃ b c d v, (activate b c).1.LeadsTo d ∧ d.screen.settledView? = some v ∧
      b.snapshot.entities.length = 1 ∧ b.snapshot.matching v.criteria = b.snapshot.entities ∧
      v.totalCount = 1 ∧ v.emptyState = some .noData := by
  have h := (LeadsTo.refl (d := (activate
    (.ofSnapshot ⟨[⟨1, "user", "Entity", "", "READY", [], [], [], []⟩], [], [], [], [], by decide⟩)
    Config.unset).1)).attempt (m := .mutate (.turnTo 1)) trivial
  have hsettled := h.trans (LeadsTo.settle (h.intact (Screen.intact_activate _ _)))
  exact ⟨_, _, _, _, hsettled, rfl, rfl, by decide +kernel, by decide +kernel, by decide +kernel⟩

end Dashboard

end Lookout
