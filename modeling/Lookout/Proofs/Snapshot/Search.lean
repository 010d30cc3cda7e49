import Mathlib.Data.Fintype.EquivFin
import Lookout.Proofs.Snapshot.Facets
import Lookout.Proofs.Snapshot.Pages
import Lookout.Proofs.Store
import Lookout.Proofs.Text.Lowercase

/-! # Searches
A search finds the rows whose names contain its text, and the case of a letter does not count. Two
things follow from how that is done, by taking the lower case of both as they are.

A text that is copied out of a name is found in it, but for capital sigmas: **a search finds every
name that spells it out exactly if it is self-contained**. And a search for blanks alone finds every
row, though it narrows the listing like any other text: **criteria narrow the listing iff they reject
some row or search for blanks**.

* `Criteria.matchesSearch_iff`: what a search means for a row.
* `Criteria.verbatim_search_spec`: which names are found that spell a search out.
* `Criteria.exists_rejected_iff`: which criteria reject a row.
* `Store.isFiltered_spec`: what it means that the listing is narrowed. -/

namespace Lookout

/-- A **bare** row: it has a name and a status, and no other value in any facet. -/
def Row.bare (name status : String) : Row := ⟨0, name, "", "", status, [], [], [], []⟩

namespace Criteria

variable {c : Criteria} {r : Row}

/-! ## What is searched for -/

/-- What a search **seeks**: its text without the blanks at both ends. -/
def sought (c : Criteria) : List Char := Text.trim c.searchText.toList

/-- **What a search means for a row**: it has what is sought in its name, all in lower case. -/
theorem matchesSearch_iff :
    c.matchesSearch r = true ↔ Text.lowercase c.sought <:+: Text.lowercase r.name.toList := by
  rw [matchesSearch, Text.occursIn_iff, sought]

/-- Where nothing is selected, only the search counts. -/
theorem matches_iff_of_nothing_selected (hc : ∀ f, c.selected f = .empty) :
    c.matches r = true ↔ Text.lowercase c.sought <:+: Text.lowercase r.name.toList := by
  rw [matches_iff_hasAny, matchesSearch_iff]
  exact and_iff_left fun f hf => absurd (hc f) hf

/-- **When a search finds what it spells out**, with nothing selected. A name that contains what is
sought is found if the sigmas of this part are kept in it. All names that contain it are found iff it
is self-contained. And a name that begins with the text as typed is found unless what is sought ends
in a capital sigma. -/
theorem verbatim_search_spec (c : Criteria) (hc : ∀ f, c.selected f = .empty) :
    (∀ r : Row, ∀ p q, r.name.toList = p ++ c.sought ++ q → Text.KeepsSigmas p c.sought q →
      c.matches r = true) ∧
    ((∀ r : Row, c.sought <:+: r.name.toList → c.matches r = true) ↔
      Text.SelfContained c.sought) ∧
    ∀ r : Row, ∀ q, r.name.toList = c.searchText.toList ++ q →
      Text.endsInSigma c.sought = false → c.matches r = true := by
  have hkept : ∀ r : Row, ∀ p q, r.name.toList = p ++ c.sought ++ q →
      Text.KeepsSigmas p c.sought q → c.matches r = true := by
    intro r p q hname hkeeps
    rw [matches_iff_of_nothing_selected hc, hname]
    exact hkeeps.isInfix
  refine ⟨hkept, ?_, ?_⟩
  · rw [Text.selfContained_iff]
    constructor
    · intro h p q
      -- Every text is the name of some row.
      have hr := h (.bare (.ofList (p ++ c.sought ++ q)) "") ⟨p, q, String.toList_ofList.symm⟩
      rw [matches_iff_of_nothing_selected hc, Row.bare, String.toList_ofList] at hr
      exact hr
    · rintro h r ⟨p, q, hname⟩
      rw [matches_iff_of_nothing_selected hc, ← hname]
      exact h p q
  · intro r q hname hend
    -- What is typed is what is sought between blanks, and the name goes on after it.
    obtain ⟨blanks, rest, htyped, hblanks⟩ := Text.exists_blanks_around_trim c.searchText.toList
    refine hkept r blanks (rest ++ q) ?_ (Text.keepsSigmas_of_blanks hblanks hend _)
    rw [hname, htyped, sought, List.append_assoc (blanks ++ _)]

/-- Somebody types the beginning of a name that has a capital sigma on either side of a letter, with
a blank behind it, and the name is found. -/
theorem verbatim_search_of_beginning :
    let c := standard.search "ΣΑ "
    (∀ f, c.selected f = .empty) ∧ Text.endsInSigma c.sought = false ∧
      c.matches (.bare "ΣΑ ΣΑΣ" "READY") = true := by
  have hc : ∀ f, (standard.search "ΣΑ ").selected f = .empty := by
    intro f
    cases f <;> rfl
  have hend : Text.endsInSigma (standard.search "ΣΑ ").sought = false := by decide +kernel
  obtain ⟨-, -, hbeginning⟩ := verbatim_search_spec _ hc
  exact ⟨hc, hend, hbeginning (.bare "ΣΑ ΣΑΣ" "READY") "ΣΑΣ".toList (by decide +kernel) hend⟩

/-- A text that ends in a capital sigma can be lost in a name that begins with it: the sigma ends its
word there, and not in the name. -/
theorem verbatim_search_lost :
    let c := standard.search "ΑΣ"
    let r := Row.bare "ΑΣΑ" "READY"
    (∀ f, c.selected f = .empty) ∧ c.sought <:+: r.name.toList ∧ c.matches r = false := by
  refine ⟨fun f => ?_, ⟨[], ['Α'], by decide +kernel⟩, by decide +kernel⟩
  cases f <;> rfl

end Criteria

/-! ## What is rejected -/

/-- A value set leaves some string out. -/
theorem ValueSet.exists_not_mem (s : ValueSet) : ∃ v, v ∉ s := by
  obtain ⟨v, hv⟩ := Infinite.exists_notMem_finset s.toList.toFinset
  exact ⟨v, fun h => hv (List.mem_toFinset.mpr h)⟩

/-- A bare row has no value that is selected, unless it is its status. -/
theorem Row.not_hasAny_bare {c : Criteria} {v : String} (hv : v ∉ c.selected .statuses)
    (name : String) (f : Facet) : ¬ (bare name v).HasAny f (c.selected f) := by
  rintro ⟨w, hw, hr⟩
  cases f with
  | statuses =>
      have hwv : w = v := List.mem_singleton.mp hr
      exact hv (hwv ▸ hw)
  | tags => cases hr
  | labels => cases hr
  | features => cases hr

namespace Criteria

variable {c defaults : Criteria}

/-- **Criteria reject some row iff they seek a text or have a selection.** -/
theorem exists_rejected_iff :
    (∃ r, c.matches r = false) ↔ c.sought ≠ [] ∨ ∃ f, c.selected f ≠ .empty := by
  constructor
  · rintro ⟨r, hr⟩
    by_contra hnone
    push Not at hnone
    obtain ⟨hsought, hselected⟩ := hnone
    have hmatches : c.matches r = true := by
      rw [matches_iff_of_nothing_selected hselected, hsought, Text.lowercase_nil]
      exact List.nil_infix
    rw [hr] at hmatches
    cases hmatches
  · intro h
    -- A bare row without a name and with a status left out of the selection has nothing to offer.
    obtain ⟨v, hv⟩ := (c.selected .statuses).exists_not_mem
    refine ⟨.bare "" v, Bool.eq_false_iff.mpr fun hmatches => ?_⟩
    obtain ⟨hsearch, hfacets⟩ := matches_iff_hasAny.mp hmatches
    rcases h with hsought | ⟨f, hf⟩
    · -- A text that is sought is not found in a name without characters.
      have hnil : Text.lowercase c.sought = [] := List.infix_nil.mp (matchesSearch_iff.mp hsearch)
      exact hsought (Text.lowercase_eq_nil_iff.mp hnil)
    · exact Row.not_hasAny_bare hv "" f (hfacets f hf)

/-- Criteria that **search for blanks**: there is a text, but nothing that it seeks. -/
def SearchesBlanks (c : Criteria) : Prop := c.searchText ≠ "" ∧ c.sought = []

/-- A text seeks something or is one of blanks. -/
theorem searchText_ne_iff : c.searchText ≠ "" ↔ c.sought ≠ [] ∨ c.SearchesBlanks := by
  constructor
  · intro htext
    by_cases hsought : c.sought = []
    · exact .inr ⟨htext, hsought⟩
    · exact .inl hsought
  · rintro (hsought | hblanks)
    · intro htext
      rw [sought, htext] at hsought
      exact hsought Text.trim_nil
    · exact hblanks.1

/-- **Criteria with the page size of the defaults narrow the listing iff they reject some row or
search for blanks.** -/
theorem isFiltered_iff_rejects (hsize : c.pageSize = defaults.pageSize) :
    c.isFiltered defaults = true ↔ (∃ r, c.matches r = false) ∨ c.SearchesBlanks := by
  rw [isFiltered_iff, exists_rejected_iff, searchText_ne_iff]
  have hsame : ¬ c.pageSize ≠ defaults.pageSize := not_not_intro hsize
  tauto

end Criteria

/-- **All entities of all snapshots are counted iff no row is rejected.** -/
theorem Snapshot.count_eq_iff {c : Criteria} :
    (∀ d : Snapshot, (d.query c).count.toNat = d.entities.length) ↔
      ¬ ∃ r, c.matches r = false := by
  constructor
  · rintro h ⟨r, hr⟩
    have hlength : [r].length < UInt64.size := by
      show 1 < UInt64.size
      decide
    -- The row that is rejected makes a snapshot of its own, of which nothing is counted.
    have hone := h ⟨[r], [], [], [], [], hlength⟩
    rw [toNat_count_query, matching, List.filter_cons_of_neg (by simp [hr])] at hone
    cases hone
  · intro h d
    have hall : d.matching c = d.entities := by
      refine List.filter_eq_self.mpr fun r _ => ?_
      by_contra hr
      exact h ⟨r, by simpa using hr⟩
    rw [toNat_count_query, hall]

/-- **What it means that the listing is narrowed**, for criteria that somebody comes to from the
defaults of a configuration: some row is rejected, or the search is for blanks. And it is not narrowed
iff all entities of all snapshots are counted and the search is not for blanks. -/
theorem Store.isFiltered_spec (config : Config) (ms : List Mutation) :
    let c := ((ofDefaults config.defaultCriteria).mutateAll ms).current
    (c.isFiltered config.defaultCriteria = true ↔
      (∃ r, c.matches r = false) ∨ c.SearchesBlanks) ∧
    (c.isFiltered config.defaultCriteria = false ↔
      (∀ d : Snapshot, (d.query c).count.toNat = d.entities.length) ∧ ¬ c.SearchesBlanks) := by
  intro c
  have hsize : c.pageSize = config.defaultCriteria.pageSize := by
    have hcurrent := (mutateAll_eq (ofDefaults config.defaultCriteria) ms).2
    exact (congrArg Criteria.pageSize hcurrent).trans (Criteria.comesOf_applyAll _ ms).pageSize_eq
  have hrejects := Criteria.isFiltered_iff_rejects hsize
  refine ⟨hrejects, ?_⟩
  rw [← Bool.not_eq_true, hrejects, not_or, Snapshot.count_eq_iff]

/-- A search for a blank narrows the listing, and rejects no row. -/
theorem Store.blank_search_rejects_nothing :
    let s := (ofDefaults Config.unset.defaultCriteria).mutateAll [.search " "]
    s.current.isFiltered Config.unset.defaultCriteria = true ∧
      ¬ ∃ r, s.current.matches r = false := by
  refine ⟨by decide, ?_⟩
  rw [Criteria.exists_rejected_iff]
  rintro (hsought | ⟨f, hf⟩)
  · exact hsought (by decide +kernel)
  · cases f <;> exact hf rfl

end Lookout
