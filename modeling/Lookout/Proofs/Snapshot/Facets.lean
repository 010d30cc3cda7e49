import Lookout.Proofs.Criteria
import Lookout.Snapshot

/-! # Facets
A facet in which nothing is selected lets every row through; one with a selection lets those through
that have one of the selected values. So the first value narrows the listing and every other one
widens it again. This file takes criteria apart: **a row matches iff it matches the text alone and,
in every facet with a selection, one of the selected values alone**. What follows for the rows of a
snapshot is that selections of one facet unite and selections of different facets intersect.

* `Row.HasAny`, `Criteria.matches_iff_hasAny`: what a selection means for a row.
* `Criteria.matches_iff_alone`: criteria in terms of their parts.
* `Snapshot.facets_decompose`: the whole statement. -/

namespace Lookout

namespace ValueSet

/-- The set of one string. -/
def singleton (v : String) : ValueSet := empty.insert v

@[simp] theorem mem_singleton {v w : String} : w ∈ singleton v ↔ w = v := by simp [singleton]

/-- The members of either of two sets. -/
def union (s t : ValueSet) : ValueSet := ofList (s.toList ++ t.toList)

@[simp] theorem mem_union {s t : ValueSet} {v : String} : v ∈ s.union t ↔ v ∈ s ∨ v ∈ t := by
  rw [union, mem_ofList, List.mem_append, mem_def, mem_def]

/-- A set with a member is not empty. -/
theorem ne_empty_of_mem {s : ValueSet} {v : String} (h : v ∈ s) : s ≠ empty :=
  ne_empty_iff.mpr ⟨v, h⟩

end ValueSet

/-! ## What a selection means for a row -/

/-- A row **has any** of some values in a facet. -/
def Row.HasAny (r : Row) (f : Facet) (s : ValueSet) : Prop := ∃ v ∈ s, v ∈ r.values f

namespace Row.HasAny

variable {r : Row} {f : Facet} {s t : ValueSet}

/-- A row that has any of some values has any of more values. -/
theorem mono (h : r.HasAny f s) (hst : ∀ v ∈ s, v ∈ t) : r.HasAny f t := by
  obtain ⟨v, hv, hr⟩ := h
  exact ⟨v, hst v hv, hr⟩

@[simp] theorem singleton_iff {v : String} : r.HasAny f (.singleton v) ↔ v ∈ r.values f := by
  simp [HasAny]

@[simp] theorem union_iff : r.HasAny f (s.union t) ↔ r.HasAny f s ∨ r.HasAny f t := by
  simp only [HasAny, ValueSet.mem_union, or_and_right, exists_or]

end Row.HasAny

namespace Criteria

variable {c : Criteria} {r : Row} {f : Facet}

/-- A facet lets a row through iff nothing is selected in it or the row has any of what is. -/
theorem matchesFacet_iff :
    c.matchesFacet r f = true ↔ c.selected f ≠ .empty → r.HasAny f (c.selected f) := by
  have hany : (r.values f).any (· ∈ c.selected f) = true ↔ r.HasAny f (c.selected f) := by
    simp only [List.any_eq_true, decide_eq_true_eq, Row.HasAny]
    exact exists_congr fun v => And.comm
  rw [matchesFacet, Bool.or_eq_true, ValueSet.isEmpty_iff, hany, ne_eq, Classical.or_iff_not_imp_left]

/-- **What criteria mean for a row**: the text, and one value in each facet with a selection. -/
theorem matches_iff_hasAny :
    c.matches r = true ↔
      c.matchesSearch r = true ∧ ∀ f, c.selected f ≠ .empty → r.HasAny f (c.selected f) := by
  have hfacets : Facet.all.all (c.matchesFacet r) = true ↔
      ∀ f, c.selected f ≠ .empty → r.HasAny f (c.selected f) := by
    rw [List.all_eq_true]
    refine forall_congr' fun f => ?_
    rw [matchesFacet_iff]
    exact forall_prop_of_true (Facet.mem_all f)
  rw [Criteria.matches, Bool.and_eq_true, hfacets]

/-- A search for nothing finds every row. -/
theorem matchesSearch_of_empty (h : c.searchText = "") (r : Row) : c.matchesSearch r = true := by
  rw [matchesSearch, h, Text.occursIn_iff]
  exact List.nil_infix

/-- What is selected makes no difference to the search. -/
@[simp] theorem matchesSearch_select (c : Criteria) (f : Facet) (s : ValueSet) (r : Row) :
    (c.select f s).matchesSearch r = c.matchesSearch r := by
  rw [matchesSearch, searchText_select, matchesSearch]

/-- Criteria with another selection in one facet: the facet is asked for its selection, and all
others are asked as before. -/
theorem matches_select_iff {s : ValueSet} :
    (c.select f s).matches r = true ↔
      (c.select f .empty).matches r = true ∧ (s ≠ .empty → r.HasAny f s) := by
  simp only [matches_iff_hasAny, matchesSearch_select, selected_select, and_assoc]
  refine and_congr_right fun _ => ?_
  constructor
  · intro h
    refine ⟨fun g hg => ?_, by simpa using h f⟩
    by_cases hgf : g = f
    · simp [hgf] at hg
    · simpa [hgf] using h g (by simpa [hgf] using hg)
  · rintro ⟨hothers, hs⟩ g
    by_cases hgf : g = f
    · subst hgf
      simpa using hs
    · simpa [hgf] using hothers g

/-! ## Criteria in terms of their parts -/

/-- Criteria that ask for the text alone, with nothing selected. -/
def textAlone (c : Criteria) : Criteria := { ofPageSize c.pageSize with searchText := c.searchText }

/-- Criteria that ask for one value of a facet alone, with nothing searched for. -/
def valueAlone (c : Criteria) (f : Facet) (v : String) : Criteria :=
  (ofPageSize c.pageSize).select f (.singleton v)

/-- The text alone is what the search looks at. -/
theorem matches_textAlone_iff : c.textAlone.matches r = true ↔ c.matchesSearch r = true := by
  rw [matches_iff_hasAny]
  refine and_iff_left_of_imp fun _ g hg => absurd ?_ hg
  cases g <;> rfl

/-- One value alone is what a row has or has not. -/
theorem matches_valueAlone_iff {v : String} :
    (c.valueAlone f v).matches r = true ↔ v ∈ r.values f := by
  have hall : ((ofPageSize c.pageSize).select f .empty).matches r = true := by
    rw [matches_iff_hasAny]
    refine ⟨matchesSearch_of_empty (searchText_select ..) r, fun g hg => absurd ?_ hg⟩
    simp
  have hne : ValueSet.singleton v ≠ .empty :=
    ValueSet.ne_empty_of_mem (ValueSet.mem_singleton.mpr rfl)
  rw [valueAlone, matches_select_iff, Row.HasAny.singleton_iff]
  exact ⟨fun h => h.2 hne, fun h => ⟨hall, fun _ => h⟩⟩

/-- **A row matches iff it matches the text alone and, in every facet with a selection, one of the
selected values alone.** -/
theorem matches_iff_alone :
    c.matches r = true ↔
      c.textAlone.matches r = true ∧
        ∀ f, c.selected f ≠ .empty → ∃ v ∈ c.selected f, (c.valueAlone f v).matches r = true := by
  simp only [matches_textAlone_iff, matches_valueAlone_iff]
  exact matches_iff_hasAny

/-- Another value in a facet with a selection keeps every row that matches. -/
theorem matches_toggle_of_selected {v : String} (hv : v ∉ c.selected f)
    (hf : c.selected f ≠ .empty) (h : c.matches r = true) : (c.toggle f v).matches r = true := by
  rw [← select_selected c f, matches_select_iff] at h
  obtain ⟨hothers, hhas⟩ := h
  rw [toggle, matches_select_iff]
  refine ⟨hothers, fun _ => (hhas hf).mono fun w hw => ?_⟩
  have hne : w ≠ v := by
    rintro rfl
    exact hv hw
  rw [ValueSet.mem_toggle, if_neg hne]
  exact hw

/-- The first value in a facet matches no row that did not match before. -/
theorem matches_of_matches_toggle {v : String} (hf : c.selected f = .empty)
    (h : (c.toggle f v).matches r = true) : c.matches r = true := by
  rw [toggle, matches_select_iff, ← hf, select_selected] at h
  exact h.1

/-- A row matches the union of two selections of a facet iff it matches one of them. -/
theorem matches_select_union {s t : ValueSet} (hs : s ≠ .empty) (ht : t ≠ .empty) :
    (c.select f (s.union t)).matches r = true ↔
      (c.select f s).matches r = true ∨ (c.select f t).matches r = true := by
  obtain ⟨v, hv⟩ := ValueSet.ne_empty_iff.mp hs
  have hunion : s.union t ≠ .empty :=
    ValueSet.ne_empty_of_mem (ValueSet.mem_union.mpr (.inl hv))
  rw [matches_select_iff, matches_select_iff (s := s), matches_select_iff (s := t), ← and_or_left,
    forall_prop_of_true hunion, forall_prop_of_true hs, forall_prop_of_true ht,
    Row.HasAny.union_iff]

/-- Selections in two facets can be made in either order. -/
theorem select_comm {g : Facet} (hfg : f ≠ g) (c : Criteria) (s t : ValueSet) :
    (c.select f s).select g t = (c.select g t).select f s := by
  refine ext_selected (by simp) (fun k => ?_) (by simp) (by simp)
  by_cases hk : k = f
  · simp [hk, hfg]
  · simp [hk]

/-- A row matches selections in two facets iff it matches each of them without the other. -/
theorem matches_select_select {g : Facet} (hfg : f ≠ g) (s t : ValueSet) :
    ((c.select f s).select g t).matches r = true ↔
      ((c.select f s).select g .empty).matches r = true ∧
        ((c.select f .empty).select g t).matches r = true := by
  -- Both facets are asked on top of criteria in which neither has a selection.
  rw [matches_select_iff (s := t), matches_select_iff (f := g) (s := t), select_comm hfg c s,
    select_comm hfg c .empty, matches_select_iff (s := s)]
  tauto

end Criteria

/-! ## The rows of a snapshot -/

namespace Snapshot

/-- **Facets decompose.** A row matches iff it matches the text alone and, in every facet with a
selection, one of the selected values alone. So of the rows of a snapshot, in their order, a further
value in a facet keeps all that match and a first value adds none; those that match the union of two
selections of a facet are those that match either, and those that match selections in two facets are
those that match both. -/
theorem facets_decompose (d : Snapshot) (c : Criteria) :
    (∀ r, c.matches r = true ↔
      c.textAlone.matches r = true ∧
        ∀ f, c.selected f ≠ .empty → ∃ v ∈ c.selected f, (c.valueAlone f v).matches r = true) ∧
      (∀ f v, v ∉ c.selected f →
        (c.selected f ≠ .empty → (d.matching c).Sublist (d.matching (c.toggle f v))) ∧
          (c.selected f = .empty → (d.matching (c.toggle f v)).Sublist (d.matching c))) ∧
      (∀ f s t, s ≠ .empty → t ≠ .empty → d.matching (c.select f (s.union t)) =
        d.entities.filter fun r => (c.select f s).matches r || (c.select f t).matches r) ∧
      ∀ f g s t, f ≠ g → d.matching ((c.select f s).select g t) =
        d.entities.filter fun r => ((c.select f s).select g .empty).matches r &&
          ((c.select f .empty).select g t).matches r := by
  refine ⟨fun r => Criteria.matches_iff_alone, fun f v hv => ⟨fun hf => ?_, fun hf => ?_⟩, ?_, ?_⟩
  · exact List.monotone_filter_right _ fun r => Criteria.matches_toggle_of_selected hv hf
  · exact List.monotone_filter_right _ fun r => Criteria.matches_of_matches_toggle hf
  · intro f s t hs ht
    refine List.filter_congr fun r _ => ?_
    rw [Bool.eq_iff_iff, Bool.or_eq_true]
    exact Criteria.matches_select_union hs ht
  · intro f g s t hfg
    refine List.filter_congr fun r _ => ?_
    rw [Bool.eq_iff_iff, Bool.and_eq_true]
    exact Criteria.matches_select_select hfg s t

/-- Of three rows with the tags `a`, `b` and none, the first selected tag leaves one and the second
brings one back. -/
example :
    let row (name : String) (tags : List String) : Row := ⟨0, name, "", "", "", tags, [], [], []⟩
    let d : Snapshot := ⟨[row "x" ["a"], row "y" ["b"], row "z" []], [], [], [], [], by decide⟩
    let shown (c : Criteria) := (d.matching c).map Row.name
    let c := Criteria.standard
    shown c = ["x", "y", "z"] ∧ shown (c.toggle .tags "b") = ["y"] ∧
      shown ((c.toggle .tags "b").toggle .tags "a") = ["x", "y"] := by
  decide +kernel

end Snapshot

end Lookout
