import Mathlib.Data.List.Sort
import Lookout.Store

/-! # Many mutations at once
What becomes of criteria when several mutations are made one after the other. Toggling is its own
inverse, so this file is about values that are toggled once each: **they are what is selected in the
end**, next to what was selected and not toggled.

* `ValueSet.ext`: a value set is determined by its members.
* `Criteria.applyAll`: criteria after several mutations, and what toggling a facet's values does.
* `Store.current_mutateAll`: the same for the criteria of a store. -/

namespace Lookout

namespace ValueSet

/-- **A value set is its members.** -/
theorem ext {s t : ValueSet} (h : ∀ v, v ∈ s ↔ v ∈ t) : s = t := by
  have hlist : s.toList = t.toList := List.Pairwise.eq_of_mem_iff s.ascending t.ascending h
  cases s
  cases t
  congr

/-- A set is not empty iff it has a member. -/
theorem ne_empty_iff {s : ValueSet} : s ≠ empty ↔ ∃ v, v ∈ s := by
  constructor
  · intro hne
    cases hs : s.toList with
    | nil => exact absurd (isEmpty_iff.mp (by rw [isEmpty, hs]; rfl)) hne
    | cons v vs => exact ⟨v, by rw [mem_def, hs]; exact List.mem_cons_self⟩
  · rintro ⟨v, hv⟩ rfl
    exact not_mem_empty v hv

/-- Toggling each of some values once that are not there adds them. -/
theorem mem_foldl_toggle {vs : List String} (hvs : vs.Pairwise (· < ·)) {s : ValueSet}
    (hs : ∀ v ∈ vs, v ∉ s) {w : String} : w ∈ vs.foldl toggle s ↔ w ∈ vs ∨ w ∈ s := by
  induction vs generalizing s with
  | nil => simp
  | cons v vs ih =>
      obtain ⟨hlt, hvs⟩ := List.pairwise_cons.mp hvs
      have hv : v ∉ s := hs v List.mem_cons_self
      have hrest : ∀ u ∈ vs, u ∉ s.toggle v := by
        intro u hu
        have hne : u ≠ v := fun he => String.lt_irrefl v (he ▸ hlt u hu)
        rw [mem_toggle, if_neg hne]
        exact hs u (List.mem_cons_of_mem v hu)
      rw [List.foldl_cons, ih hvs hrest, mem_toggle, List.mem_cons]
      by_cases hw : w = v
      · subst hw
        simp [hv]
      · simp [hw]

/-- Toggling all members of a set, starting with nothing, gives the set. -/
theorem foldl_toggle_toList (s : ValueSet) : s.toList.foldl toggle empty = s := by
  refine ext fun v => ?_
  rw [mem_foldl_toggle s.ascending fun v _ => not_mem_empty v]
  exact ⟨fun h => h.resolve_right (not_mem_empty v), .inl⟩

end ValueSet

/-- A page size is its number of rows. -/
theorem PageSize.toNat_inj {p q : PageSize} : p.toNat = q.toNat ↔ p = q := by
  constructor
  · intro h
    cases p
    cases q
    congr
    exact UInt32.toNat_inj.mp h
  · rintro rfl
    rfl

namespace Criteria

/-- Criteria are the same if they ask for the same in every respect. -/
theorem ext_selected {c d : Criteria} (htext : c.searchText = d.searchText)
    (hselected : ∀ f, c.selected f = d.selected f) (hsize : c.pageSize = d.pageSize)
    (hoffset : c.offset = d.offset) : c = d := by
  have hstatuses := hselected .statuses
  have htags := hselected .tags
  have hlabels := hselected .labels
  have hfeatures := hselected .features
  cases c
  cases d
  simp only [selected] at hstatuses htags hlabels hfeatures htext hsize hoffset
  subst hstatuses htags hlabels hfeatures htext hsize hoffset
  rfl

/-- What narrows the listing: a search text, a selection, or another page size. -/
theorem isFiltered_iff {c d : Criteria} :
    c.isFiltered d = true ↔
      c.searchText ≠ "" ∨ (∃ f, c.selected f ≠ .empty) ∨ c.pageSize ≠ d.pageSize := by
  have hfacets : (Facet.all.any fun f => !(c.selected f).isEmpty) = true ↔
      ∃ f, c.selected f ≠ .empty := by
    rw [List.any_eq_true]
    refine exists_congr fun f => ?_
    rw [Bool.not_eq_true', ← Bool.not_eq_true, ValueSet.isEmpty_iff]
    exact and_iff_right (Facet.mem_all f)
  rw [isFiltered, Bool.or_eq_true, Bool.or_eq_true, hfacets, decide_eq_true_iff, decide_eq_true_iff,
    or_assoc]

/-- A facet whose selection is replaced by what it is stays as it is. -/
@[simp] theorem select_selected (c : Criteria) (f : Facet) : c.select f (c.selected f) = c := by
  cases f <;> rfl

/-- The later of two selections of a facet counts. -/
@[simp] theorem select_select (c : Criteria) (f : Facet) (s t : ValueSet) :
    (c.select f s).select f t = c.select f t := by
  cases f <;> rfl

/-- The criteria after several mutations. -/
def applyAll (defaults c : Criteria) (ms : List Mutation) : Criteria :=
  ms.foldl (apply defaults) c

variable {defaults c : Criteria}

@[simp] theorem applyAll_nil : applyAll defaults c [] = c := rfl

@[simp] theorem applyAll_cons (m : Mutation) (ms : List Mutation) :
    applyAll defaults c (m :: ms) = applyAll defaults (apply defaults c m) ms := rfl

/-- Mutations are made one after the other, however they are grouped. -/
@[simp] theorem applyAll_append (ms ns : List Mutation) :
    applyAll defaults c (ms ++ ns) = applyAll defaults (applyAll defaults c ms) ns :=
  List.foldl_append

/-- Toggling values of one facet changes the selection of the facet. -/
theorem applyAll_toggle (f : Facet) (vs : List String) :
    applyAll defaults c (vs.map (.toggle f)) = c.select f (vs.foldl .toggle (c.selected f)) := by
  induction vs generalizing c with
  | nil => exact (select_selected c f).symm
  | cons v vs ih =>
      rw [List.map_cons, applyAll_cons, ih]
      show (c.toggle f v).select f (vs.foldl .toggle ((c.toggle f v).selected f)) = _
      rw [toggle, select_select, selected_select, if_pos rfl, List.foldl_cons]

end Criteria

/-- A store goes through the criteria that its mutations make. -/
theorem Store.mutateAll_eq (s : Store) (ms : List Mutation) :
    (s.mutateAll ms).defaults = s.defaults ∧
      (s.mutateAll ms).current = Criteria.applyAll s.defaults s.current ms := by
  induction ms generalizing s with
  | nil => exact ⟨rfl, rfl⟩
  | cons m ms ih => exact ih (s.mutate m)

end Lookout
