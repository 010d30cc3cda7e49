import Mathlib.Algebra.Ring.Parity
import Mathlib.Data.List.DropRight
import Lookout.Config
import Lookout.Proofs.Criteria

/-! # What a store holds
A store keeps nothing but the criteria in force, which every mutation makes anew from the ones
before. This file reads them off the whole history of the store: **only the mutations since the last
reset count**, of the texts and of the pages the last one, and of every value how often it was
toggled. A search counts as a page too, since it goes back to the first one; toggling does not.

* `sinceReset`, `searched?`, `page?`: what a history says.
* `ComesOf`: criteria in terms of a history without resets; each mutation carries them on.
* `Store.mutateAll_closed_form`: the whole statement. -/

namespace Lookout

/-! ## Histories -/

namespace Mutation

/-- The text that a mutation searches for. -/
def searched? : Mutation → Option String
  | .search text => some text
  | .toggle .. | .turnTo _ | .reset => none

/-- The page that a mutation turns to: the first for a search and for a page before it. -/
def page? : Mutation → Option Int
  | .search _ => some 0
  | .turnTo page => some (max page.toInt 0)
  | .toggle .. | .reset => none

/-- The mutations **since the last reset**, all of them if there was none. -/
def sinceReset (ms : List Mutation) : List Mutation := ms.rtakeWhile (· ≠ .reset)

@[simp] theorem sinceReset_concat_reset (ms : List Mutation) : sinceReset (ms ++ [.reset]) = [] :=
  List.rtakeWhile_concat_neg _ ms .reset (by decide)

theorem sinceReset_concat {m : Mutation} (hm : m ≠ .reset) (ms : List Mutation) :
    sinceReset (ms ++ [m]) = sinceReset ms ++ [m] :=
  List.rtakeWhile_concat_pos _ ms m (by simpa using hm)

end Mutation

open Mutation

/-! ## The criteria that come of a history -/

/-- The last thing said counts. -/
theorem getLast?_filterMap_concat {α β : Type} (f : α → Option β) (as : List α) (a : α) :
    ((as ++ [a]).filterMap f).getLast? = (f a).or (as.filterMap f).getLast? := by
  rw [List.filterMap_append, List.getLast?_append]
  cases h : f a <;> simp [h]

namespace Criteria

/-- Criteria that **come of** some defaults by mutations without a reset. -/
structure ComesOf (defaults : Criteria) (ms : List Mutation) (c : Criteria) : Prop where
  /-- The text is the last one searched for. -/
  searchText_eq : c.searchText = (ms.filterMap searched?).getLast?.getD defaults.searchText
  /-- A value that was toggled an odd number of times is selected where it was not, and only there. -/
  mem_selected : ∀ f v,
    v ∈ c.selected f ↔ Xor (v ∈ defaults.selected f) (Odd (ms.count (.toggle f v)))
  /-- The page is the last one turned to. -/
  offset_eq : (c.offset.toNat : Int) = (ms.filterMap page?).getLast?.getD defaults.offset.toNat
  /-- The page size stays. -/
  pageSize_eq : c.pageSize = defaults.pageSize

variable {defaults c : Criteria} {ms : List Mutation}

/-- Toggling a value changes whether it is selected, and nothing else. -/
theorem mem_selected_toggle {f g : Facet} {v w : String} :
    w ∈ (c.toggle f v).selected g ↔ Xor (w ∈ c.selected g) (Mutation.toggle f v = .toggle g w) := by
  rw [toggle, selected_select, Mutation.toggle.injEq]
  by_cases hg : g = f
  · subst hg
    rw [if_pos rfl, ValueSet.mem_toggle]
    by_cases hw : w = v
    · subst hw
      simp [Xor]
    · simp [Xor, hw, Ne.symm hw]
  · simp [Xor, hg, Ne.symm hg]

/-- Pages from the first one on are what an offset counts. -/
theorem toNat_offset_turnTo (c : Criteria) (page : Int64) :
    ((c.turnTo page).offset.toNat : Int) = max page.toInt 0 := by
  have hlt : page.toInt < 9223372036854775808 := page.toInt_lt
  have hmod : page.toInt.toNat % 18446744073709551616 = page.toInt.toNat :=
    Nat.mod_eq_of_lt (by omega)
  show ((UInt64.ofNat page.toInt.toNat).toNat : Int) = _
  rw [UInt64.toNat_ofNat', hmod, Int.toNat_eq_max]

namespace ComesOf

/-- Defaults come of themselves. -/
theorem refl (defaults : Criteria) : ComesOf defaults [] defaults where
  searchText_eq := rfl
  mem_selected f v := by simp [Xor]
  offset_eq := rfl
  pageSize_eq := rfl

/-- What a mutation does to a selection is a matter of parity. -/
theorem xor_odd_concat {p : Prop} (m : Mutation) (f : Facet) (v : String) :
    Xor p (Odd ((ms ++ [m]).count (.toggle f v))) ↔
      Xor (Xor p (Odd (ms.count (.toggle f v)))) (m = .toggle f v) := by
  rw [List.count_append, List.count_singleton]
  by_cases hm : m = .toggle f v
  · rw [if_pos (beq_iff_eq.mpr hm), Nat.odd_add_one]
    grind
  · rw [if_neg fun he => hm (beq_iff_eq.mp he), Nat.add_zero]
    grind

/-- **Each mutation carries the criteria on.** -/
theorem concat (h : ComesOf defaults ms c) {m : Mutation} (hm : m ≠ .reset) :
    ComesOf defaults (ms ++ [m]) (apply defaults c m) := by
  refine ⟨?_, ?_, ?_, ?_⟩
  · rw [getLast?_filterMap_concat]
    cases m with
    | search text => rfl
    | toggle f v => exact (searchText_select ..).trans h.searchText_eq
    | turnTo page => exact h.searchText_eq
    | reset => exact absurd rfl hm
  · intro f v
    rw [xor_odd_concat, ← h.mem_selected]
    cases m with
    | search text =>
        show v ∈ (c.search text).selected f ↔ _
        simp [Xor]
    | toggle g w => exact mem_selected_toggle
    | turnTo page =>
        show v ∈ (c.turnTo page).selected f ↔ _
        simp [Xor]
    | reset => exact absurd rfl hm
  · rw [getLast?_filterMap_concat]
    cases m with
    | search text => rfl
    | toggle f v =>
        show ((c.select f _).offset.toNat : Int) = _
        rw [offset_select]
        exact h.offset_eq
    | turnTo page => exact toNat_offset_turnTo c page
    | reset => exact absurd rfl hm
  · cases m with
    | search text => exact h.pageSize_eq
    | toggle f v => exact (pageSize_select ..).trans h.pageSize_eq
    | turnTo page => exact h.pageSize_eq
    | reset => exact absurd rfl hm

/-- **One value of the criteria comes of a history.** -/
theorem unique (h : ComesOf defaults ms c) {c' : Criteria} (h' : ComesOf defaults ms c') :
    c' = c := by
  refine ext_selected ?_ (fun f => ValueSet.ext fun v => ?_) ?_ ?_
  · rw [h.searchText_eq, h'.searchText_eq]
  · rw [h.mem_selected, h'.mem_selected]
  · rw [h.pageSize_eq, h'.pageSize_eq]
  · have hoffset := h'.offset_eq.trans h.offset_eq.symm
    exact UInt64.toNat_inj.mp (Int.ofNat_inj.mp hoffset)

/-- Where nothing was selected, criteria narrow the listing iff they have a text or a value that was
toggled an odd number of times. -/
theorem isFiltered_eq_false_iff {p : PageSize} (h : ComesOf (.ofPageSize p) ms c) :
    c.isFiltered (.ofPageSize p) = false ↔
      c.searchText = "" ∧ ∀ f v, Even (ms.count (.toggle f v)) := by
  have hfacets : (∃ f, c.selected f ≠ .empty) ↔ ∃ f v, Odd (ms.count (.toggle f v)) := by
    refine exists_congr fun f => ?_
    rw [ValueSet.ne_empty_iff]
    refine exists_congr fun v => ?_
    rw [h.mem_selected, selected_ofPageSize]
    simp [Xor]
  rw [← Bool.not_eq_true, isFiltered_iff, hfacets, h.pageSize_eq]
  simp only [← Nat.not_odd_iff_even]
  push Not
  simp

end ComesOf

/-- **A history of any kind**: what comes of it comes of the mutations since its last reset. -/
theorem comesOf_applyAll (defaults : Criteria) (ms : List Mutation) :
    ComesOf defaults (sinceReset ms) (applyAll defaults defaults ms) := by
  induction ms using List.reverseRecOn with
  | nil => exact .refl defaults
  | append_singleton ms m ih =>
      rw [applyAll_append, applyAll_cons, applyAll_nil]
      by_cases hm : m = .reset
      · subst hm
        rw [sinceReset_concat_reset]
        exact .refl defaults
      · rw [sinceReset_concat hm]
        exact ih.concat hm

/-! ## Mutations in another order -/

/-- Two values can be toggled in either order. -/
theorem toggle_toggle (c : Criteria) (f g : Facet) (v w : String) :
    (c.toggle f v).toggle g w = (c.toggle g w).toggle f v := by
  refine ext_selected ?_ (fun k => ValueSet.ext fun u => ?_) ?_ ?_
  · simp [toggle]
  · simp only [mem_selected_toggle]
    grind
  · simp [toggle]
  · simp [toggle]

/-- Searching and toggling can be done in either order. -/
theorem search_toggle (c : Criteria) (f : Facet) (v text : String) :
    (c.toggle f v).search text = (c.search text).toggle f v := by
  cases f <;> rfl

/-- Turning to a page and toggling can be done in either order. -/
theorem turnTo_toggle (c : Criteria) (f : Facet) (v : String) (page : Int64) :
    (c.toggle f v).turnTo page = (c.turnTo page).toggle f v := by
  cases f <;> rfl

end Criteria

/-! ## The store -/

namespace Store

/-- Mutations are made one after the other, however they are grouped. -/
@[simp] theorem mutateAll_append (s : Store) (ms ns : List Mutation) :
    s.mutateAll (ms ++ ns) = (s.mutateAll ms).mutateAll ns :=
  List.foldl_append

/-- Two mutations can be made in either order if they make the same criteria in either. -/
theorem mutateAll_comm {s : Store} {m n : Mutation}
    (h : Criteria.applyAll s.defaults s.current [m, n] =
      Criteria.applyAll s.defaults s.current [n, m]) :
    s.mutateAll [m, n] = s.mutateAll [n, m] :=
  congrArg (fun c => (⟨s.defaults, c, s.version + 1 + 1⟩ : Store)) h

/-- **What a store holds**, whatever its defaults are and whatever was done to it. In force are the
criteria that come of the mutations since the last reset: their last text, the values whose selection
they changed an odd number of times, the last page they turned to, and the page size as it was. The
defaults stay. The next mutation gives back the criteria that are in force after it, for which the
same holds. So a toggle can change places with another toggle, with a search and with a turn to a
page, before or after it. Defaults that a configuration makes ask for everything, and then the listing
is not narrowed iff the text is empty and every value was toggled an even number of times. -/
theorem mutateAll_closed_form (defaults : Criteria) (ms : List Mutation) :
    let s := (ofDefaults defaults).mutateAll ms
    (∀ c, Criteria.ComesOf defaults (sinceReset ms) c ↔ c = s.current) ∧
      s.defaults = defaults ∧
      (∀ m, s.operate m = ((ofDefaults defaults).mutateAll (ms ++ [m]),
        ((ofDefaults defaults).mutateAll (ms ++ [m])).current)) ∧
      (∀ f v,
        (∀ g w, s.mutateAll [.toggle f v, .toggle g w] = s.mutateAll [.toggle g w, .toggle f v]) ∧
        (∀ text, s.mutateAll [.toggle f v, .search text] = s.mutateAll [.search text, .toggle f v]) ∧
        ∀ page, s.mutateAll [.toggle f v, .turnTo page] = s.mutateAll [.turnTo page, .toggle f v]) ∧
      ∀ c : Config, let s := (ofDefaults c.defaultCriteria).mutateAll ms
        s.isFiltered = false ↔
          s.current.searchText = "" ∧ ∀ f v, Even ((sinceReset ms).count (.toggle f v)) := by
  intro s
  have hcomes : ∀ d, Criteria.ComesOf d (sinceReset ms) ((ofDefaults d).mutateAll ms).current := by
    intro d
    rw [(mutateAll_eq (ofDefaults d) ms).2]
    exact Criteria.comesOf_applyAll d ms
  refine ⟨?_, (mutateAll_eq _ ms).1, ?_, ?_, ?_⟩
  · intro c
    constructor
    · exact (hcomes defaults).unique
    · rintro rfl
      exact hcomes defaults
  · intro m
    rw [operate_eq, mutateAll_append]
    rfl
  · intro f v
    refine ⟨fun g w => mutateAll_comm ?_, fun text => mutateAll_comm ?_,
      fun page => mutateAll_comm ?_⟩
    · exact Criteria.toggle_toggle s.current f g v w
    · exact Criteria.search_toggle s.current f v text
    · exact Criteria.turnTo_toggle s.current f v page
  · intro c s
    have hdefaults : s.defaults = c.defaultCriteria := (mutateAll_eq _ ms).1
    rw [Store.isFiltered, hdefaults]
    exact (hcomes c.defaultCriteria).isFiltered_eq_false_iff

/-- A value that is toggled on either side of a search and of a page is not selected in the end, and
what came before the reset does not count. -/
example :
    ((ofDefaults .standard).mutateAll [.search "old", .reset, .toggle .tags "a", .turnTo 3,
      .search "new", .toggle .tags "a", .toggle .tags "b", .turnTo (-2)]).current =
      { Criteria.standard with searchText := "new", tags := .ofList ["b"], offset := 0 } := by
  decide

end Store

end Lookout
