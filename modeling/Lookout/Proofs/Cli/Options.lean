import Lookout.Proofs.Cli.Flags
import Lookout.Proofs.Criteria
import Lookout.Cli.Program

/-! # What the options of `list` come to
The options are carried out as mutations, one after the other, on a screen that has opened with the
defaults. A search turns back to the first page, and a value that is toggled twice is not selected, so
the order of the mutations and the sets of values matter. This file shows that **together they make
the criteria that the flags ask for**, whatever the order of the flags.

* `ListOptions.criteria`: the criteria in force after all mutations, and their fields.
* `AskedFor`: criteria that agree with flags; there is one such value.
* `Asks.askedFor`: the options make the criteria that the flags ask for. -/

namespace Lookout.Cli

namespace ListOptions

variable {o o' : ListOptions} {c : Config}

/-- The configuration in force for the options. -/
def config (o : ListOptions) (c : Config) : Config := withPageSize c o.pageSize

/-- The criteria in force once the mutations were made. -/
def criteria (o : ListOptions) (c : Config) : Criteria :=
  Criteria.applyAll (o.config c).defaultCriteria (o.config c).defaultCriteria o.mutations

/-! ## The fields of the criteria -/

/-- A search that is not made leaves the text empty, and any search leaves the first page. -/
theorem applyAll_search (o : ListOptions) (d : Criteria) (p : PageSize) :
    Criteria.applyAll d (.ofPageSize p) (o.search.map Mutation.search).toList =
      (Criteria.ofPageSize p).search (o.search.getD "") := by
  cases o.search <;> rfl

/-- The toggles of some facets select what is wanted in them, and change nothing else. -/
theorem applyAll_toggles (o : ListOptions) {d k : Criteria} {fs : List Facet} (hfs : fs.Nodup)
    (hempty : ∀ f ∈ fs, k.selected f = .empty) :
    (Criteria.applyAll d k (fs.flatMap o.toggles)).searchText = k.searchText ∧
      (Criteria.applyAll d k (fs.flatMap o.toggles)).pageSize = k.pageSize ∧
      (Criteria.applyAll d k (fs.flatMap o.toggles)).offset = k.offset ∧
      ∀ f, (Criteria.applyAll d k (fs.flatMap o.toggles)).selected f =
        if f ∈ fs then .ofList (o.wanted f) else k.selected f := by
  induction fs generalizing k with
  | nil => exact ⟨rfl, rfl, rfl, fun f => (if_neg List.not_mem_nil).symm⟩
  | cons g fs ih =>
      obtain ⟨hg, hfs⟩ := List.nodup_cons.mp hfs
      have htoggled : Criteria.applyAll d k (o.toggles g) =
          k.select g (.ofList (o.wanted g)) := by
        rw [toggles, Criteria.applyAll_toggle, hempty g List.mem_cons_self,
          ValueSet.foldl_toggle_toList]
      rw [List.flatMap_cons, Criteria.applyAll_append, htoggled]
      have hrest : ∀ f ∈ fs, (k.select g (.ofList (o.wanted g))).selected f = .empty := by
        intro f hf
        have hne : f ≠ g := fun he => hg (he ▸ hf)
        rw [Criteria.selected_select, if_neg hne]
        exact hempty f (List.mem_cons_of_mem g hf)
      obtain ⟨htext, hsize, hoffset, hselected⟩ := ih hfs hrest
      refine ⟨?_, ?_, ?_, ?_⟩
      · rw [htext, Criteria.searchText_select]
      · rw [hsize, Criteria.pageSize_select]
      · rw [hoffset, Criteria.offset_select]
      · intro f
        rw [hselected, Criteria.selected_select]
        by_cases hf : f = g
        · subst hf
          simp [hg]
        · simp [hf]

/-- The page size that is given is in force, and otherwise that of the configuration. -/
theorem effectivePageSize_config (o : ListOptions) (c : Config) :
    (o.config c).effectivePageSize = o.pageSize.getD c.effectivePageSize := by
  unfold config withPageSize Config.effectivePageSize
  cases o.pageSize with
  | none => rfl
  | some p => simp [PageSize.ofUInt32?, p.ne_zero]

/-- **The criteria have what the options say**, in every field. -/
theorem criteria_spec (o : ListOptions) (c : Config) :
    (o.criteria c).searchText = o.search.getD "" ∧
      (∀ f, (o.criteria c).selected f = .ofList (o.wanted f)) ∧
      (o.criteria c).pageSize = o.pageSize.getD c.effectivePageSize ∧
      (o.criteria c).offset = (o.page.map fun p => UInt64.ofNat p.toInt.toNat).getD 0 := by
  let d := (o.config c).defaultCriteria
  let k := (Criteria.ofPageSize (o.config c).effectivePageSize).search (o.search.getD "")
  have hcriteria : o.criteria c = Criteria.applyAll d
      (Criteria.applyAll d k (Facet.all.flatMap o.toggles)) (o.page.map Mutation.turnTo).toList := by
    rw [criteria, mutations, Criteria.applyAll_append, Criteria.applyAll_append]
    show Criteria.applyAll d (Criteria.applyAll d (Criteria.applyAll d (.ofPageSize _) _) _) _ = _
    rw [applyAll_search]
  have hempty : ∀ f ∈ Facet.all, k.selected f = .empty := fun f _ => by
    rw [Criteria.selected_search, Criteria.selected_ofPageSize]
  obtain ⟨htext, hsize, hoffset, hselected⟩ := o.applyAll_toggles (d := d) (by decide) hempty
  rw [hcriteria]
  -- Turning to a page comes last and changes the page alone.
  cases o.page with
  | none =>
      refine ⟨htext, fun f => ?_, hsize.trans (effectivePageSize_config o c), hoffset⟩
      rw [Option.map_none, Option.toList_none, Criteria.applyAll_nil, hselected f,
        if_pos (Facet.mem_all f)]
  | some p =>
      refine ⟨htext, fun f => ?_, hsize.trans (effectivePageSize_config o c), rfl⟩
      show ((Criteria.applyAll d k _).turnTo p).selected f = _
      rw [Criteria.selected_turnTo, hselected f, if_pos (Facet.mem_all f)]

end ListOptions

/-! ## Numbers in arguments -/

/-- A number in a range is a number. -/
theorem number?_of_numberIn? {signed : Bool} {low high i : Int} {s : String}
    (h : numberIn? signed low high s = some i) : number? signed s = some i ∧ low ≤ i ∧ i ≤ high := by
  obtain ⟨k, hk, hrange⟩ := Option.bind_eq_some_iff.mp h
  split at hrange
  · next hi =>
      obtain rfl := Option.some.inj hrange
      exact ⟨hk, hi⟩
  · cases hrange

/-- The offset of a page is the number that was given for it. -/
theorem number?_of_page? {s : String} {p : Int64} (h : page? s = some p) :
    number? true s = some ((UInt64.ofNat p.toInt.toNat).toNat : Int) := by
  obtain ⟨i, hi, rfl⟩ := Option.map_eq_some_iff.mp h
  obtain ⟨hnumber, hlow, hhigh⟩ := number?_of_numberIn? hi
  have hint : (Int64.ofInt i).toInt = i := Int64.toInt_ofInt_of_le (by omega) (by omega)
  have hnat : (UInt64.ofNat i.toNat).toNat = i.toNat := by
    rw [UInt64.toNat_ofNat']
    exact Nat.mod_eq_of_lt (by omega)
  rw [hnumber, hint, hnat, Int.toNat_of_nonneg hlow]

/-- A page size is the number that was given for it. -/
theorem number?_of_pageSize? {s : String} {p : PageSize} (h : pageSize? s = some p) :
    number? true s = some (p.toNat : Int) := by
  obtain ⟨i, hi, hp⟩ := Option.bind_eq_some_iff.mp h
  obtain ⟨hnumber, hlow, hhigh⟩ := number?_of_numberIn? hi
  unfold PageSize.ofUInt32? at hp
  split at hp
  · cases hp
  · obtain rfl := Option.some.inj hp
    have hnat : (UInt32.ofNat i.toNat).toNat = i.toNat := by
      rw [UInt32.toNat_ofNat']
      exact Nat.mod_eq_of_lt (by omega)
    show number? true s = some ((UInt32.ofNat i.toNat).toNat : Int)
    rw [hnumber, hnat, Int.toNat_of_nonneg (by omega)]

/-! ## Criteria and flags -/

/-- Criteria that are **asked for** by flags, with a configuration for what no flag says. -/
structure AskedFor (fs : List Flag) (c : Config) (k : Criteria) : Prop where
  /-- The search text is the one given. -/
  searchText_eq : ∀ {v}, (.search, some v) ∈ fs → k.searchText = v
  /-- Without a search nothing is searched for. -/
  searchText_nil : (∀ v, (.search, some v) ∉ fs) → k.searchText = ""
  /-- Selected are the values given for a facet. -/
  mem_selected : ∀ {f v}, v ∈ k.selected f ↔ (.facet f, some v) ∈ fs
  /-- The page size is the one given. -/
  pageSize_eq : ∀ {v}, (.pageSize, some v) ∈ fs → number? true v = some (k.pageSize.toNat : Int)
  /-- Without one it is that of the configuration. -/
  pageSize_default : (∀ v, (.pageSize, some v) ∉ fs) → k.pageSize = c.effectivePageSize
  /-- The page is the one given. -/
  offset_eq : ∀ {v}, (.page, some v) ∈ fs → number? true v = some (k.offset.toNat : Int)
  /-- Without one it is the first. -/
  offset_zero : (∀ v, (.page, some v) ∉ fs) → k.offset = 0

variable {fs fs' : List Flag} {data data' : Option String} {o o' : ListOptions} {c : Config}
  {k : Criteria}

/-- Options have nothing where no flag gives them a value. -/
theorem eq_none_of_not_given {α : Type} {x : Option α} {given : α → Prop}
    (hx : ∀ a, x = some a ↔ given a) (hnone : ∀ a, ¬given a) : x = none :=
  Option.eq_none_iff_forall_ne_some.mpr fun a ha => hnone a ((hx a).mp ha)

/-- **The options make the criteria that the flags ask for.** -/
theorem Asks.askedFor (h : Asks fs data o) (c : Config) : AskedFor fs c (o.criteria c) := by
  obtain ⟨htext, hselected, hsize, hoffset⟩ := o.criteria_spec c
  refine ⟨?_, ?_, ?_, ?_, ?_, ?_, ?_⟩
  · intro v hv
    rw [htext, (h.search_iff v).mpr hv, Option.getD_some]
  · intro hnone
    rw [htext, eq_none_of_not_given h.search_iff hnone, Option.getD_none]
  · intro f v
    rw [hselected, ValueSet.mem_ofList, h.wanted_iff]
  · intro v hv
    obtain ⟨p, hp⟩ := h.pageSize_given v hv
    rw [hsize, (h.pageSize_iff p).mpr ⟨v, hv, hp⟩, Option.getD_some]
    exact number?_of_pageSize? hp
  · intro hnone
    rw [hsize, eq_none_of_not_given h.pageSize_iff fun p ⟨v, hv, _⟩ => hnone v hv, Option.getD_none]
  · intro v hv
    obtain ⟨p, hp⟩ := h.page_given v hv
    rw [hoffset, (h.page_iff p).mpr ⟨v, hv, hp⟩, Option.map_some, Option.getD_some]
    exact number?_of_page? hp
  · intro hnone
    rw [hoffset, eq_none_of_not_given h.page_iff fun p ⟨v, hv, _⟩ => hnone v hv, Option.map_none,
      Option.getD_none]

/-- **Flags ask for one value of the criteria.** -/
theorem AskedFor.unique (h : AskedFor fs c k) {k' : Criteria} (h' : AskedFor fs c k') : k' = k := by
  have htext : k'.searchText = k.searchText := by
    by_cases hgiven : ∃ v, (.search, some v) ∈ fs
    · obtain ⟨v, hv⟩ := hgiven
      rw [h.searchText_eq hv, h'.searchText_eq hv]
    · rw [h.searchText_nil (not_exists.mp hgiven), h'.searchText_nil (not_exists.mp hgiven)]
  have hselected : ∀ f, k'.selected f = k.selected f := fun f =>
    ValueSet.ext fun v => h'.mem_selected.trans h.mem_selected.symm
  have hsize : k'.pageSize = k.pageSize := by
    by_cases hgiven : ∃ v, (.pageSize, some v) ∈ fs
    · obtain ⟨v, hv⟩ := hgiven
      have heq := (h'.pageSize_eq hv).symm.trans (h.pageSize_eq hv)
      exact PageSize.toNat_inj.mp (Int.ofNat_inj.mp (Option.some.inj heq))
    · rw [h.pageSize_default (not_exists.mp hgiven), h'.pageSize_default (not_exists.mp hgiven)]
  have hoffset : k'.offset = k.offset := by
    by_cases hgiven : ∃ v, (.page, some v) ∈ fs
    · obtain ⟨v, hv⟩ := hgiven
      have heq := (h'.offset_eq hv).symm.trans (h.offset_eq hv)
      exact UInt64.toNat_inj.mp (Int.ofNat_inj.mp (Option.some.inj heq))
    · rw [h.offset_zero (not_exists.mp hgiven), h'.offset_zero (not_exists.mp hgiven)]
  exact Criteria.ext_selected htext hselected hsize hoffset

/-- Criteria that are asked for narrow the listing iff a text or a value was given. Neither a page
nor a page size does, as long as the defaults have the page size too. -/
theorem AskedFor.isFiltered_iff (h : AskedFor fs c k) {d : Criteria} (hd : k.pageSize = d.pageSize) :
    k.isFiltered d = true ↔
      (∃ v, v ≠ "" ∧ (.search, some v) ∈ fs) ∨ ∃ f v, (.facet f, some v) ∈ fs := by
  have htext : k.searchText ≠ "" ↔ ∃ v, v ≠ "" ∧ (.search, some v) ∈ fs := by
    constructor
    · intro hne
      by_cases hgiven : ∃ v, (.search, some v) ∈ fs
      · obtain ⟨v, hv⟩ := hgiven
        exact ⟨v, h.searchText_eq hv ▸ hne, hv⟩
      · exact absurd (h.searchText_nil (not_exists.mp hgiven)) hne
    · rintro ⟨v, hne, hv⟩
      rwa [h.searchText_eq hv]
  have hfacets : (∃ f, k.selected f ≠ .empty) ↔ ∃ f v, (.facet f, some v) ∈ fs := by
    refine exists_congr fun f => ?_
    simp only [← h.mem_selected]
    exact ValueSet.ne_empty_iff
  rw [← htext, ← hfacets, Criteria.isFiltered_iff, hd]
  simp

/-- **Flags with the same members make the same mutations**, and ask for the same otherwise. -/
theorem Asks.agree (h : Asks fs data o) (h' : Asks fs' data' o')
    (hsame : ∀ p, p ∈ fs ↔ p ∈ fs') :
    data = data' ∧ o.mutations = o'.mutations ∧ o.pageSize = o'.pageSize ∧ o.json = o'.json := by
  have hsearch : o.search = o'.search :=
    Option.ext fun v => by rw [h.search_iff, h'.search_iff, hsame]
  have hpage : o.page = o'.page :=
    Option.ext fun p => by simp only [h.page_iff, h'.page_iff, hsame]
  have hsize : o.pageSize = o'.pageSize :=
    Option.ext fun p => by simp only [h.pageSize_iff, h'.pageSize_iff, hsame]
  have hdata : data = data' :=
    Option.ext fun v => by rw [h.data_iff, h'.data_iff, hsame]
  have hjson : o.json = o'.json :=
    Bool.eq_iff_iff.mpr (by simp only [h.json_iff, h'.json_iff, hsame])
  have htoggles : o.toggles = o'.toggles := by
    funext f
    have hset : ValueSet.ofList (o.wanted f) = .ofList (o'.wanted f) :=
      ValueSet.ext fun v => by
        rw [ValueSet.mem_ofList, ValueSet.mem_ofList, h.wanted_iff, h'.wanted_iff, hsame]
    rw [ListOptions.toggles, ListOptions.toggles, hset]
  refine ⟨hdata, ?_, hsize, hjson⟩
  rw [ListOptions.mutations, ListOptions.mutations, hsearch, htoggles, hpage]

end Lookout.Cli
