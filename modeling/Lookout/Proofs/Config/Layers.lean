import Mathlib.Data.List.Forall2
import Lookout.Config.Layers

/-! # The configuration in force
What two configuration files make of each other, whatever is found under their paths. This file shows
that **the first file that makes no sense decides, and otherwise what both set together**: values are
looked at only after the merge, so that a value which cannot be used does no harm where a later file
overrides it, and every value in force can be used.

* `Layer.Fails`, `Layer.Sets`: what becomes of one file; there is nothing between the two.
* `Config.InForce`: which file each key is taken from.
* `Config.Usable`, `Config.Resolves`: which values can be used, and what is done with them.
* `Config.load_iff_loads`: the whole statement. -/

namespace Lookout

/-! ## One file -/

namespace Layer

/-- A file **fails** if it is there but has no text, or if its text is no configuration. -/
inductive Fails (l : Layer) : ConfigError → Prop
  /-- The file has no text. -/
  | read {fault : ReadFault} (h : l.file = .error fault) (hfound : fault ≠ .notFound) :
      Fails l (.read fault)
  /-- The text is no configuration. -/
  | parse {text : String} (h : l.file = .ok text) (hnone : Config.ofText? text = none) :
      Fails l (.parse l.path "the document is not a configuration")

/-- What a file **sets**; a file that does not exist sets nothing. -/
inductive Sets (l : Layer) : Config → Prop
  /-- There is no file. -/
  | missing (h : l.file = .error .notFound) : Sets l .unset
  /-- The text is a configuration. -/
  | found {text : String} {c : Config} (h : l.file = .ok text) (hsome : Config.ofText? text = some c) :
      Sets l c

variable {l : Layer} {c : Config} {e : ConfigError}

/-- A file that fails has no configuration. -/
theorem Fails.config_eq (h : l.Fails e) : l.config = .error e := by
  cases h with
  | @read fault hfile hfound =>
      rw [config, hfile]
      cases fault <;> first | rfl | exact absurd rfl hfound
  | parse hfile hnone => simp only [config, hfile, hnone]

/-- **A file fails or sets something.** -/
theorem fails_or_sets (l : Layer) : (∃ e, l.Fails e) ∨ ∃ c, l.Sets c := by
  cases hfile : l.file with
  | error fault =>
      by_cases hfound : fault = .notFound
      · exact .inr ⟨_, .missing (hfound ▸ hfile)⟩
      · exact .inl ⟨_, .read hfile hfound⟩
  | ok text =>
      cases hc : Config.ofText? text with
      | none => exact .inl ⟨_, .parse hfile hc⟩
      | some c => exact .inr ⟨c, .found hfile hc⟩

/-- What is reported about a file. -/
def reported (l : Layer) : List Event :=
  match l.file with
  | .ok _ => [.configLayerLoaded l.path]
  | .error _ => []

end Layer

namespace Config

/-! ## Several files -/

/-- A file that sets something is merged, and reported if it exists. -/
theorem mergeLayers_cons {l : Layer} {c : Config} (h : l.Sets c) (base : Config) (ls : List Layer) :
    mergeLayers base (l :: ls) =
      ((mergeLayers (base.merge c) ls).1, l.reported ++ (mergeLayers (base.merge c) ls).2) := by
  cases h with
  | missing hfile =>
      have hconfig : l.config = .ok none := by rw [Layer.config, hfile]
      simp only [mergeLayers, hconfig, Layer.reported, hfile, merge_unset, List.nil_append]
  | found hfile hsome =>
      have hconfig : l.config = .ok (some c) := by simp only [Layer.config, hfile, hsome]
      simp only [mergeLayers, hconfig, Layer.reported, hfile, List.singleton_append]

/-- Files that all set something are merged one after the other. -/
theorem mergeLayers_of_sets {ls : List Layer} {cs : List Config} (h : List.Forall₂ Layer.Sets ls cs)
    (base : Config) :
    mergeLayers base ls = (.ok (cs.foldl merge base), ls.flatMap Layer.reported) := by
  induction h generalizing base with
  | nil => rfl
  | cons hsets _ ih => rw [mergeLayers_cons hsets, ih]; rfl

/-- The first file that fails ends the loading. -/
theorem mergeLayers_of_fails {ls : List Layer} {cs : List Config}
    (h : List.Forall₂ Layer.Sets ls cs) {l : Layer} {e : ConfigError} (he : l.Fails e)
    (base : Config) (rest : List Layer) : (mergeLayers base (ls ++ l :: rest)).1 = .error e := by
  induction h generalizing base with
  | nil => simp only [List.nil_append, mergeLayers, he.config_eq]
  | cons hsets _ ih => rw [List.cons_append, mergeLayers_cons hsets, ih]

/-! ## Keys -/

/-- A value is taken **over another** if there is one, and else the other is taken. -/
def TakenOver {α : Type} (later earlier value : Option α) : Prop :=
  (∀ a, later = some a → value = some a) ∧ (later = none → value = earlier)

theorem takenOver_iff {α : Type} {later earlier value : Option α} :
    TakenOver later earlier value ↔ value = later.or earlier := by
  cases later <;> simp [TakenOver]

/-- The configuration **in force** where one configuration is set over another. -/
structure InForce (earlier later c : Config) : Prop where
  /-- The page size is set over the earlier one. -/
  pageSize : TakenOver later.pageSize earlier.pageSize c.pageSize
  /-- So is the limit of suggestions. -/
  suggestionLimit :
    TakenOver later.suggestionLimit earlier.suggestionLimit c.suggestionLimit
  /-- So is the interval. -/
  pollInterval : TakenOver later.pollInterval earlier.pollInterval c.pollInterval
  /-- So is the path of the snapshot. -/
  snapshotPath : TakenOver later.snapshotPath earlier.snapshotPath c.snapshotPath
  /-- So is the time of a call. -/
  callLatency : TakenOver later.callLatency earlier.callLatency c.callLatency

/-- Merging puts the later configuration in force, and nothing else does. -/
theorem inForce_iff {earlier later c : Config} : InForce earlier later c ↔ c = earlier.merge later := by
  constructor
  · rintro ⟨hsize, hlimit, hinterval, hpath, hlatency⟩
    cases c
    simp only [takenOver_iff] at hsize hlimit hinterval hpath hlatency
    subst hsize hlimit hinterval hpath hlatency
    rfl
  · rintro rfl
    constructor <;> exact takenOver_iff.mpr rfl

/-! ## Values -/

/-- A configuration that is **usable**: no key has a value that nothing can be done with. -/
structure Usable (c : Config) : Prop where
  /-- A page has rows. -/
  pageSize_ne : c.pageSize ≠ some 0
  /-- Some suggestions are kept. -/
  suggestionLimit_ne : c.suggestionLimit ≠ some 0
  /-- Time passes between two refreshes. -/
  pollInterval_ne : c.pollInterval ≠ some 0
  /-- The path of the snapshot has a name. -/
  snapshotPath_ne : c.snapshotPath ≠ some ""

/-- A configuration without a problem is usable. -/
theorem problem?_eq_none_iff {c : Config} : c.problem? = none ↔ c.Usable := by
  unfold problem?
  constructor
  · intro h
    split at h
    · cases h
    · split at h
      · cases h
      · split at h
        · cases h
        · split at h
          · cases h
          · constructor <;> assumption
  · rintro ⟨hsize, hlimit, hinterval, hpath⟩
    rw [if_neg hsize, if_neg hlimit, if_neg hinterval, if_neg hpath]

theorem validate_of_usable {c : Config} (h : c.Usable) : c.validate = .ok c := by
  rw [validate, problem?_eq_none_iff.mpr h]

theorem validate_of_problem {c : Config} {m : String} (h : c.problem? = some m) :
    c.validate = .error (.invalid m) := by
  rw [validate, h]

/-- A configuration that **resolves**: what is in force can be used, and is what is set. -/
structure Resolves (c : Config) : Prop where
  /-- A page has rows. -/
  one_le_pageSize : 1 ≤ c.effectivePageSize.toNat
  /-- Some suggestions are kept. -/
  one_le_limit : 1 ≤ c.effectiveLimit
  /-- Time passes between two refreshes. -/
  one_le_interval : 1 ≤ c.effectiveInterval
  /-- A path of the snapshot has a name. -/
  snapshotPath_ne : ∀ path, c.snapshotPath = some path → path ≠ ""
  /-- A page size that is set is in force. -/
  pageSize_eq : ∀ n, c.pageSize = some n → c.effectivePageSize.val = n
  /-- So is a limit. -/
  limit_eq : ∀ n, c.suggestionLimit = some n → c.effectiveLimit = n.toNat
  /-- So is an interval. -/
  interval_eq : ∀ n, c.pollInterval = some n → c.effectiveInterval = n.toNat
  /-- So is the time of a call. -/
  latency_eq : ∀ n, c.callLatency = some n → c.effectiveLatency = n.toNat

/-- A number of 64 bits that is set, and not to zero, or else has a default, counts something. -/
theorem one_le_toNat_getD {o : Option UInt64} (h : o ≠ some 0) {d : UInt64} (hd : d ≠ 0) :
    1 ≤ (o.getD d).toNat := by
  refine Nat.one_le_iff_ne_zero.mpr fun hzero => ?_
  have hget : o.getD d = 0 := UInt64.toNat_inj.mp hzero
  cases o with
  | none => exact hd hget
  | some n => exact h (congrArg some hget)

/-- **Usable values are in force as they are set.** -/
theorem Usable.resolves {c : Config} (h : c.Usable) : c.Resolves where
  one_le_pageSize := c.effectivePageSize.toNat_pos
  one_le_limit := one_le_toNat_getD h.suggestionLimit_ne (by decide)
  one_le_interval := one_le_toNat_getD h.pollInterval_ne (by decide)
  snapshotPath_ne path hpath := by
    rintro rfl
    exact h.snapshotPath_ne hpath
  pageSize_eq n hn := by
    -- A page size of zero would give way to the default.
    have hne : n ≠ 0 := fun hzero => h.pageSize_ne (hzero ▸ hn)
    simp [effectivePageSize, hn, PageSize.ofUInt32?, hne]
  limit_eq n hn := by rw [effectiveLimit, hn, Option.getD_some]
  interval_eq n hn := by rw [effectiveInterval, hn, Option.getD_some]
  latency_eq n hn := by rw [effectiveLatency, hn, Option.getD_some]

/-! ## Two files -/

/-- What a file **sets if it has a place**: without a directory for it there is no file. -/
def SetsAt (place : Option Layer) (c : Config) : Prop :=
  match place with
  | none => c = .unset
  | some l => l.Sets c

/-- What the files of the user and of the project **load**. -/
inductive Loads (home : Option Layer) (project : Layer) : Except ConfigError Config → Prop
  /-- The user's file fails. -/
  | home_fails {l : Layer} {e : ConfigError} (hhome : home = some l) (he : l.Fails e) :
      Loads home project (.error e)
  /-- The user's file does not, but the project's does. -/
  | project_fails {h : Config} {e : ConfigError} (hhome : SetsAt home h) (he : project.Fails e) :
      Loads home project (.error e)
  /-- Together they set a value that cannot be used. -/
  | invalid {h p c : Config} {m : String} (hhome : SetsAt home h) (hproject : project.Sets p)
      (hc : InForce h p c) (hm : c.problem? = some m) (hunusable : ¬c.Usable) :
      Loads home project (.error (.invalid m))
  /-- Together they set a configuration. -/
  | usable {h p c : Config} (hhome : SetsAt home h) (hproject : project.Sets p)
      (hc : InForce h p c) (husable : c.Usable) : Loads home project (.ok c)

/-- A place with a file that sets something is a list of at most one file, and of what it sets. -/
theorem SetsAt.forall₂ {home : Option Layer} {h : Config} (hhome : SetsAt home h) :
    ∃ cs, List.Forall₂ Layer.Sets home.toList cs ∧ cs.foldl merge unset = h := by
  cases home with
  | none => exact ⟨[], .nil, hhome.symm⟩
  | some l => exact ⟨[h], .cons hhome .nil, unset_merge h⟩

/-- What loads is what loading gives. -/
theorem Loads.load_eq {home : Option Layer} {project : Layer} {r : Except ConfigError Config}
    (hr : Loads home project r) : (load (home.toList ++ [project])).1 = r := by
  cases hr with
  | @home_fails l e hhome he =>
      subst hhome
      have hfails := mergeLayers_of_fails .nil he unset [project]
      rw [List.nil_append] at hfails
      show (mergeLayers unset [l, project]).1.bind validate = _
      rw [hfails]
      rfl
  | project_fails hhome he =>
      obtain ⟨cs, hcs, -⟩ := hhome.forall₂
      show (mergeLayers unset (home.toList ++ [project])).1.bind validate = _
      rw [mergeLayers_of_fails hcs he unset []]
      rfl
  | @invalid h p c m hhome hproject hc hm _ =>
      obtain ⟨cs, hcs, hfold⟩ := hhome.forall₂
      show (mergeLayers unset (home.toList ++ [project])).1.bind validate = _
      rw [mergeLayers_of_sets (List.rel_append hcs (.cons hproject .nil)), List.foldl_append, hfold]
      rw [inForce_iff.mp hc] at hm
      exact validate_of_problem hm
  | @usable h p c hhome hproject hc husable =>
      obtain ⟨cs, hcs, hfold⟩ := hhome.forall₂
      show (mergeLayers unset (home.toList ++ [project])).1.bind validate = _
      rw [mergeLayers_of_sets (List.rel_append hcs (.cons hproject .nil)), List.foldl_append, hfold]
      obtain rfl := inForce_iff.mp hc
      exact validate_of_usable husable

/-- Something loads, whatever the files are. -/
theorem exists_loads (home : Option Layer) (project : Layer) : ∃ r, Loads home project r := by
  have hhome : (∃ l e, home = some l ∧ l.Fails e) ∨ ∃ h, SetsAt home h := by
    cases home with
    | none => exact .inr ⟨_, rfl⟩
    | some l =>
        rcases l.fails_or_sets with ⟨e, he⟩ | ⟨h, hh⟩
        · exact .inl ⟨l, e, rfl, he⟩
        · exact .inr ⟨h, hh⟩
  rcases hhome with ⟨l, e, hl, he⟩ | ⟨h, hh⟩
  · exact ⟨_, .home_fails hl he⟩
  · rcases project.fails_or_sets with ⟨e, he⟩ | ⟨p, hp⟩
    · exact ⟨_, .project_fails hh he⟩
    · have hc := inForce_iff.mpr (rfl : h.merge p = h.merge p)
      cases hm : (h.merge p).problem? with
      | none => exact ⟨_, .usable hh hp hc (problem?_eq_none_iff.mp hm)⟩
      | some m =>
          refine ⟨_, .invalid hh hp hc hm fun husable => ?_⟩
          rw [problem?_eq_none_iff.mpr husable] at hm
          cases hm

/-- **What the two files load**, for all that can be found under their paths. The first file that
fails decides, the user's before the project's, and a file that does not exist never does. If neither
fails, the merged configuration is refused iff a value in it cannot be used, and otherwise it loads:
each key is set as by the project, or else as by the user, or else not at all. Whatever loads resolves
to values that can be used, and to those that are set. -/
theorem load_iff_loads (home : Option Layer) (project : Layer) :
    (∀ r, (load (home.toList ++ [project])).1 = r ↔ Loads home project r) ∧
      (∀ l : Layer, l.file = .error .notFound → (∀ e, ¬l.Fails e) ∧ ∀ c, l.Sets c ↔ c = .unset) ∧
      ∀ c, (load (home.toList ++ [project])).1 = .ok c → c.Usable ∧ c.Resolves := by
  have hiff : ∀ r, (load (home.toList ++ [project])).1 = r ↔ Loads home project r := by
    intro r
    constructor
    · rintro rfl
      obtain ⟨r', hr'⟩ := exists_loads home project
      rwa [hr'.load_eq]
    · exact Loads.load_eq
  refine ⟨hiff, ?_, ?_⟩
  · intro l hmissing
    refine ⟨fun e he => ?_, fun c => ⟨fun hc => ?_, fun hc => hc ▸ .missing hmissing⟩⟩
    · cases he with
      | read hfile hfound => exact hfound (Except.error.inj (hfile.symm.trans hmissing))
      | parse hfile _ => cases hfile.symm.trans hmissing
    · cases hc with
      | missing _ => rfl
      | found hfile _ => cases hfile.symm.trans hmissing
  · intro c hc
    cases (hiff _).mp hc with
    | usable _ _ _ husable => exact ⟨husable, husable.resolves⟩

/-- The user asks for pages without rows, which nothing can be done with, and the project for pages of
five rows; that is all it sets. Together they load, and what the user sets besides is in force. -/
theorem load_over_unusable_value :
    ∃ (home project : Layer) (c : Config), home.file =
        .ok "[list]\npage_size = 0\n\n[backend]\nlatency_ms = 20\n" ∧
      project.file = .ok "[list]\npage_size = 5\n" ∧
      (load [home]).1 = .error (.invalid "list.page_size must be greater than 0") ∧
      (load [home, project]).1 = .ok c ∧ c.effectivePageSize.val = 5 ∧ c.effectiveLatency = 20 ∧
      1 ≤ c.effectiveLimit ∧ 1 ≤ c.effectiveInterval := by
  let home : Layer := ⟨"home", .ok "[list]\npage_size = 0\n\n[backend]\nlatency_ms = 20\n"⟩
  let project : Layer := ⟨"project", .ok "[list]\npage_size = 5\n"⟩
  let h : Config := { unset with pageSize := some 0, callLatency := some 20 }
  let p : Config := { unset with pageSize := some 5 }
  let c : Config := { unset with pageSize := some 5, callLatency := some 20 }
  have hhome : home.Sets h := .found rfl (by decide +kernel)
  have hproject : project.Sets p := .found rfl (by decide +kernel)
  have husable : c.Usable := problem?_eq_none_iff.mp rfl
  have hunusable : ¬h.Usable := fun hu => hu.pageSize_ne rfl
  obtain ⟨hloads, -, hresolves⟩ := load_iff_loads (some home) project
  have hc := (hloads _).mpr (.usable hhome hproject (inForce_iff.mpr rfl) husable)
  obtain ⟨-, hr⟩ := hresolves c hc
  have halone := ((load_iff_loads none home).1 _).mpr
    (.invalid rfl hhome (inForce_iff.mpr rfl) rfl hunusable)
  exact ⟨home, project, c, rfl, rfl, halone, hc, hr.pageSize_eq 5 rfl, hr.latency_eq 20 rfl,
    hr.one_le_limit, hr.one_le_interval⟩

end Config

end Lookout
