import Lookout.Cli.Arguments

/-! # The flags of a command line
An option may be spelled in several ways, and an argument may belong to an option that was named long
before it. This file says what is left of all that when a command line was read: **a collection of
flags in which every option stands as often as it may**, and for `list`, which options they make.

* `Regular`: what holds of the flags that were accepted on a level; kept by every argument.
* `listFlags?`: the flags of a command line for `list`, after the command and before it.
* `Asks`: what options the flags make. Neither their order nor a repetition has any influence. -/

namespace Lookout.Cli

/-- A **flag**: an option, and the value that was given to it, if any. -/
abbrev Flag := Opt × Option String

/-! ## Steps that may be refused -/

section Steps

variable {ε α β : Type} {x : Except ε α} {b : β}

/-- What comes of two steps comes of both. -/
theorem bind_eq_ok {f : α → Except ε β} (h : x.bind f = .ok b) : ∃ a, x = .ok a ∧ f a = .ok b := by
  cases x with
  | error r => cases h
  | ok a => exact ⟨a, rfl, h⟩

/-- What comes of a step that is changed afterwards comes of the step. -/
theorem map_eq_ok {f : α → β} (h : x.map f = .ok b) : ∃ a, x = .ok a ∧ f a = b := by
  cases x with
  | error r => cases h
  | ok a => exact ⟨a, rfl, Except.ok.inj h⟩

end Steps

/-! ## Regular flags -/

/-- Flags are **regular** if they stand as often as they may and have a value that they can have. -/
structure Regular (fs : List Flag) : Prop where
  /-- No option is given twice that may be given once. -/
  once : fs.Pairwise fun p q => p.1 = q.1 → p.1.arity = .many
  /-- What takes a value has one. -/
  valued : ∀ {o}, o.arity ≠ .flag → (o, none) ∉ fs
  /-- No value is one that is refused. -/
  legal : ∀ {o v}, (o, some v) ∈ fs → o.refusal? v = none

namespace Regular

/-- No flags are regular. -/
theorem nil : Regular [] := ⟨.nil, fun _ => List.not_mem_nil, nofun⟩

variable {fs : List Flag} {o : Opt}

/-- What may be given once has one value. -/
theorem unique (h : Regular fs) (ho : o.arity ≠ .many) {v w : Option String} (hv : (o, v) ∈ fs)
    (hw : (o, w) ∈ fs) : v = w := by
  obtain ⟨i, hi, hvi⟩ := List.getElem_of_mem hv
  obtain ⟨k, hk, hwk⟩ := List.getElem_of_mem hw
  -- In two places it would have been given twice, whichever comes first.
  have honce := List.pairwise_iff_getElem.mp h.once
  rcases Nat.lt_trichotomy i k with hlt | rfl | hlt
  · have hmany := honce i k hi hk hlt
    rw [hvi, hwk] at hmany
    exact absurd (hmany rfl) ho
  · exact congrArg Prod.snd (hvi.symm.trans hwk)
  · have hmany := honce k i hk hi hlt
    rw [hvi, hwk] at hmany
    exact absurd (hmany rfl) ho

/-- Another flag may follow if its option may be given again and its value can be taken. -/
theorem concat (h : Regular fs) {v : Option String}
    (honce : o.arity ≠ .many → ∀ w, (o, w) ∉ fs) (hvalued : o.arity ≠ .flag → v ≠ none)
    (hlegal : ∀ w, v = some w → o.refusal? w = none) : Regular (fs ++ [(o, v)]) where
  once := by
    refine List.pairwise_append.mpr ⟨h.once, List.pairwise_singleton _ _, ?_⟩
    rintro ⟨p, w⟩ hp q hq hpq
    obtain rfl := List.mem_singleton.mp hq
    obtain rfl : p = o := hpq
    exact Decidable.byContradiction fun hne => honce hne w hp
  valued := by
    intro p hp hmem
    rcases List.mem_append.mp hmem with hmem | hmem
    · exact h.valued hp hmem
    · obtain ⟨rfl, rfl⟩ := Prod.mk.inj (List.mem_singleton.mp hmem)
      exact hvalued hp rfl
  legal := by
    intro p w hmem
    rcases List.mem_append.mp hmem with hmem | hmem
    · exact h.legal hmem
    · obtain ⟨rfl, rfl⟩ := Prod.mk.inj (List.mem_singleton.mp hmem)
      exact hlegal w rfl

end Regular

namespace Scan

variable {l : Level} {s s' : Scan} {o : Opt}

/-- Whether an option was given is to be seen from the flags. -/
theorem has_iff : s.has o = true ↔ ∃ v, (o, v) ∈ s.given := by
  simp [has, List.any_eq_true]

/-- The values of an option are those of its flags. -/
theorem mem_values_iff {v : String} : v ∈ s.values o ↔ (o, some v) ∈ s.given := by
  rw [values, List.mem_filterMap]
  constructor
  · rintro ⟨⟨p, w⟩, hmem, hw⟩
    simp only at hw
    split at hw
    · next hp => rwa [hw, hp] at hmem
    · cases hw
  · intro hmem
    exact ⟨_, hmem, if_pos rfl⟩

/-- What is looked up is there. -/
theorem lookup_isSome_of_mem {fs : List Flag} {v : Option String} (h : (o, v) ∈ fs) :
    ∃ w, fs.lookup o = some w := by
  induction fs with
  | nil => cases h
  | cons p fs ih =>
      obtain ⟨q, u⟩ := p
      rw [List.lookup_cons]
      by_cases hq : o = q
      · subst hq
        exact ⟨u, by simp⟩
      · have hmem : (o, v) ∈ fs := (List.mem_cons.mp h).resolve_left fun he =>
          hq (congrArg Prod.fst he)
        obtain ⟨w, hw⟩ := ih hmem
        exact ⟨w, by simp [beq_eq_false_iff_ne.mpr hq, hw]⟩

/-- What was looked up was there. -/
theorem mem_of_lookup {fs : List Flag} {v : Option String} (h : fs.lookup o = some v) :
    (o, v) ∈ fs := by
  obtain ⟨before, after, rfl, -⟩ := List.lookup_eq_some_iff.mp h
  exact List.mem_append_right before List.mem_cons_self

/-- The value of an option that may be given once is that of its flag. -/
theorem value?_eq_some_iff (h : Regular s.given) (ho : o.arity ≠ .many) {v : String} :
    s.value? o = some v ↔ (o, some v) ∈ s.given := by
  rw [value?]
  constructor
  · intro hv
    obtain ⟨w, hw, hid⟩ := Option.bind_eq_some_iff.mp hv
    obtain rfl : w = some v := hid
    exact mem_of_lookup hw
  · intro hmem
    obtain ⟨w, hw⟩ := lookup_isSome_of_mem hmem
    obtain rfl := h.unique ho (mem_of_lookup hw) hmem
    rw [hw]
    rfl

/-! ## What an argument adds -/

/-- A flag that is accepted comes last. -/
theorem given_accept {v : Option String} (h : s.accept o v = .ok s') :
    s'.given = s.given ++ [(o, v)] ∧ (o.arity ≠ .flag → v ≠ none) ∧
      (o.arity ≠ .many → s.has o = false) ∧ v.bind o.refusal? = none := by
  unfold accept at h
  split at h
  · cases h
  · cases h
  · split at h
    · cases h
    · next hvalue =>
        split at h
        · cases h
        · next honce =>
            split at h
            · cases h
            · next hrefusal =>
                obtain rfl := Except.ok.inj h
                refine ⟨rfl, ?_, ?_, hrefusal⟩
                · intro harity hnone
                  simp [harity, hnone] at hvalue
                · intro harity
                  simpa [harity] using honce

/-- A flag that is accepted leaves the flags regular. -/
theorem regular_accept (hs : Regular s.given) {v : Option String} (h : s.accept o v = .ok s') :
    Regular s'.given := by
  obtain ⟨hgiven, hvalued, honce, hrefusal⟩ := given_accept h
  rw [hgiven]
  refine hs.concat ?_ hvalued ?_
  · intro harity w hmem
    have hhas : s.has o = true := has_iff.mpr ⟨w, hmem⟩
    rw [honce harity] at hhas
    cases hhas
  · rintro w rfl
    exact hrefusal

/-- Looking at what is pending leaves the flags regular. -/
theorem regular_flush (hs : Regular s.given) (h : s.flush = .ok s') : Regular s'.given := by
  unfold flush at h
  split at h
  · obtain rfl := Except.ok.inj h
    exact hs
  · exact regular_accept (s := { s with pending := none, expecting := false }) hs h

/-- An option that needs nothing more leaves the flags regular. -/
theorem regular_complete (hs : Regular s.given) {v : Option String} (h : s.complete o v = .ok s') :
    Regular s'.given := by
  obtain ⟨t, hf, ht⟩ := bind_eq_ok h
  exact regular_accept (regular_flush hs hf) ht

/-- An option that waits for its value leaves the flags regular. -/
theorem regular_await (hs : Regular s.given) (h : s.await o = .ok s') : Regular s'.given := by
  obtain ⟨t, hf, rfl⟩ := map_eq_ok h
  have ht : Regular t.given := regular_flush hs hf
  exact ht

/-- An option with a long name leaves the flags regular. -/
theorem regular_long (hs : Regular s.given) {name : String} {v : Option String}
    (h : s.long l name v = .ok s') : Regular s'.given := by
  unfold long at h
  split at h
  · cases h
  · split at h
    · cases h
    · exact regular_complete hs h
  · split at h
    · exact regular_complete hs h
    · exact regular_await hs h

/-- Options with short names leave the flags regular. -/
theorem regular_shorts (hs : Regular s.given) {cs : List Char} (h : s.shorts l cs = .ok s') :
    Regular s'.given := by
  induction cs generalizing s with
  | nil =>
      obtain rfl := Except.ok.inj h
      exact hs
  | cons c cs ih =>
      rw [shorts] at h
      split at h
      · cases h
      · next o _ =>
          split at h
          · obtain ⟨t, hc, ht⟩ := bind_eq_ok h
            exact ih (regular_complete hs hc) ht
          · split at h
            · exact regular_await hs h
            · exact regular_complete hs h
            · exact regular_complete hs h

/-- A positional argument leaves the flags regular. -/
theorem regular_positional (hs : Regular s.given) {arg : String}
    (h : s.positional l arg = .ok s') : Regular s'.given := by
  unfold positional at h
  split at h
  · obtain ⟨t, hf, rfl⟩ := map_eq_ok h
    have ht : Regular t.given := regular_flush hs hf
    exact ht
  · split at h
    · cases h
    · split at h <;> cases h

/-- Any argument that is accepted leaves the flags regular. -/
theorem regular_step (hs : Regular s.given) {arg : String} (h : s.step l arg = .ok s') :
    Regular s'.given := by
  unfold step at h
  split at h
  · exact regular_positional hs h
  · split at h
    · obtain rfl := Except.ok.inj h
      exact hs
    · exact regular_long hs h
    · exact regular_shorts hs h
    · split at h
      · obtain rfl := Except.ok.inj h
        exact hs
      · exact regular_positional hs h

/-- A scan ends at a command, and otherwise looks at one argument after the other. -/
theorem run_cons {arg : String} {args : List String} {found : Option (String × List String)}
    (h : s.run l (arg :: args) = .ok (s', found)) :
    (s.isCommand l arg = true ∧ s' = s ∧ found = some (arg, args)) ∨
      (s.isCommand l arg = false ∧ ∃ t, s.step l arg = .ok t ∧ t.run l args = .ok (s', found)) := by
  rw [run] at h
  split at h
  · next hcommand =>
      obtain ⟨rfl, rfl⟩ := Prod.mk.inj (Except.ok.inj h)
      exact .inl ⟨hcommand, rfl, rfl⟩
  · next hcommand =>
      refine .inr ⟨Bool.eq_false_iff.mpr hcommand, ?_⟩
      cases hstep : s.step l arg with
      | error r => simp [hstep] at h
      | ok t =>
          rw [hstep] at h
          exact ⟨t, rfl, h⟩

/-- **All arguments of a level leave the flags regular.** -/
theorem regular_run (hs : Regular s.given) {args : List String}
    {found : Option (String × List String)} (h : s.run l args = .ok (s', found)) :
    Regular s'.given := by
  induction args generalizing s with
  | nil =>
      obtain ⟨rfl, -⟩ := Prod.mk.inj (Except.ok.inj h)
      exact hs
  | cons arg rest ih =>
      obtain ⟨-, rfl, -⟩ | ⟨-, t, hstep, ht⟩ := run_cons h
      · exact hs
      · exact ih (regular_step hs hstep) ht

end Scan

/-! ## Flags of a command line -/

/-- The scan of a command that is accepted, before and after what is pending was looked at. -/
theorem scanCommand_eq_ok {l : Level} {args : List String} {s : Scan}
    (h : scanCommand l args = .ok s) :
    ∃ t found, (Scan.initial l).run l args = .ok (t, found) ∧ t.flush = .ok s := by
  obtain ⟨⟨t, found⟩, hrun, h⟩ := bind_eq_ok h
  obtain ⟨u, hflush, h⟩ := bind_eq_ok h
  split at h
  · obtain rfl := Except.ok.inj h
    exact ⟨t, found, hrun, hflush⟩
  · cases h

/-- An accepted command has regular flags. -/
theorem regular_scanCommand {l : Level} {args : List String} {s : Scan}
    (h : scanCommand l args = .ok s) : Regular s.given := by
  obtain ⟨t, found, hrun, hflush⟩ := scanCommand_eq_ok h
  exact Scan.regular_flush (Scan.regular_run .nil hrun) hflush

/-- Whether an option may stand before the command as well. -/
def Opt.isCommon : Opt → Bool
  | .quiet | .data => true
  | _ => false

/-- The flags that count: those of the command, and those before it that the command does not have
as well. -/
def flagsOf (root own : List Flag) : List Flag :=
  own ++ root.filter fun p => p.1.isCommon && !own.any (·.1 = p.1)

/-- The **flags** of a command line for `list`, if it is one. -/
def listFlags? (args : List String) : Option (List Flag) :=
  match (Scan.initial .root).run .root args with
  | .ok (root, some ("list", rest)) =>
    match scanCommand .list rest, root.flush with
    | .ok own, .ok root => some (flagsOf root.given own.given)
    | _, _ => none
  | _ => none

/-- What flags **ask** for: an option has the value that was given to it, if any. -/
structure Asks (fs : List Flag) (data : Option String) (o : ListOptions) : Prop where
  /-- The file with the snapshot. -/
  data_iff : ∀ v, data = some v ↔ (.data, some v) ∈ fs
  /-- The text to search for. -/
  search_iff : ∀ v, o.search = some v ↔ (.search, some v) ∈ fs
  /-- The values of a facet. -/
  wanted_iff : ∀ f v, v ∈ o.wanted f ↔ (.facet f, some v) ∈ fs
  /-- The page. -/
  page_iff : ∀ p, o.page = some p ↔ ∃ v, (.page, some v) ∈ fs ∧ page? v = some p
  /-- The page size. -/
  pageSize_iff : ∀ p, o.pageSize = some p ↔ ∃ v, (.pageSize, some v) ∈ fs ∧ pageSize? v = some p
  /-- Whether the answer is wanted as JSON. -/
  json_iff : o.json = true ↔ ∃ v, (.json, v) ∈ fs
  /-- A page that is given is one. -/
  page_given : ∀ v, (.page, some v) ∈ fs → ∃ p, page? v = some p
  /-- A page size that is given is one. -/
  pageSize_given : ∀ v, (.pageSize, some v) ∈ fs → ∃ p, pageSize? v = some p

/-- What is not common is given after the command. -/
theorem mem_flagsOf {root own : List Flag} {o : Opt} (ho : o.isCommon = false)
    {v : Option String} : (o, v) ∈ flagsOf root own ↔ (o, v) ∈ own := by
  simp [flagsOf, ho]

/-- A common option is looked for after the command first. -/
theorem mem_flagsOf_data {root own : Scan} (hroot : Regular root.given) (hown : Regular own.given)
    (v : String) :
    (own.value? .data).or (root.value? .data) = some v ↔
      (.data, some v) ∈ flagsOf root.given own.given := by
  have hroot? := Scan.value?_eq_some_iff (o := .data) hroot (by decide) (v := v)
  have hown? := fun w => Scan.value?_eq_some_iff (o := .data) hown (by decide) (v := w)
  rw [flagsOf, List.mem_append, List.mem_filter, ← hown? v, ← hroot?]
  -- A file after the command hides one before it.
  cases hdata : own.value? .data with
  | some w =>
      have hhas : own.given.any (·.1 = Opt.data) = true := Scan.has_iff.mpr ⟨_, (hown? w).mp hdata⟩
      simp [hhas]
  | none =>
      have hhas : own.given.any (·.1 = Opt.data) = false := by
        refine Bool.eq_false_iff.mpr fun hhas => ?_
        obtain ⟨w, hw⟩ := Scan.has_iff.mp hhas
        cases w with
        | none => exact hown.valued (by decide) hw
        | some w =>
            rw [(hown? w).mpr hw] at hdata
            cases hdata
      simp [hhas, Opt.isCommon]

/-- The flags of a command ask for its options. -/
theorem asks_flagsOf {root own : Scan} (hroot : Regular root.given) (hown : Regular own.given) :
    Asks (flagsOf root.given own.given) ((own.value? .data).or (root.value? .data))
      (listOptions own) where
  data_iff := mem_flagsOf_data hroot hown
  search_iff := fun v => by
    rw [mem_flagsOf rfl]
    exact Scan.value?_eq_some_iff hown (by decide)
  wanted_iff := fun f v => by
    rw [mem_flagsOf rfl]
    exact Scan.mem_values_iff
  page_iff := fun p => by
    simp only [mem_flagsOf (o := .page) rfl, ← Scan.value?_eq_some_iff (o := .page) hown (by decide)]
    exact Option.bind_eq_some_iff
  pageSize_iff := fun p => by
    simp only [mem_flagsOf (o := .pageSize) rfl,
      ← Scan.value?_eq_some_iff (o := .pageSize) hown (by decide)]
    exact Option.bind_eq_some_iff
  json_iff := by
    simp only [mem_flagsOf (o := .json) rfl]
    exact Scan.has_iff
  page_given := fun v hv => by
    have hlegal := hown.legal ((mem_flagsOf rfl).mp hv)
    cases hp : page? v with
    | none => simp [Opt.refusal?, hp] at hlegal
    | some p => exact ⟨p, rfl⟩
  pageSize_given := fun v hv => by
    have hlegal := hown.legal ((mem_flagsOf rfl).mp hv)
    cases hp : pageSize? v with
    | none => simp [Opt.refusal?, hp] at hlegal
    | some p => exact ⟨p, rfl⟩

/-- Only `list` reads the options of `list`. -/
theorem readCommand_eq_list {name : String} {args : List String} {s : Scan} {o : ListOptions}
    (h : readCommand name args = .ok (s, .list o)) :
    name = "list" ∧ scanCommand .list args = .ok s ∧ o = listOptions s := by
  unfold readCommand at h
  split at h
  · obtain ⟨t, hscan, heq⟩ := map_eq_ok h
    obtain ⟨rfl, hcommand⟩ := Prod.mk.inj heq
    exact ⟨rfl, hscan, (Command.list.inj hcommand).symm⟩
  · obtain ⟨t, -, heq⟩ := map_eq_ok h
    cases heq
  · obtain ⟨t, -, hread⟩ := bind_eq_ok h
    split at hread <;> cases hread
  · split at h
    · cases h
    · split at h <;> cases h
    · cases h

/-- **The flags of a command line for `list` ask for its options.** -/
theorem asks_of_parse {args : List String} {i : Invocation} {o : ListOptions}
    (h : Invocation.parse args = .ok i) (ho : i.command = .list o) :
    ∃ fs, listFlags? args = some fs ∧ Asks fs i.data o := by
  obtain ⟨⟨root, found⟩, hrun, h⟩ := bind_eq_ok h
  have hroot : Regular root.given := Scan.regular_run .nil hrun
  cases found with
  | none =>
      -- Without a command every line is refused.
      obtain ⟨flushed, -, h⟩ := bind_eq_ok h
      split at h <;> cases h
  | some found =>
      obtain ⟨name, rest⟩ := found
      obtain ⟨⟨own, c⟩, hread, h⟩ := bind_eq_ok h
      obtain ⟨flushed, hflush, h⟩ := bind_eq_ok h
      obtain rfl := Except.ok.inj h
      obtain rfl : c = .list o := ho
      obtain ⟨rfl, hscan, rfl⟩ := readCommand_eq_list hread
      refine ⟨flagsOf flushed.given own.given, ?_, ?_⟩
      · simp only [listFlags?, hrun, hscan, hflush]
      · exact asks_flagsOf (Scan.regular_flush hroot hflush) (regular_scanCommand hscan)

end Lookout.Cli
