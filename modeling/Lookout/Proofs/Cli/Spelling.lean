import Lookout.Proofs.Cli.Flags

/-! # How flags are spelled
A flag has several spellings: a long name, with its value attached or in the argument after it, or a
short name, of which several may stand in one argument. This file is the grammar of these spellings,
without any regard to how they are read, and shows that **a command line that is accepted spells the
flags that are read from it, and no others**.

* `Cluster`, `Reads`, `Spells`: what short names, one argument and many arguments spell.
* `Scan.Holds`: what is known half-way through the arguments.
* `SpellsList`: the flags of a command line for `list`. -/

namespace Lookout.Cli

/-! ## The grammar -/

/-- What short names in one argument spell: flags, and maybe an option that is to get its value from
the next argument. -/
inductive Cluster (l : Level) : List Char → List Flag → Option Opt → Prop
  /-- No names. -/
  | nil : Cluster l [] [] none
  /-- A flag, with more names behind it. -/
  | flag {c : Char} {cs : List Char} {o : Opt} {fs : List Flag} {w : Option Opt}
      (hc : l.shorts.lookup c = some o) (ho : o.arity = .flag) (h : Cluster l cs fs w) :
      Cluster l (c :: cs) ((o, none) :: fs) w
  /-- An option at the end. -/
  | last {c : Char} {o : Opt} (hc : l.shorts.lookup c = some o) (ho : o.arity ≠ .flag) :
      Cluster l [c] [] (some o)
  /-- An option with its value behind an equals sign. -/
  | equals {c : Char} {o : Opt} {v : List Char} (hc : l.shorts.lookup c = some o)
      (ho : o.arity ≠ .flag) : Cluster l (c :: '=' :: v) [(o, some (String.ofList v))] none
  /-- An option with its value right behind it. -/
  | attached {c d : Char} {o : Opt} {v : List Char} (hc : l.shorts.lookup c = some o)
      (ho : o.arity ≠ .flag) (hd : d ≠ '=') :
      Cluster l (c :: d :: v) [(o, some (String.ofList (d :: v)))] none

/-- An argument that does not look like an option; a dash alone does not. -/
def IsValue (arg : String) : Prop := ∀ c cs, arg.toList ≠ '-' :: c :: cs

/-- What one argument spells, if this option is to get its value from it, and the option that is to
get its value from the next one. -/
inductive Reads (l : Level) : Option Opt → String → List Flag → Option Opt → Prop
  /-- A value. -/
  | value {o : Opt} {v : String} (hv : IsValue v) : Reads l (some o) v [(o, some v)] none
  /-- A flag by its long name. -/
  | flag {o : Opt} {name : String} (hname : l.longs.lookup name = some o) (ho : o.arity = .flag) :
      Reads l none ("--" ++ name) [(o, none)] none
  /-- An option by its long name, with its value behind an equals sign. -/
  | equals {o : Opt} {name v : String} (hname : l.longs.lookup name = some o)
      (ho : o.arity ≠ .flag) : Reads l none ("--" ++ name ++ "=" ++ v) [(o, some v)] none
  /-- An option by its long name. -/
  | long {o : Opt} {name : String} (hname : l.longs.lookup name = some o) (ho : o.arity ≠ .flag) :
      Reads l none ("--" ++ name) [] (some o)
  /-- Short names. -/
  | shorts {c : Char} {cs : List Char} {fs : List Flag} {w : Option Opt}
      (h : Cluster l (c :: cs) fs w) : Reads l none (String.ofList ('-' :: c :: cs)) fs w

/-- What arguments **spell**, if this option is to get its value from the first one. Two dashes may
end them. -/
inductive Spells (l : Level) : Option Opt → List String → List Flag → Prop
  /-- No arguments. -/
  | nil : Spells l none [] []
  /-- Nothing but two dashes. -/
  | dashes : Spells l none ["--"] []
  /-- An argument, and others behind it. -/
  | cons {w w' : Option Opt} {arg : String} {args : List String} {fs gs : List Flag}
      (h : Reads l w arg fs w') (hs : Spells l w' args gs) : Spells l w (arg :: args) (fs ++ gs)

/-- A level with **plain** names: no name of an option is empty or has an equals sign in it, no short
name is a dash, and no command looks like an option. -/
structure Level.Plain (l : Level) : Prop where
  /-- Long names. -/
  longs : ∀ p ∈ l.longs, p.1 ≠ "" ∧ '=' ∉ p.1.toList
  /-- Short names. -/
  shorts : l.shorts.lookup '-' = none
  /-- Commands. -/
  commands : ∀ c ∈ l.commands, c.toList.head? ≠ some '-'

/-- The program has plain names. -/
theorem Level.plain_root : Level.root.Plain := ⟨by decide, by decide, by decide⟩

/-- The command `list` has plain names. -/
theorem Level.plain_list : Level.list.Plain := ⟨by decide, by decide, by decide⟩

namespace Scan

variable {l : Level} {s s' t : Scan} {fs gs : List Flag} {w w' : Option Opt} {o : Opt}

/-! ## Half-way through the arguments -/

/-- What a scan **holds** on a level without positional arguments: flags, of which the last one may be
pending, and the option that is to get its value from the next argument. -/
inductive Holds : Scan → List Flag → Option Opt → Prop
  /-- Nothing is pending. -/
  | settled (fs : List Flag) : Holds ⟨fs, none, false, [], false⟩ fs none
  /-- A flag with its value is pending. -/
  | ready (fs : List Flag) (o : Opt) (v : String) :
      Holds ⟨fs, some (o, some v), false, [], false⟩ (fs ++ [(o, some v)]) none
  /-- An option without its value is pending. -/
  | waiting (fs : List Flag) {o : Opt} (ho : o.arity ≠ .flag) :
      Holds ⟨fs, some (o, none), true, [], false⟩ fs (some o)

/-- What is accepted comes last, and nothing else changes. -/
theorem accept_eq {v : Option String} (h : s.accept o v = .ok s') :
    s' = { s with given := s.given ++ [(o, v)] } := by
  unfold accept at h
  repeat' split at h
  all_goals cases h
  rfl

/-- An option that needs a value is not accepted without one. -/
theorem accept_none (ho : o.arity ≠ .flag) : s.accept o none ≠ .ok s' := fun h =>
  (given_accept h).2.1 ho rfl

namespace Holds

/-- There were no two dashes. -/
theorem trailing_eq (h : s.Holds fs w) : s.trailing = false := by
  cases h <;> rfl

/-- No positional argument is missing. -/
theorem left_eq (h : s.Holds fs w) : s.left = [] := by
  cases h <;> rfl

/-- What is pending can be looked at unless it waits for a value, and is among the flags then. -/
theorem flush (h : s.Holds fs w) (hflush : s.flush = .ok t) :
    w = none ∧ t = ⟨fs, none, false, [], false⟩ := by
  cases h with
  | settled => exact ⟨rfl, (Except.ok.inj hflush).symm⟩
  | ready fs o v => exact ⟨rfl, accept_eq hflush⟩
  | waiting fs ho => exact absurd hflush (accept_none ho)

/-- Two dashes leave what is pending to be looked at as it is. -/
theorem flush_trailing (h : s.Holds fs w) (hflush : { s with trailing := true }.flush = .ok t) :
    w = none ∧ t.given = fs := by
  cases h with
  | settled =>
      obtain rfl := Except.ok.inj hflush
      exact ⟨rfl, rfl⟩
  | ready fs o v =>
      obtain rfl := accept_eq hflush
      exact ⟨rfl, rfl⟩
  | waiting fs ho => exact absurd hflush (accept_none ho)

/-- An option that needs nothing more comes last. -/
theorem complete (h : s.Holds fs w) {v : Option String} (hc : s.complete o v = .ok s') :
    w = none ∧ s' = ⟨fs ++ [(o, v)], none, false, [], false⟩ := by
  obtain ⟨t, hflush, haccept⟩ := bind_eq_ok hc
  obtain ⟨hw, rfl⟩ := h.flush hflush
  exact ⟨hw, accept_eq haccept⟩

/-- An option may wait for its value if no other one does. -/
theorem await (h : s.Holds fs w) (ha : s.await o = .ok s') :
    w = none ∧ s' = ⟨fs, some (o, none), true, [], false⟩ := by
  obtain ⟨t, hflush, rfl⟩ := map_eq_ok ha
  obtain ⟨hw, rfl⟩ := h.flush hflush
  exact ⟨hw, rfl⟩

end Holds

/-! ## What is read is spelled -/

/-- Short names that are accepted make a cluster. -/
theorem cluster_of_shorts {c : Char} {cs : List Char} {s : Scan} {fs : List Flag} {w : Option Opt}
    (hs : s.Holds fs w) (h : s.shorts l (c :: cs) = .ok s') :
    w = none ∧ ∃ gs w', Cluster l (c :: cs) gs w' ∧ s'.Holds (fs ++ gs) w' := by
  rw [shorts] at h
  split at h
  · cases h
  · next o hc =>
      split at h
      · next ho =>
          obtain ⟨t, hcomplete, h⟩ := bind_eq_ok h
          obtain ⟨hw, rfl⟩ := hs.complete hcomplete
          refine ⟨hw, ?_⟩
          -- Behind a flag there may be more names, for which nothing is pending.
          cases cs with
          | nil =>
              obtain rfl := Except.ok.inj h
              exact ⟨[(o, none)], none, .flag hc ho .nil, .settled _⟩
          | cons d ds =>
              obtain ⟨-, gs, w', hcluster, hholds⟩ := cluster_of_shorts (.settled _) h
              refine ⟨(o, none) :: gs, w', .flag hc ho hcluster, ?_⟩
              rwa [List.append_assoc] at hholds
      · next ho =>
          split at h
          · obtain ⟨hw, rfl⟩ := hs.await h
            exact ⟨hw, [], some o, .last hc ho, (List.append_nil fs).symm ▸ .waiting fs ho⟩
          · obtain ⟨hw, rfl⟩ := hs.complete h
            exact ⟨hw, _, none, .equals hc ho, .settled _⟩
          · next hnil hequals =>
              obtain ⟨hw, rfl⟩ := hs.complete h
              refine ⟨hw, ?_⟩
              cases cs with
              | nil => exact absurd rfl hnil
              | cons d ds =>
                  have hd : d ≠ '=' := fun he => hequals ds (he ▸ rfl)
                  exact ⟨_, none, .attached hc ho hd, .settled _⟩

/-- A long option is a name, or a name and a value behind an equals sign. -/
theorem splitLong_cases (cs : List Char) :
    (∃ name, splitLong cs = (name, none) ∧ String.ofList ('-' :: '-' :: cs) = "--" ++ name) ∨
      ∃ name v, splitLong cs = (name, some v) ∧
        String.ofList ('-' :: '-' :: cs) = "--" ++ name ++ "=" ++ v := by
  have hcs := List.takeWhile_append_dropWhile (p := fun d => decide (d ≠ '=')) (l := cs)
  unfold splitLong
  cases hdrop : cs.dropWhile fun d => decide (d ≠ '=') with
  | nil =>
      rw [hdrop, List.append_nil] at hcs
      refine .inl ⟨_, rfl, String.toList_inj.mp ?_⟩
      simpa using hcs.symm
  | cons d v =>
      obtain rfl : d = '=' := by
        have hhead := List.head?_dropWhile_not (fun d => decide (d ≠ '=')) cs
        rw [hdrop] at hhead
        simpa using hhead
      rw [hdrop] at hcs
      refine .inr ⟨_, _, rfl, String.toList_inj.mp ?_⟩
      simpa using hcs.symm

/-- A long option that is accepted is spelled by its argument. -/
theorem reads_of_long {cs : List Char} (hs : s.Holds fs w)
    (h : s.long l (splitLong cs).1 (splitLong cs).2 = .ok s') :
    w = none ∧ ∃ gs w', Reads l none (String.ofList ('-' :: '-' :: cs)) gs w' ∧
      s'.Holds (fs ++ gs) w' := by
  unfold long at h
  obtain ⟨name, hsplit, harg⟩ | ⟨name, v, hsplit, harg⟩ := splitLong_cases cs
  · rw [hsplit] at h
    rw [harg]
    cases hname : l.longs.lookup name with
    | none => simp [hname] at h
    | some o =>
        simp only [hname] at h
        split at h
        · next ho =>
            obtain ⟨hw, rfl⟩ := hs.complete h
            exact ⟨hw, _, none, .flag hname ho, .settled _⟩
        · next ho =>
            obtain ⟨hw, rfl⟩ := hs.await h
            exact ⟨hw, [], some o, .long hname ho, (List.append_nil fs).symm ▸ .waiting fs ho⟩
  · rw [hsplit] at h
    rw [harg]
    cases hname : l.longs.lookup name with
    | none => simp [hname] at h
    | some o =>
        simp only [hname] at h
        split at h
        · cases h
        · next ho =>
            obtain ⟨hw, rfl⟩ := hs.complete h
            exact ⟨hw, _, none, .equals hname ho, .settled _⟩

/-- There is no place for a positional argument. -/
theorem positional_ne_ok (hleft : s.left = []) (arg : String) : s.positional l arg ≠ .ok s' := by
  unfold positional
  rw [hleft]
  simp only
  split
  · nofun
  · split <;> nofun

/-- **An argument that is accepted spells what is read from it**, unless it is two dashes. -/
theorem reads_of_step (hs : s.Holds fs w) {arg : String} (h : s.step l arg = .ok s') :
    (arg = "--" ∧ s' = { s with trailing := true }) ∨
      ∃ gs w', Reads l w arg gs w' ∧ s'.Holds (fs ++ gs) w' := by
  unfold step at h
  rw [hs.trailing_eq, if_neg Bool.false_ne_true] at h
  split at h
  · next harg => exact .inl ⟨String.toList_inj.mp harg, (Except.ok.inj h).symm⟩
  · next cs _ harg =>
      obtain ⟨rfl, gs, w', hreads, hholds⟩ := reads_of_long hs h
      rw [← harg, String.ofList_toList] at hreads
      exact .inr ⟨gs, w', hreads, hholds⟩
  · next c cs _ harg =>
      obtain ⟨rfl, gs, w', hcluster, hholds⟩ := cluster_of_shorts hs h
      have hreads := Reads.shorts hcluster
      rw [← harg, String.ofList_toList] at hreads
      exact .inr ⟨gs, w', hreads, hholds⟩
  · next hdashes _ hdash =>
      split at h
      · next o _ hpending hexpecting =>
          cases hs with
          | settled => cases hpending
          | ready => cases hexpecting
          | waiting fs ho =>
              obtain rfl := Except.ok.inj h
              obtain ⟨rfl, -⟩ := Prod.mk.inj (Option.some.inj hpending)
              exact .inr ⟨_, none, .value fun c cs harg => hdash c cs harg, .ready fs _ arg⟩
      · exact absurd h (positional_ne_ok hs.left_eq arg)

/-- Behind two dashes nothing is accepted. -/
theorem run_trailing (htrailing : s.trailing = true) (hleft : s.left = []) {args : List String}
    {found : Option (String × List String)} (h : s.run l args = .ok (s', found)) :
    args = [] ∧ found = none ∧ s' = s := by
  cases args with
  | nil =>
      obtain ⟨rfl, rfl⟩ := Prod.mk.inj (Except.ok.inj h)
      exact ⟨rfl, rfl, rfl⟩
  | cons arg rest =>
      obtain ⟨hcommand, -, -⟩ | ⟨-, t, hstep, -⟩ := run_cons h
      · rw [isCommand, htrailing] at hcommand
        cases hcommand
      · rw [step, htrailing] at hstep
        exact absurd hstep (positional_ne_ok hleft arg)

/-- What is left to scan once a command was found. -/
def rest (found : Option (String × List String)) : List String :=
  found.elim [] fun p => p.1 :: p.2

/-- Only a command ends a scan early. -/
theorem mem_commands_of_run {args args' : List String} {c : String}
    (h : s.run l args = .ok (s', some (c, args'))) : c ∈ l.commands := by
  induction args generalizing s with
  | nil => cases h
  | cons arg args ih =>
      obtain ⟨hcommand, -, hfound⟩ | ⟨-, t, -, hrun⟩ := run_cons h
      · obtain ⟨rfl, -⟩ := Prod.mk.inj (Option.some.inj hfound)
        exact of_decide_eq_true (Bool.and_eq_true_iff.mp hcommand).2
      · exact ih hrun

/-- **Arguments that are accepted spell what is read from them**, up to a command. -/
theorem spells_of_run (hs : s.Holds fs w) {args : List String}
    {found : Option (String × List String)} (h : s.run l args = .ok (s', found))
    (hflush : s'.flush = .ok t) :
    ∃ before gs, args = before ++ rest found ∧ Spells l w before gs ∧ t.given = fs ++ gs := by
  -- The arguments read so far are forgotten; what the scan holds of them is all that counts.
  induction args generalizing s fs w with
  | nil =>
      obtain ⟨rfl, rfl⟩ := Prod.mk.inj (Except.ok.inj h)
      obtain ⟨rfl, rfl⟩ := hs.flush hflush
      exact ⟨[], [], rfl, .nil, (List.append_nil fs).symm⟩
  | cons arg args ih =>
      obtain ⟨-, rfl, rfl⟩ | ⟨-, u, hstep, hrun⟩ := run_cons h
      · obtain ⟨rfl, rfl⟩ := hs.flush hflush
        exact ⟨[], [], rfl, .nil, (List.append_nil fs).symm⟩
      · rcases reads_of_step hs hstep with ⟨rfl, rfl⟩ | ⟨gs, w', hreads, hholds⟩
        · have hleft : { s with trailing := true }.left = [] := hs.left_eq
          obtain ⟨rfl, rfl, rfl⟩ := run_trailing rfl hleft hrun
          obtain ⟨rfl, hgiven⟩ := hs.flush_trailing hflush
          exact ⟨["--"], [], rfl, .dashes, hgiven.trans (List.append_nil fs).symm⟩
        · obtain ⟨before, hs', hargs, hspells, hgiven⟩ := ih hholds hrun
          refine ⟨arg :: before, gs ++ hs', by rw [hargs]; rfl, .cons hreads hspells, ?_⟩
          rw [hgiven, List.append_assoc]

/-! ## What is spelled is read -/

/-- Short names add what they spell. -/
theorem Holds.shorts {cs : List Char} (hs : s.Holds fs none) (hcluster : Cluster l cs gs w)
    (h : s.shorts l cs = .ok s') : s'.Holds (fs ++ gs) w := by
  induction hcluster generalizing s fs with
  | nil =>
      obtain rfl := Except.ok.inj h
      exact (List.append_nil fs).symm ▸ hs
  | flag hc ho _ ih =>
      simp only [Scan.shorts, hc, ho, if_true] at h
      obtain ⟨t, hcomplete, hrest⟩ := bind_eq_ok h
      obtain ⟨-, rfl⟩ := hs.complete hcomplete
      have hholds := ih (.settled _) hrest
      rwa [List.append_assoc] at hholds
  | last hc ho =>
      simp only [Scan.shorts, hc, ho, if_false] at h
      obtain ⟨-, rfl⟩ := hs.await h
      exact (List.append_nil fs).symm ▸ .waiting fs ho
  | equals hc ho =>
      simp only [Scan.shorts, hc, ho, if_false] at h
      obtain ⟨-, rfl⟩ := hs.complete h
      exact .settled _
  | attached hc ho hd =>
      simp only [Scan.shorts, hc, ho, if_false] at h
      split at h
      · next he => cases he
      · next he => exact absurd (List.cons.inj he).1 hd
      · obtain ⟨-, rfl⟩ := hs.complete h
        exact .settled _

/-- A name without an equals sign ends at the first one, if there is one. -/
theorem splitLong_name {name : String} (hname : '=' ∉ name.toList) :
    splitLong name.toList = (name, none) ∧
      ∀ v : String, splitLong (name.toList ++ '=' :: v.toList) = (name, some v) := by
  have hall : ∀ d ∈ name.toList, decide (d ≠ '=') = true := fun d hd =>
    decide_eq_true fun he => hname (he ▸ hd)
  have hstop : decide ('=' ≠ '=') = false := rfl
  refine ⟨?_, fun v => ?_⟩
  · have hdrop : (name.toList ++ []).dropWhile (fun d => decide (d ≠ '=')) = [] :=
      List.dropWhile_append_of_pos hall
    have htake : (name.toList ++ []).takeWhile (fun d => decide (d ≠ '=')) = name.toList ++ [] :=
      List.takeWhile_append_of_pos hall
    rw [List.append_nil] at hdrop htake
    simp only [splitLong, hdrop, htake, String.ofList_toList]
  · simp only [splitLong, List.dropWhile_append_of_pos hall, List.takeWhile_append_of_pos hall,
      List.dropWhile_cons, List.takeWhile_cons, hstop, Bool.false_eq_true, if_false,
      List.append_nil, String.ofList_toList]

/-- What is looked up is listed. -/
theorem mem_of_lookup_longs {name : String} (h : l.longs.lookup name = some o) :
    (name, o) ∈ l.longs := by
  obtain ⟨before, after, heq, -⟩ := List.lookup_eq_some_iff.mp h
  rw [heq]
  exact List.mem_append_right before List.mem_cons_self

/-- An argument with two dashes and a plain name is looked at as a long option. -/
theorem step_long (hl : l.Plain) (hs : s.Holds fs w) {name : String}
    (hname : l.longs.lookup name = some o) :
    s.step l ("--" ++ name) = s.long l name none ∧
      ∀ v, s.step l ("--" ++ name ++ "=" ++ v) = s.long l name (some v) := by
  obtain ⟨hne, heq⟩ := hl.longs _ (mem_of_lookup_longs hname)
  obtain ⟨halone, hvalue⟩ := splitLong_name heq
  obtain ⟨c, ds, hcs⟩ := List.exists_cons_of_ne_nil (mt String.toList_eq_nil_iff.mp hne)
  have hdash : ∀ {arg : String} {cs : List Char}, arg.toList = '-' :: '-' :: c :: cs →
      s.step l arg = s.long l (splitLong (c :: cs)).1 (splitLong (c :: cs)).2 := by
    intro arg cs harg
    rw [step, hs.trailing_eq, if_neg Bool.false_ne_true, harg]
    rfl
  refine ⟨?_, fun v => ?_⟩
  · have harg : ("--" ++ name).toList = '-' :: '-' :: c :: ds := by simp [← hcs]
    rw [hdash harg, ← hcs, halone]
  · have harg : ("--" ++ name ++ "=" ++ v).toList = '-' :: '-' :: c :: (ds ++ '=' :: v.toList) := by
      rw [← List.cons_append, ← hcs]
      simp
    rw [hdash harg, ← List.cons_append, ← hcs, hvalue]

/-- An argument with one dash is looked at as short names. -/
theorem step_shorts (hl : l.Plain) (hs : s.Holds fs w) {c : Char} {cs : List Char}
    (h : Cluster l (c :: cs) gs w') :
    s.step l (String.ofList ('-' :: c :: cs)) = s.shorts l (c :: cs) := by
  -- A cluster begins with a short name, and no short name is a dash.
  have hc : c ≠ '-' := by
    rintro rfl
    cases h <;> simp_all [hl.shorts]
  rw [step, hs.trailing_eq, if_neg Bool.false_ne_true, String.toList_ofList]
  split
  · next he => exact absurd (List.cons.inj (List.cons.inj he).2).1 hc
  · next he => exact absurd (List.cons.inj (List.cons.inj he).2).1 hc
  · next he =>
      obtain ⟨rfl, rfl⟩ := List.cons.inj (List.cons.inj he).2
      rfl
  · next hdash => exact absurd rfl (hdash c cs)

/-- An argument that is waited for is a value. -/
theorem step_value (hs : s.Holds fs (some o)) {v : String} (hv : IsValue v) :
    s.step l v = .ok ⟨fs, some (o, some v), false, [], false⟩ := by
  cases hs with
  | waiting fs ho =>
      rw [step, if_neg Bool.false_ne_true]
      split
      · next he => exact absurd he (hv _ _)
      · next he => exact absurd he (hv _ _)
      · next he => exact absurd he (hv _ _)
      · rfl

/-- **An argument adds what it spells.** -/
theorem Holds.step (hl : l.Plain) (hs : s.Holds fs w) {arg : String} (hreads : Reads l w arg gs w')
    (h : s.step l arg = .ok s') : s'.Holds (fs ++ gs) w' := by
  cases hreads with
  | value hv =>
      rw [step_value hs hv] at h
      obtain rfl := Except.ok.inj h
      exact .ready fs _ arg
  | flag hname ho =>
      rw [(step_long hl hs hname).1] at h
      simp only [long, hname, ho, if_true] at h
      obtain ⟨-, rfl⟩ := hs.complete h
      exact .settled _
  | equals hname ho =>
      rw [(step_long hl hs hname).2] at h
      simp only [long, hname, ho, if_false] at h
      obtain ⟨-, rfl⟩ := hs.complete h
      exact .settled _
  | long hname ho =>
      rw [(step_long hl hs hname).1] at h
      simp only [Scan.long, hname, ho, if_false] at h
      obtain ⟨-, rfl⟩ := hs.await h
      exact (List.append_nil fs).symm ▸ .waiting fs ho
  | shorts hcluster =>
      rw [step_shorts hl hs hcluster] at h
      exact hs.shorts hcluster h

/-- No command is named where an argument is read. -/
theorem isCommand_of_reads (hl : l.Plain) (hs : s.Holds fs w) {arg : String}
    (hreads : Reads l w arg gs w') : s.isCommand l arg = false := by
  have hdash : arg.toList.head? = some '-' → s.isCommand l arg = false := by
    intro harg
    refine Bool.eq_false_iff.mpr fun hcommand => ?_
    obtain ⟨-, hmem⟩ := Bool.and_eq_true_iff.mp hcommand
    exact hl.commands arg (of_decide_eq_true hmem) harg
  cases hreads with
  | value hv =>
      cases hs with
      | waiting fs ho => rfl
  | flag => exact hdash (by simp)
  | equals => exact hdash (by simp)
  | long => exact hdash (by simp)
  | shorts => exact hdash (by simp)

/-- Two dashes are no command, and end the options. -/
theorem step_dashes (hl : l.Plain) (hs : s.Holds fs w) :
    s.isCommand l "--" = false ∧ s.step l "--" = .ok { s with trailing := true } := by
  refine ⟨?_, ?_⟩
  · refine Bool.eq_false_iff.mpr fun hcommand => ?_
    obtain ⟨-, hmem⟩ := Bool.and_eq_true_iff.mp hcommand
    exact hl.commands "--" (of_decide_eq_true hmem) rfl
  · rw [step, hs.trailing_eq, if_neg Bool.false_ne_true]
    rfl

/-- **Arguments add what they spell**, if they are all that there are or a command comes next. -/
theorem given_of_spells (hl : l.Plain) (hs : s.Holds fs w) {before after : List String}
    (hspells : Spells l w before gs)
    (hafter : ∀ c args, after = c :: args → c ∈ l.commands)
    {found : Option (String × List String)} (h : s.run l (before ++ after) = .ok (s', found))
    (hflush : s'.flush = .ok t) : rest found = after ∧ t.given = fs ++ gs := by
  -- On the spelling rather than on the arguments, so that each case knows what comes next.
  induction hspells generalizing s fs with
  | nil =>
      cases after with
      | nil =>
          obtain ⟨rfl, rfl⟩ := Prod.mk.inj (Except.ok.inj h)
          obtain ⟨-, rfl⟩ := hs.flush hflush
          exact ⟨rfl, (List.append_nil fs).symm⟩
      | cons c args =>
          have hcommand : s.isCommand l c = true := by
            have hmem := hafter c args rfl
            cases hs <;> exact decide_eq_true hmem
          rw [List.nil_append, run, if_pos hcommand] at h
          obtain ⟨rfl, rfl⟩ := Prod.mk.inj (Except.ok.inj h)
          obtain ⟨-, rfl⟩ := hs.flush hflush
          exact ⟨rfl, (List.append_nil fs).symm⟩
  | dashes =>
      have hleft : { s with trailing := true }.left = [] := hs.left_eq
      obtain ⟨hnone, hdashes⟩ := step_dashes hl hs
      obtain ⟨hcommand, -, -⟩ | ⟨-, u, hstep, hrun⟩ := run_cons h
      · rw [hnone] at hcommand
        cases hcommand
      · obtain rfl := Except.ok.inj (hdashes.symm.trans hstep)
        obtain ⟨hargs, rfl, rfl⟩ := run_trailing rfl hleft hrun
        obtain ⟨-, hgiven⟩ := hs.flush_trailing hflush
        exact ⟨hargs.symm, hgiven.trans (List.append_nil fs).symm⟩
  | cons hreads _ ih =>
      obtain ⟨hcommand, -, -⟩ | ⟨-, u, hstep, hrun⟩ := run_cons h
      · rw [isCommand_of_reads hl hs hreads] at hcommand
        cases hcommand
      · obtain ⟨hrest, hgiven⟩ := ih (hs.step hl hreads hstep) hrun
        exact ⟨hrest, by rw [hgiven, List.append_assoc]⟩

end Scan

/-! ## Command lines -/

/-- The flags that a command line for `list` **spells**: those before the command count as far as
they may stand there and do not stand after it. -/
def SpellsList (args : List String) (fs : List Flag) : Prop :=
  ∃ before root after own, args = before ++ "list" :: after ∧ Spells .root none before root ∧
    Spells .list none after own ∧ fs = flagsOf root own

/-- The flags of `list` that are accepted are those that its arguments spell. -/
theorem spells_list_iff {args : List String} {s : Scan} (h : scanCommand .list args = .ok s)
    {gs : List Flag} : Spells .list none args gs ↔ gs = s.given := by
  obtain ⟨t, found, hrun, hflush⟩ := scanCommand_eq_ok h
  have hinitial : (Scan.initial .list).Holds [] none := .settled []
  have hfound : found = none := by
    cases found with
    | none => rfl
    | some p => exact absurd (Scan.mem_commands_of_run hrun) List.not_mem_nil
  subst hfound
  constructor
  · intro hspells
    rw [← List.append_nil args] at hrun
    exact (Scan.given_of_spells Level.plain_list hinitial hspells (fun _ _ he => by cases he) hrun
      hflush).2.symm
  · rintro rfl
    obtain ⟨before, gs, hargs, hspells, hgiven⟩ := Scan.spells_of_run hinitial hrun hflush
    rw [hargs, hgiven]
    exact (List.append_nil before).symm ▸ hspells

/-- **The flags of a command line are those that it spells.** -/
theorem spellsList_iff {args : List String} {fs gs : List Flag} (h : listFlags? args = some fs) :
    SpellsList args gs ↔ gs = fs := by
  unfold listFlags? at h
  split at h
  · next root rest hrun =>
      split at h
      · next own root' hscan hflush =>
          obtain rfl := Option.some.inj h
          have hinitial : (Scan.initial .root).Holds [] none := .settled []
          constructor
          · rintro ⟨before, froot, after, fown, rfl, hroot, hown, rfl⟩
            have hlist : ∀ c args, "list" :: after = c :: args → c ∈ Level.root.commands := by
              rintro c args he
              rw [← (List.cons.inj he).1]
              decide
            obtain ⟨hrest, hgiven⟩ :=
              Scan.given_of_spells Level.plain_root hinitial hroot hlist hrun hflush
            obtain ⟨-, rfl⟩ := List.cons.inj hrest
            rw [hgiven, (spells_list_iff hscan).mp hown]
            rfl
          · rintro rfl
            obtain ⟨before, froot, hargs, hroot, hgiven⟩ :=
              Scan.spells_of_run hinitial hrun hflush
            exact ⟨before, _, rest, _, hargs, hgiven ▸ hroot, (spells_list_iff hscan).mpr rfl, rfl⟩
      · cases h
  · cases h

end Lookout.Cli
