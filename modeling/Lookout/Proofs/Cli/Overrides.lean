import Lookout.Cli.Program
import Lookout.Proofs.Config.Layers

/-! # Flags over the configuration
Three keys of the configuration can be set by a flag as well. Two runs with the same flag are compared
here whose files differ only in the values of its key: **nobody can tell the runs apart, unless a value
cannot be used**. Files are checked when they are loaded, which is before any flag comes in, and so the
flag comes too late for a value that is refused.

* `Key`, `Invocation.Gives`: the three keys, and what it means to give the flag.
* `DifferOnlyIn`: files that differ in the values of one key.
* `Result.seen`: what a run shows to the outside, and `Stage.Alike`, stages that show the same.
* `flag_overrides`, `flag_comes_too_late`: the whole statement, and its limit. -/

namespace Lookout

/-- A **key** of the configuration that a flag can set. -/
inductive Key
  /-- The path of the snapshot. -/
  | snapshotPath
  /-- The rows of one page. -/
  | pageSize
  /-- The milliseconds between two refreshes. -/
  | pollInterval
  deriving DecidableEq, Repr

namespace Key

/-- A configuration without the value of a key. -/
def clear (c : Config) : Key → Config
  | .snapshotPath => { c with snapshotPath := none }
  | .pageSize => { c with pageSize := none }
  | .pollInterval => { c with pollInterval := none }

/-- Whether the value of a key can be used, if it has one. -/
def Usable (c : Config) : Key → Prop
  | .snapshotPath => c.snapshotPath ≠ some ""
  | .pageSize => c.pageSize ≠ some 0
  | .pollInterval => c.pollInterval ≠ some 0

instance (c : Config) (k : Key) : Decidable (k.Usable c) :=
  match k with
  | .snapshotPath => inferInstanceAs (Decidable (c.snapshotPath ≠ some ""))
  | .pageSize => inferInstanceAs (Decidable (c.pageSize ≠ some 0))
  | .pollInterval => inferInstanceAs (Decidable (c.pollInterval ≠ some 0))

variable {k : Key} {b c c' : Config}

/-- Keys are merged one by one. -/
theorem clear_merge (k : Key) (b c : Config) : k.clear (b.merge c) = (k.clear b).merge (k.clear c) := by
  cases k <;> rfl

/-- Configurations that differ only in a key still do when they are merged. -/
theorem clear_foldl_merge {cs cs' : List Config}
    (h : List.Forall₂ (fun c c' => k.clear c = k.clear c') cs cs') (hb : k.clear b = k.clear c) :
    k.clear (cs.foldl Config.merge b) = k.clear (cs'.foldl Config.merge c) := by
  induction h generalizing b c with
  | nil => exact hb
  | cons heq _ ih => exact ih (by rw [clear_merge, clear_merge, hb, heq])

/-- A value that can be used is no problem, nor is its absence. -/
theorem problem?_clear (h : k.Usable c) : (k.clear c).problem? = c.problem? := by
  cases k with
  | snapshotPath =>
      have hpath : c.snapshotPath ≠ some "" := h
      simp only [clear, Config.problem?, if_neg hpath]
      rfl
  | pageSize =>
      have hsize : c.pageSize ≠ some 0 := h
      simp only [clear, Config.problem?, if_neg hsize]
      rfl
  | pollInterval =>
      have hinterval : c.pollInterval ≠ some 0 := h
      simp only [clear, Config.problem?, if_neg hinterval]
      rfl

/-- Only one value cannot be used. -/
theorem eq_of_unusable (h : k.clear c = k.clear c') (hc : ¬k.Usable c) (hc' : ¬k.Usable c') :
    c = c' := by
  cases c
  cases c'
  cases k <;> simp_all [clear, Usable]

/-- Configurations that differ only in a key have the same problem, if any, unless the key makes the
difference. -/
theorem problem?_congr (h : k.clear c = k.clear c') (husable : k.Usable c ↔ k.Usable c') :
    c.problem? = c'.problem? := by
  by_cases hc : k.Usable c
  · rw [← problem?_clear hc, ← problem?_clear (husable.mp hc), h]
  · rw [eq_of_unusable h hc (hc ∘ husable.mpr)]

/-- A value that cannot be used is a problem. -/
theorem exists_problem (h : ¬k.Usable c) : ∃ m, c.problem? = some m := by
  cases hm : c.problem? with
  | some m => exact ⟨m, rfl⟩
  | none =>
      have husable := Config.problem?_eq_none_iff.mp hm
      refine absurd ?_ h
      cases k with
      | snapshotPath => exact husable.snapshotPath_ne
      | pageSize => exact husable.pageSize_ne
      | pollInterval => exact husable.pollInterval_ne

end Key

/-- Files that **differ only in** the values they give to a key; either sets something, and neither
fails. -/
def Layer.DifferOnlyIn (k : Key) (l l' : Layer) : Prop :=
  ∃ c c', l.Sets c ∧ l'.Sets c' ∧ k.clear c = k.clear c'

namespace Cli

/-- Whether an invocation **gives** the flag for a key. -/
def Invocation.Gives (i : Invocation) : Key → Prop
  | .snapshotPath => ∃ path, i.data = some path
  | .pageSize => ∃ o p, i.command = .list o ∧ o.pageSize = some p
  | .pollInterval => ∃ o n, i.command = .watch o ∧ o.interval = some n

/-! ## What is seen of a run -/

/-- Whether something that is given out is **seen**: all of it is, except for events that do not reach
the log. -/
def Output.isSeen (quiet : Bool) : Output → Bool
  | .answer _ | .notice _ => true
  | .event e => isLogged quiet e

/-- What is **seen** of a run: what it gives out, and how it fails, if it does. -/
def Result.seen (quiet : Bool) (r : Result) : List Output × Option String :=
  (r.output.filter (Output.isSeen quiet), r.failure)

@[simp] theorem Result.seen_after (quiet : Bool) (earlier : List Output) (r : Result) :
    (r.after earlier).seen quiet =
      (earlier.filter (Output.isSeen quiet) ++ (r.seen quiet).1, r.failure) := by
  rw [seen, after, List.filter_append]
  rfl

/-- That a file was loaded is not seen. -/
theorem filter_isSeen_reported (quiet : Bool) (ls : List Layer) :
    (Output.events (ls.flatMap Layer.reported)).filter (Output.isSeen quiet) = [] := by
  rw [List.filter_eq_nil_iff]
  intro o ho
  obtain ⟨e, he, rfl⟩ := List.mem_map.mp ho
  obtain ⟨l, -, he⟩ := List.mem_flatMap.mp he
  unfold Layer.reported at he
  split at he
  · obtain rfl := List.mem_singleton.mp he
    cases quiet <;> exact Bool.false_ne_true
  · cases he

/-- Stages that are **alike**: what is seen of them so far is the same, and so is what is to come. -/
inductive Stage.Alike (quiet : Bool) : Stage → Stage → Prop
  /-- Both are done. -/
  | done {r r' : Result} (h : r.seen quiet = r'.seen quiet) : Alike quiet (.done r) (.done r')
  /-- Both go on watching. -/
  | watching {out out' : List Output} (path : String) (w : Watch)
      (h : out.filter (Output.isSeen quiet) = out'.filter (Output.isSeen quiet)) :
      Alike quiet (.watching out path w) (.watching out' path w)

namespace Stage

variable {quiet : Bool} {s s' : Stage} {out out' : List Output}

/-- A stage is like itself. -/
theorem Alike.refl (quiet : Bool) (s : Stage) : Alike quiet s s := by
  cases s with
  | done r => exact .done rfl
  | watching out path w => exact .watching path w rfl

/-- Stages that are alike stay so after what is seen alike. -/
theorem Alike.after (h : Alike quiet s s')
    (hout : out.filter (Output.isSeen quiet) = out'.filter (Output.isSeen quiet)) :
    Alike quiet (s.after out) (s'.after out') := by
  cases h with
  | done h =>
      obtain ⟨-, hfailure⟩ := Prod.mk.inj h
      refine .done ?_
      rw [Result.seen_after, Result.seen_after, h, hout]
      exact congrArg _ hfailure
  | watching path w h =>
      exact .watching path w (by rw [List.filter_append, List.filter_append, h, hout])

end Stage

/-- A command that is closed shows what it did, and then how it ended. -/
theorem Result.seen_close {quiet : Bool} {r r' : Result} (cmd : Command)
    (h : r.seen quiet = r'.seen quiet) : (r.close cmd).seen quiet = (r'.close cmd).seen quiet := by
  obtain ⟨houtput, hfailure⟩ := Prod.mk.inj h
  simp only [seen, close, List.filter_append, houtput, hfailure]

/-- **Runs that begin alike are seen alike.** -/
theorem seen_program_of_alike {quiet : Bool} {files files' : Files} {i : Invocation}
    (h : (start files i).Alike quiet (start files' i))
    (rereads : String → Nat → Except ReadFault String) (n : Nat) :
    (program files rereads i n).map (Result.seen quiet) =
      (program files' rereads i n).map (Result.seen quiet) := by
  unfold program
  generalize start files i = s at h
  generalize start files' i = s' at h
  cases h with
  | done h => exact congrArg some (Result.seen_close i.command h)
  | watching path w h =>
      show Option.map _ (Option.map _ _) = Option.map _ (Option.map _ _)
      rw [Option.map_map, Option.map_map]
      congr 1
      funext r
      refine Result.seen_close i.command ?_
      rw [Result.seen_after, Result.seen_after, h]

/-! ## Getting ready -/

/-- A configuration with the snapshot of the command line, if there is one. -/
def withData (data : Option String) (c : Config) : Config :=
  { c with snapshotPath := data.or c.snapshotPath }

/-- The configuration that loading leaves to a command: checked, with the snapshot of the command line,
and checked again. -/
def prepare (data : Option String) (c : Config) : Except ConfigError Config :=
  c.validate.bind fun c => (withData data c).validate

/-- What a command does with a configuration: it opens the snapshot and goes on with both. -/
def withSnapshot (read : String → Except ReadFault String) (next : Config → String → Backend → Stage)
    (c : Config) : Stage :=
  match snapshotPath c with
  | .error r => .done r
  | .ok path =>
    match openBackend c path (read path) with
    | .error r => .done r
    | .ok (b, opened) => (next c path b).after opened

/-- How a command ends without a configuration. -/
def Result.unconfigured (e : ConfigError) : Result :=
  .complaint ("Failed to load configuration: " ++ e.message) e.complaint

/-- What a command does once the files were merged. -/
def afterMerge (read : String → Except ReadFault String) (data : Option String)
    (change : Config → Config) (next : Config → String → Backend → Stage) (c : Config) : Stage :=
  match prepare data c with
  | .error e => .done (.unconfigured e)
  | .ok c => withSnapshot read next (change c)

theorem Stage.after_after (earlier later : List Output) (s : Stage) :
    (s.after later).after earlier = s.after (earlier ++ later) := by
  cases s <;> simp [Stage.after, Result.after]

section

variable {read : String → Except ReadFault String} {data : Option String} {change : Config → Config}
  {next : Config → String → Backend → Stage} {c c' : Config}

/-- **Files come in with the configuration they merge into**, apart from the events about them. -/
theorem withBackend_of_merged {layers : List Layer} {es : List Event}
    (h : Config.mergeLayers .unset layers = (.ok c, es)) :
    withBackend ⟨layers, read⟩ data change next =
      (afterMerge read data change next c).after (Output.events es) := by
  have hload : loadConfig data layers = (prepare data c, es) := by
    simp only [loadConfig, Config.load, h]
    rfl
  unfold withBackend afterMerge configure withSnapshot
  rw [hload]
  cases prepare data c with
  | error e => rfl
  | ok c =>
      simp only
      cases snapshotPath (change c) with
      | error r => rfl
      | ok path =>
          simp only
          cases openBackend (change c) path (read path) with
          | error r => rfl
          | ok opened => exact (Stage.after_after _ _ _).symm

/-- What the files merge into is refused if it has a problem. -/
theorem prepare_of_problem {m : String} (h : c.problem? = some m) :
    prepare data c = .error (.invalid m) := by
  rw [prepare, Config.validate_of_problem h]
  rfl

/-- Otherwise it is prepared, unless the path on the command line is empty. -/
theorem prepare_of_usable (h : c.Usable) :
    prepare data c = if data = some "" then .error (.invalid "backend.fixture_path must not be empty")
      else .ok (withData data c) := by
  rw [prepare, Config.validate_of_usable h]
  show (withData data c).validate = _
  split
  · next hempty =>
      subst hempty
      refine Config.validate_of_problem ?_
      show (if c.pageSize = some 0 then _ else if c.suggestionLimit = some 0 then _
        else if c.pollInterval = some 0 then _ else _) = _
      rw [if_neg h.pageSize_ne, if_neg h.suggestionLimit_ne, if_neg h.pollInterval_ne]
      exact if_pos rfl
  · next hne =>
      refine Config.validate_of_usable ⟨h.pageSize_ne, h.suggestionLimit_ne, h.pollInterval_ne, ?_⟩
      cases data with
      | none => exact h.snapshotPath_ne
      | some path => exact hne

/-- Merged configurations with the same problem, if any, are told apart only by what the command does
with them. -/
theorem afterMerge_congr (hproblem : c.problem? = c'.problem?)
    (hnext : withSnapshot read next (change (withData data c)) =
      withSnapshot read next (change (withData data c'))) :
    afterMerge read data change next c = afterMerge read data change next c' := by
  unfold afterMerge
  cases hc : c.problem? with
  | some m => rw [prepare_of_problem hc, prepare_of_problem (hproblem ▸ hc)]
  | none =>
      rw [prepare_of_usable (Config.problem?_eq_none_iff.mp hc),
        prepare_of_usable (Config.problem?_eq_none_iff.mp (hproblem ▸ hc))]
      by_cases hdata : data = some ""
      · rw [if_pos hdata, if_pos hdata]
      · rw [if_neg hdata, if_neg hdata]
        exact hnext

/-- Opening a snapshot takes its path and the time of a call from the configuration. -/
theorem withSnapshot_congr (hpath : c.snapshotPath = c'.snapshotPath)
    (hlatency : c.callLatency = c'.callLatency) (hnext : next c = next c') :
    withSnapshot read next c = withSnapshot read next c' := by
  have heffective : c.effectiveLatency = c'.effectiveLatency := by
    rw [Config.effectiveLatency, Config.effectiveLatency, hlatency]
  unfold withSnapshot snapshotPath openBackend
  rw [hpath, heffective, hnext]

end

/-! ## Two hierarchies -/

/-- Hierarchies that merge into configurations with the same problem, if any, which the command treats
alike. -/
structure MergeAlike (layers layers' : List Layer) (c c' : Config) : Prop where
  /-- What the files of the one merge into. -/
  merged : Config.mergeLayers .unset layers = (.ok c, layers.flatMap Layer.reported)
  /-- What the files of the other merge into. -/
  merged' : Config.mergeLayers .unset layers' = (.ok c', layers'.flatMap Layer.reported)
  /-- Either is refused for the same problem, or neither is refused. -/
  problem_eq : c.problem? = c'.problem?

/-- A command that goes on alike with two configurations looks alike. -/
theorem MergeAlike.alike {layers layers' : List Layer} {c c' : Config}
    (h : MergeAlike layers layers' c c') (quiet : Bool) {read : String → Except ReadFault String}
    {data : Option String} {change : Config → Config} {next : Config → String → Backend → Stage}
    (hnext : withSnapshot read next (change (withData data c)) =
      withSnapshot read next (change (withData data c'))) :
    (withBackend ⟨layers, read⟩ data change next).Alike quiet
      (withBackend ⟨layers', read⟩ data change next) := by
  rw [withBackend_of_merged h.merged, withBackend_of_merged h.merged',
    afterMerge_congr h.problem_eq hnext]
  refine (Stage.Alike.refl quiet _).after ?_
  rw [filter_isSeen_reported, filter_isSeen_reported]

/-- With a path on the command line, nothing is left of the path that is configured. -/
theorem withData_clear (path : String) (c : Config) :
    withData (some path) (Key.snapshotPath.clear c) = withData (some path) c := rfl

/-- With a page size on the command line, nothing is left of the one that is configured. -/
theorem withPageSize_clear (data : Option String) (p : PageSize) (c : Config) :
    withPageSize (withData data (Key.pageSize.clear c)) (some p) =
      withPageSize (withData data c) (some p) := rfl

/-- The interval is not needed to open a snapshot. -/
theorem withSnapshot_clear (read : String → Except ReadFault String) (data : Option String)
    {next : Config → String → Backend → Stage} (c : Config)
    (hnext : ∀ c c', next c = next c') :
    withSnapshot read next (withData data (Key.pollInterval.clear c)) =
      withSnapshot read next (withData data c) :=
  withSnapshot_congr rfl rfl (hnext _ _)

/-- With an interval of its own, a watch takes none from the configuration. -/
theorem Watch.start_congr {o : WatchOptions} {n : UInt64} (h : o.interval = some n) (c c' : Config)
    (b : Backend) : Watch.start c b o = Watch.start c' b o := by
  unfold Watch.start
  simp only [h, Option.some_or, Config.effectiveInterval]

/-- **A command begins alike** with configurations that differ only in a key whose flag it gives. -/
theorem MergeAlike.alike_begin {layers layers' : List Layer} {c c' : Config}
    (h : MergeAlike layers layers' c c') {k : Key} (hclear : k.clear c = k.clear c') {i : Invocation}
    (hgives : i.Gives k) (quiet : Bool) (read : String → Except ReadFault String) :
    (begin ⟨layers, read⟩ i.data i.command).Alike quiet
      (begin ⟨layers', read⟩ i.data i.command) := by
  -- The command comes upon the key only behind its flag, which hides what is configured.
  cases k with
  | snapshotPath =>
      obtain ⟨path, hpath⟩ := hgives
      have hdata : withData i.data c = withData i.data c' := by
        rw [hpath, ← withData_clear, hclear, withData_clear]
      cases hcommand : i.command with
      | completions shell => exact .done rfl
      | list o => exact (h.alike quiet (by rw [hdata])).after rfl
      | watch o =>
          simp only [begin]
          exact h.alike quiet (by rw [hdata])
  | pageSize =>
      obtain ⟨o, p, hcommand, hsize⟩ := hgives
      have hsized : withPageSize (withData i.data c) o.pageSize =
          withPageSize (withData i.data c') o.pageSize := by
        rw [hsize, ← withPageSize_clear, hclear, withPageSize_clear]
      rw [hcommand]
      exact (h.alike quiet (congrArg (withSnapshot read _) hsized)).after rfl
  | pollInterval =>
      obtain ⟨o, n, hcommand, hinterval⟩ := hgives
      rw [hcommand]
      simp only [begin]
      refine h.alike quiet ?_
      have hnext : ∀ c c' : Config, (fun (path : String) (b : Backend) =>
          Stage.watching (Watch.start c b o).2 path (Watch.start c b o).1) =
          fun path b => Stage.watching (Watch.start c' b o).2 path (Watch.start c' b o).1 := by
        intro c c'
        funext path b
        rw [Watch.start_congr hinterval c c']
      show withSnapshot read _ (withData i.data c) = withSnapshot read _ (withData i.data c')
      rw [← withSnapshot_clear read i.data c hnext, hclear, withSnapshot_clear read i.data c' hnext]

/-- Files that differ only in a key merge into configurations that differ only in it. -/
theorem merged_of_differ {k : Key} {layers layers' : List Layer}
    (h : List.Forall₂ (Layer.DifferOnlyIn k) layers layers') :
    ∃ c c', Config.mergeLayers .unset layers = (.ok c, layers.flatMap Layer.reported) ∧
      Config.mergeLayers .unset layers' = (.ok c', layers'.flatMap Layer.reported) ∧
      k.clear c = k.clear c' := by
  have hsets : ∃ cs cs', List.Forall₂ Layer.Sets layers cs ∧ List.Forall₂ Layer.Sets layers' cs' ∧
      List.Forall₂ (fun c c' => k.clear c = k.clear c') cs cs' := by
    induction h with
    | nil => exact ⟨[], [], .nil, .nil, .nil⟩
    | cons hdiffer _ ih =>
        obtain ⟨c, c', hc, hc', heq⟩ := hdiffer
        obtain ⟨cs, cs', hcs, hcs', heqs⟩ := ih
        exact ⟨c :: cs, c' :: cs', .cons hc hcs, .cons hc' hcs', .cons heq heqs⟩
  obtain ⟨cs, cs', hcs, hcs', heqs⟩ := hsets
  exact ⟨_, _, Config.mergeLayers_of_sets hcs _, Config.mergeLayers_of_sets hcs' _,
    Key.clear_foldl_merge heqs rfl⟩

/-- A command that needs a configuration fails with the problem of what its files merge into. -/
theorem program_of_problem {files : Files} {c : Config} {es : List Event} {m : String}
    (hmerged : Config.mergeLayers .unset files.layers = (.ok c, es)) (hm : c.problem? = some m)
    {i : Invocation} (hcommand : ∀ shell, i.command ≠ .completions shell)
    (rereads : String → Nat → Except ReadFault String) (n : Nat) :
    ∃ r, program files rereads i n = some r ∧
      r.failure = some (ConfigError.invalid m).message := by
  have hstage : ∀ change next, withBackend files i.data change next =
      .done ((Result.unconfigured (.invalid m)).after (Output.events es)) := by
    intro change next
    rw [show files = ⟨files.layers, files.read⟩ from rfl, withBackend_of_merged hmerged, afterMerge,
      prepare_of_problem hm]
    rfl
  unfold program start
  cases hc : i.command with
  | completions shell => exact absurd hc (hcommand shell)
  | list o =>
      simp only [begin, hstage]
      exact ⟨_, rfl, rfl⟩
  | watch o =>
      simp only [begin, hstage]
      exact ⟨_, rfl, rfl⟩

/-! ## The flags -/

/-- **A flag overrides every value of its key that can be used.** Of two hierarchies whose files load,
and which differ only in the values they give to the key, in one file or in several, there is one
configuration each that the files merge into. If its value of the key can be used in both, or is not
there, nobody who gives the flag can tell the run with the one from the run with the other, whatever is
found in the snapshot; nor if it can be used in neither. It does not matter what an overridden file
says. A merged value that cannot be used ends every `list` and every `watch`, like any other problem of
the files, with whatever flags: none of them mends it. -/
theorem flag_overrides {k : Key} {i : Invocation} {layers layers' : List Layer}
    (hdiffer : List.Forall₂ (Layer.DifferOnlyIn k) layers layers') :
    ∃ c c', (Config.mergeLayers .unset layers).1 = .ok c ∧
      (Config.mergeLayers .unset layers').1 = .ok c' ∧ k.clear c = k.clear c' ∧
      (i.Gives k → (k.Usable c ↔ k.Usable c') → ∀ read rereads n quiet,
        (program ⟨layers, read⟩ rereads i n).map (Result.seen quiet) =
          (program ⟨layers', read⟩ rereads i n).map (Result.seen quiet)) ∧
      (¬k.Usable c → (∀ shell, i.command ≠ .completions shell) → ∃ m, c.problem? = some m ∧
        ∀ read rereads n, ∃ r, program ⟨layers, read⟩ rereads i n = some r ∧
          r.failure = some (ConfigError.invalid m).message) := by
  obtain ⟨c, c', hmerged, hmerged', hclear⟩ := merged_of_differ hdiffer
  refine ⟨c, c', congrArg Prod.fst hmerged, congrArg Prod.fst hmerged', hclear, ?_, ?_⟩
  · intro hgives husable read rereads n quiet
    have halike : MergeAlike layers layers' c c' :=
      ⟨hmerged, hmerged', Key.problem?_congr hclear husable⟩
    exact seen_program_of_alike ((halike.alike_begin hclear hgives quiet read).after rfl) rereads n
  · intro hunusable hcommand
    obtain ⟨m, hm⟩ := Key.exists_problem hunusable
    exact ⟨m, hm, fun read rereads n => program_of_problem hmerged hm hcommand rereads n⟩

/-- The user asks for pages without rows, one project for pages of twenty, and another for pages of
five. Whoever asks for three on the command line sees the same in both projects. -/
theorem page_size_overrides :
    ∃ (home project project' : Layer) (i : Invocation),
      home.file = .ok "[list]\npage_size = 0\n" ∧ project.file = .ok "[list]\npage_size = 20\n" ∧
      project'.file = .ok "[list]\npage_size = 5\n" ∧ i.Gives .pageSize ∧ ∀ read rereads n quiet,
        (program ⟨[home, project], read⟩ rereads i n).map (Result.seen quiet) =
          (program ⟨[home, project'], read⟩ rereads i n).map (Result.seen quiet) := by
  let home : Layer := ⟨"home", .ok "[list]\npage_size = 0\n"⟩
  let project : Layer := ⟨"project", .ok "[list]\npage_size = 20\n"⟩
  let project' : Layer := ⟨"project", .ok "[list]\npage_size = 5\n"⟩
  let paged : UInt32 → Config := fun n => ⟨some n, none, none, none, none⟩
  let i : Invocation :=
    ⟨false, some "data.json", .list ⟨none, fun _ => [], none, some ⟨3, by decide⟩, false⟩⟩
  have hhome : home.Sets (paged 0) := .found rfl (by decide +kernel)
  have hproject : project.Sets (paged 20) := .found rfl (by decide +kernel)
  have hproject' : project'.Sets (paged 5) := .found rfl (by decide +kernel)
  have hgives : i.Gives .pageSize := ⟨_, _, rfl, rfl⟩
  obtain ⟨c, c', hc, hc', -, hsame, -⟩ := flag_overrides (k := .pageSize) (i := i)
    (.cons ⟨_, _, hhome, hhome, rfl⟩ (.cons ⟨_, _, hproject, hproject', rfl⟩ .nil))
  rw [Config.mergeLayers_of_sets (.cons hhome (.cons hproject .nil))] at hc
  rw [Config.mergeLayers_of_sets (.cons hhome (.cons hproject' .nil))] at hc'
  cases hc
  cases hc'
  have husable : Key.pageSize.Usable (paged 20) ∧ Key.pageSize.Usable (paged 5) := by decide
  exact ⟨home, project, project', i, rfl, rfl, rfl, hgives,
    hsame hgives ⟨fun _ => husable.2, fun _ => husable.1⟩⟩

/-- **The flag comes too late** for a value that cannot be used: of no key can every value be overridden.
A file with such a value ends the run, where a file without it does not. -/
theorem flag_comes_too_late :
    ¬∃ k : Key, ∀ (i : Invocation) (layers layers' : List Layer), i.Gives k →
      List.Forall₂ (Layer.DifferOnlyIn k) layers layers' → ∀ read rereads n quiet,
        (program ⟨layers, read⟩ rereads i n).map (Result.seen quiet) =
          (program ⟨layers', read⟩ rereads i n).map (Result.seen quiet) := by
  rintro ⟨k, hk⟩
  let file : String → Layer := fun text => ⟨"config.toml", .ok text⟩
  let snapshot : String → Except ReadFault String := fun _ => .ok "\x7b\x7d"
  -- How a run ends, if it ends before the first refresh, is the same with any value as with none.
  let ending : String → Invocation → Option (Option String) := fun text i =>
    (program ⟨[file text], snapshot⟩ (fun path _ => snapshot path) i 0).map Result.failure
  have hending : ∀ (i : Invocation) (text : String) (c : Config), i.Gives k →
      Config.ofText? text = some c → k.clear c = .unset → ending text i = ending "" i := by
    intro i text c hgives htext hclear
    have hempty : Config.ofText? "" = some .unset := by decide +kernel
    have hdiffer : Layer.DifferOnlyIn k (file text) (file "") :=
      ⟨c, .unset, .found rfl htext, .found rfl hempty, by rw [hclear]; cases k <;> rfl⟩
    have hseen := hk i [file text] [file ""] hgives (.cons hdiffer .nil) snapshot
      (fun path _ => snapshot path) 0 false
    have hfailure := congrArg (Option.map Prod.snd) hseen
    rwa [Option.map_map, Option.map_map] at hfailure
  let list : Option PageSize → Invocation := fun size =>
    ⟨false, some "data.json", .list ⟨none, fun _ => [], none, size, false⟩⟩
  let watch : Option UInt64 → Invocation := fun interval =>
    ⟨false, some "data.json", .watch ⟨⟨"ingest", "r-1"⟩, none, interval⟩⟩
  cases k with
  | snapshotPath =>
      have hsame := hending (list none) "[backend]\nfixture_path = \"\"\n"
        ⟨none, none, none, some "", none⟩ ⟨_, rfl⟩ (by decide +kernel) rfl
      exact absurd hsame (by decide +kernel)
  | pageSize =>
      have hsame := hending (list (some ⟨3, by decide⟩)) "[list]\npage_size = 0\n"
        ⟨some 0, none, none, none, none⟩ ⟨_, _, rfl, rfl⟩ (by decide +kernel) rfl
      exact absurd hsame (by decide +kernel)
  | pollInterval =>
      have hsame := hending (watch (some 50)) "[poll]\ninterval_ms = 0\n"
        ⟨none, none, some 0, none, none⟩ ⟨_, _, rfl, rfl⟩ (by decide +kernel) rfl
      exact absurd hsame (by decide +kernel)

end Cli

end Lookout
